import Nephe.Membership.Accumulator

/-!
# Recording members

An event that cannot be processed is recorded in a `pendingGroup`: it is parked
while its group is being deleted, and kept for a retry when a member cannot be
resolved.  Resolving skips the members that refer to no entity.  Recording
dereferences the entity of every member.
-/

namespace Nephe

open Library

/-! ## Events that are recorded -/

/-- The recorded group under a name, in `pendingDeleteGroups` or in the retry queue. -/
def Reconciler.recordedGroup (parked : Bool) (uName : String) (r : Reconciler) :
    Option PendingGroup :=
  let queue := if parked then r.pendingDeleteGroups else r.retryQueue
  match queue.items.get? uName with
  | some ⟨.pendingGroup group, _⟩ => some group
  | _ => none

/--
`processMemberGrp` records the event in a group.

It is the entry of a deletion in progress, or the item in the retry queue, which
is made when there is none.
-/
inductive RecordsInto (r : Reconciler) (name : String) (type : EventType) (isAddrGrp : Bool)
    (added removed : List GroupMember) : Bool → PendingGroup → Prop
  | parked {group : PendingGroup} {opCnt : Option Int}
      (found : r.pendingDeleteGroups.items.get? (getGroupUniqueName name isAddrGrp) =
        some ⟨.pendingGroup group, opCnt⟩) :
      RecordsInto r name type isAddrGrp added removed true group
  | retried {group : PendingGroup} {opCnt : Option Int}
      (free : r.pendingDeleteGroups.has (getGroupUniqueName name isAddrGrp) = false)
      (failed : (r.processMembers name type isAddrGrp added removed).1 = true)
      (found : (r.retryQueue.add (getGroupUniqueName name isAddrGrp) (.pendingGroup {})).items.get?
        (getGroupUniqueName name isAddrGrp) = some ⟨.pendingGroup group, opCnt⟩) :
      RecordsInto r name type isAddrGrp added removed false group

namespace Reconciler

variable {r : Reconciler} {name : String} {type : EventType} {isAddrGrp parked : Bool}
  {added removed : List GroupMember} {group : PendingGroup}

/-- An event that fails has changed nothing. -/
theorem processMembers_failed
    (failed : (r.processMembers name type isAddrGrp added removed).1 = true) :
    r.processMembers name type isAddrGrp added removed = (true, r) := by
  revert failed
  unfold processMembers
  repeat' split
  all_goals first | exact fun _ => rfl | simp

/-- What `processMemberGrp` leaves of an event that is recorded. -/
theorem processMemberGrp_recorded
    (records : RecordsInto r name type isAddrGrp added removed parked group)
    (known : type = .added ∨ type = .modified) :
    let r' := (r.processMemberGrp name type isAddrGrp added removed).2
    let recorded := group.updatePendingItem (.event type added removed)
    r'.recordedGroup parked (getGroupUniqueName name isAddrGrp) = some recorded.1 ∧
      r'.panicked = (r.panicked || recorded.2) := by
  have notDeleted : type ≠ .deleted := by rcases known with rfl | rfl <;> simp
  cases records with
  | parked found =>
    have waiting : r.pendingDeleteGroups.has (getGroupUniqueName name isAddrGrp) = true := by
      simp [PendingItemQueue.has, found]
    simp only [processMemberGrp, waiting, if_true, retryMemberGrp, Bool.false_eq_true, false_and,
      if_false, notDeleted, pendingDeleteGroupsUpdate, QueueAt.update, pendingDeleteGroupsAt,
      found, PendingItem.updatePendingItem]
    cases (group.updatePendingItem (.event type added removed)).2 <;>
      simp [recordedGroup, panic, PendingItemQueue.get?_setItem, found]
  | retried free failed found =>
    simp only [processMemberGrp, free, Bool.false_eq_true, if_false,
      processMembers_failed failed, retryMemberGrp, known, and_self, if_true, notDeleted,
      retryQueueUpdate, QueueAt.update, retryQueueAt, found, PendingItem.updatePendingItem]
    cases (group.updatePendingItem (.event type added removed)).2 <;>
      simp [recordedGroup, panic, PendingItemQueue.get?_setItem, found]

/--
Recording an event does not panic, and leaves exactly the members that refer to
an entity, if and only if every member does.
-/
theorem recording_keeps_members_with_entities
    (records : RecordsInto r name type isAddrGrp added removed parked group)
    (known : type = .added ∨ type = .modified) (running : r.panicked = false) :
    ((r.processMemberGrp name type isAddrGrp added removed).2.panicked = false ∧
        ∃ recorded, (r.processMemberGrp name type isAddrGrp added removed).2.recordedGroup parked
            (getGroupUniqueName name isAddrGrp) = some recorded ∧
          PendingGroup.HoldsExactly group added removed recorded) ↔
      AllEntities added ∧ AllEntities removed := by
  obtain ⟨found, panics⟩ := processMemberGrp_recorded records known
  obtain ⟨exact, safe⟩ := group.updatePendingItem_change known added removed
  rw [panics, found, running, Bool.false_or, safe]
  exact and_iff_left ⟨_, rfl, exact⟩

/-- A member whose entity is not in the API server. -/
def missingMember : GroupMember := ⟨some ⟨"n", "e"⟩⟩

/-- A member that refers to no entity. -/
def podMember : GroupMember := ⟨none⟩

theorem missing_member_is_recorded :
    (setup.processMemberGrp "g" .added true [missingMember] []).2.panicked = false ∧
      ∃ recorded, (setup.processMemberGrp "g" .added true [missingMember] []).2.recordedGroup false
          (getGroupUniqueName "g" true) = some recorded ∧
        PendingGroup.HoldsExactly {} [missingMember] [] recorded :=
  (recording_keeps_members_with_entities
    (.retried (by decide +kernel) (by decide +kernel) rfl) (.inl rfl) rfl).mpr
    (by decide +kernel)

/-- An event with a missing member and one without an entity ends the controller. -/
theorem member_without_entity_panics :
    (setup.processMemberGrp "g" .added true [missingMember, podMember] []).2.panicked = true := by
  decide +kernel

end Reconciler

end Nephe
