import Nephe.Membership.Events

/-!
# Recorded events

A `pendingGroup` records the events of a group that cannot be processed now: the
members to be added, by the text of their entity.  A removal only takes back an
addition that has been recorded.
-/

namespace Nephe

open Library

/-! ## What is recorded -/

/-- The text under which a member is recorded. -/
def GroupMember.text? (member : GroupMember) : Option String :=
  member.externalEntity.map NamespacedName.string

/-- Every member refers to an entity. -/
def AllEntities (members : List GroupMember) : Prop :=
  ∀ member ∈ members, member.externalEntity ≠ none

instance (members : List GroupMember) : Decidable (AllEntities members) :=
  inferInstanceAs (Decidable (∀ member ∈ members, _))

def textsOfMembers (members : List GroupMember) : List String :=
  members.filterMap GroupMember.text?

namespace PendingGroup

/-- The members are recorded under their own texts. -/
def Keyed (group : PendingGroup) : Prop :=
  ∀ key member, group.addedMembers.get? key = some member → member.text? = some key

/-- A member with the text is going to be added. -/
def Records (group : PendingGroup) (key : String) : Prop :=
  (group.addedMembers.get? key).isSome = true

end PendingGroup

/-! ## What the maps hold -/

/-- The listed members with a text. -/
def namedMembers (members : List GroupMember) (key : String) : List GroupMember :=
  members.filter fun member => member.text? = some key

theorem namedMembers_cons (member : GroupMember) (members : List GroupMember) (key : String) :
    namedMembers (member :: members) key =
      if member.text? = some key then member :: namedMembers members key
      else namedMembers members key := by
  simp only [namedMembers, List.filter_cons, decide_eq_true_eq]

theorem namedMembers_eq_nil {members : List GroupMember} {key : String} :
    namedMembers members key = [] ↔ key ∉ textsOfMembers members := by
  simp [namedMembers, textsOfMembers, List.filter_eq_nil_iff]

namespace PendingGroup

/-- The removals that take back no recorded addition; only the first one can. -/
def removalsLeft (group : PendingGroup) (removed : List GroupMember) (key : String) :
    List GroupMember :=
  if (group.addedMembers.get? key).isSome then (namedMembers removed key).tail
  else namedMembers removed key

/--
The maps hold the members of the event that refer to an entity, and nothing else
that was not there before.

A member is removed before it is added, of several members with one text the last
one counts, and a removal first takes back an addition.
-/
structure HoldsExactly (before : PendingGroup) (added removed : List GroupMember)
    (after : PendingGroup) : Prop where
  addedMembers : ∀ key, after.addedMembers.get? key =
    (namedMembers added key).getLast?.or
      (if namedMembers removed key = [] then before.addedMembers.get? key else none)
  removedMembers : ∀ key, after.removedMembers.get? key =
    if namedMembers added key = [] then
      (before.removalsLeft removed key).getLast?.or (before.removedMembers.get? key)
    else none

section

variable (state : PendingGroup × Bool) (member : GroupMember) (key : String)

theorem recordRemoved_lookup :
    (recordRemoved state member).1.addedMembers.get? key =
        (if member.text? = some key then none else state.1.addedMembers.get? key) ∧
      (recordRemoved state member).1.removedMembers.get? key =
        if member.text? = some key ∧ state.1.addedMembers.get? key = none then some member
        else state.1.removedMembers.get? key := by
  unfold recordRemoved GroupMember.text?
  cases member.externalEntity with
  | none => simp
  | some reference =>
    simp only [Option.map_some, Option.some.injEq]
    by_cases here : reference.string = key
    · subst here
      cases recorded : state.1.addedMembers.get? reference.string with
      | none => simp [recorded]
      | some old => simp
    · have other : ¬ key = reference.string := fun same => here same.symm
      split <;> simp [here, other]

theorem recordAdded_lookup :
    (recordAdded state member).1.addedMembers.get? key =
        (if member.text? = some key then some member else state.1.addedMembers.get? key) ∧
      (recordAdded state member).1.removedMembers.get? key =
        if member.text? = some key then none else state.1.removedMembers.get? key := by
  unfold recordAdded GroupMember.text?
  cases member.externalEntity with
  | none => simp
  | some reference =>
    simp only [Option.map_some, Option.some.injEq, GoMap.get?_set, GoMap.get?_remove, eq_comm,
      and_self]

end

theorem foldl_recordRemoved_lookup (members : List GroupMember) (state : PendingGroup × Bool)
    (key : String) :
    (members.foldl recordRemoved state).1.addedMembers.get? key =
        (if namedMembers members key = [] then state.1.addedMembers.get? key else none) ∧
      (members.foldl recordRemoved state).1.removedMembers.get? key =
        (state.1.removalsLeft members key).getLast?.or (state.1.removedMembers.get? key) := by
  induction members generalizing state with
  | nil => simp [namedMembers, removalsLeft]
  | cons member rest induction =>
    obtain ⟨inAdded, inRemoved⟩ := recordRemoved_lookup state member key
    rw [List.foldl_cons, (induction _).1, (induction _).2]
    simp only [removalsLeft, namedMembers_cons, inAdded, inRemoved]
    by_cases here : member.text? = some key
    · cases recorded : state.1.addedMembers.get? key with
      | none => simp [here, List.getLast?_cons]
      | some old => simp [here]
    · simp [here]

theorem foldl_recordAdded_lookup (members : List GroupMember) (state : PendingGroup × Bool)
    (key : String) :
    (members.foldl recordAdded state).1.addedMembers.get? key =
        (namedMembers members key).getLast?.or (state.1.addedMembers.get? key) ∧
      (members.foldl recordAdded state).1.removedMembers.get? key =
        if namedMembers members key = [] then state.1.removedMembers.get? key else none := by
  induction members generalizing state with
  | nil => simp [namedMembers]
  | cons member rest induction =>
    obtain ⟨inAdded, inRemoved⟩ := recordAdded_lookup state member key
    rw [List.foldl_cons, (induction _).1, (induction _).2]
    simp only [namedMembers_cons, inAdded, inRemoved]
    by_cases here : member.text? = some key
    · simp [here, List.getLast?_cons]
    · simp [here]

/-! ## What panics -/

theorem foldl_panics {record : PendingGroup × Bool → GroupMember → PendingGroup × Bool}
    (step : ∀ state member, (record state member).2 = (state.2 || member.externalEntity.isNone))
    (members : List GroupMember) (state : PendingGroup × Bool) :
    (members.foldl record state).2 = true ↔ state.2 = true ∨ ¬ AllEntities members := by
  induction members generalizing state with
  | nil => simp [AllEntities]
  | cons member rest induction =>
    rw [List.foldl_cons, induction, step]
    simp only [AllEntities, List.forall_mem_cons, Bool.or_eq_true, Option.isNone_iff_eq_none,
      not_and_or, ne_eq, not_not, or_assoc]

theorem recordRemoved_panics (state : PendingGroup × Bool) (member : GroupMember) :
    (recordRemoved state member).2 = (state.2 || member.externalEntity.isNone) := by
  unfold recordRemoved
  cases member.externalEntity with
  | none => simp
  | some reference =>
    simp only
    split <;> simp

theorem recordAdded_panics (state : PendingGroup × Bool) (member : GroupMember) :
    (recordAdded state member).2 = (state.2 || member.externalEntity.isNone) := by
  unfold recordAdded
  cases member.externalEntity <;> simp

/-- Recording a change of members fills the maps, and panics at a member without an entity. -/
theorem updatePendingItem_change (group : PendingGroup) {type : EventType}
    (known : type = .added ∨ type = .modified) (added removed : List GroupMember) :
    HoldsExactly group added removed (group.updatePendingItem (.event type added removed)).1 ∧
      ((group.updatePendingItem (.event type added removed)).2 = false ↔
        AllEntities added ∧ AllEntities removed) := by
  have notDeleted : type ≠ .deleted := by rcases known with rfl | rfl <;> simp
  simp only [updatePendingItem, notDeleted, if_false, known, if_true]
  refine ⟨⟨fun key => ?_, fun key => ?_⟩, ?_⟩
  · rw [(foldl_recordAdded_lookup _ _ _).1, (foldl_recordRemoved_lookup _ _ _).1]
  · rw [(foldl_recordAdded_lookup _ _ _).2, (foldl_recordRemoved_lookup _ _ _).2]
    rfl
  · rw [← Bool.not_eq_true, foldl_panics recordAdded_panics, foldl_panics recordRemoved_panics]
    simp only [Bool.false_eq_true, false_or, not_or, not_not, and_comm]

section

variable {group : PendingGroup} {type : EventType} {added removed : List GroupMember}

theorem HoldsExactly.stored {after : PendingGroup} (holds : HoldsExactly group added removed after)
    {key : String} {member : GroupMember} (found : after.addedMembers.get? key = some member) :
    member ∈ namedMembers added key ∨ group.addedMembers.get? key = some member := by
  rw [holds.addedMembers, Option.or_eq_some_iff] at found
  rcases found with last | ⟨_, old⟩
  · exact .inl (List.mem_of_getLast? last)
  · split at old
    next => exact .inr old
    next => cases old

theorem HoldsExactly.records {after : PendingGroup}
    (holds : HoldsExactly group added removed after) (key : String) :
    after.Records key ↔
      key ∈ textsOfMembers added ∨ (group.Records key ∧ key ∉ textsOfMembers removed) := by
  rw [Records, holds.addedMembers, Option.isSome_or, Bool.or_eq_true, List.getLast?_isSome, ne_eq,
    namedMembers_eq_nil, not_not]
  refine or_congr_right ?_
  split
  next none_ => exact (and_iff_left (namedMembers_eq_nil.mp none_)).symm
  next some_ => simp [not_not.mp (mt namedMembers_eq_nil.mpr some_)]

theorem updatePendingItem_members (known : type = .added ∨ type = .modified)
    (entities : AllEntities added) (entities' : AllEntities removed) (keyed : group.Keyed) :
    ∃ recorded, group.updatePendingItem (.event type added removed) = (recorded, false) ∧
      recorded.Keyed ∧ recorded.event = some (group.event.getD type) ∧
      (∀ key member, recorded.addedMembers.get? key = some member →
        member ∈ added ∨ group.addedMembers.get? key = some member) ∧
      ∀ key, recorded.Records key ↔
        key ∈ textsOfMembers added ∨ (group.Records key ∧ key ∉ textsOfMembers removed) := by
  obtain ⟨holds, safe⟩ := group.updatePendingItem_change known added removed
  obtain ⟨_, _, maps⟩ := group.updatePendingItem_maps known added removed
  refine ⟨_, Prod.ext rfl (safe.mpr ⟨entities, entities'⟩), fun key member found => ?_,
    congrArg PendingGroup.event maps, fun key member found => ?_, holds.records⟩
  · rcases holds.stored found with named | old
    · exact of_decide_eq_true (List.mem_filter.mp named).2
    · exact keyed key member old
  · exact (holds.stored found).imp_left List.mem_of_mem_filter

end

end PendingGroup

/-- Running a recorded event processes its additions, unless there are none. -/
theorem PendingGroup.runPendingItem_eq {name : String} {kind : Bool} {r : Reconciler}
    {group : PendingGroup} {type : EventType} (plain : PlainName name)
    (filled : group.addedMembers.values.length ≠ 0) (event : group.event = some type)
    (unparked : r.pendingDeleteGroups.has (getGroupUniqueName name kind) = false) :
    let members := arrange (r.order 0) group.addedMembers.values
    let result := r.advance.processMembers name type kind members []
    group.runPendingItem (getGroupUniqueName name kind) r =
      (group.refCnt.isSome || !result.1,
        result.2.retryMemberGrp name type kind result.1 members []) := by
  have unparked : r.advance.pendingDeleteGroups.has (getGroupUniqueName name kind) = false :=
    unparked
  simp [runPendingItem, filled, event, getGroupIDFromUniqueName_uniqueName plain kind,
    Reconciler.processMemberGrp, unparked]

end Nephe
