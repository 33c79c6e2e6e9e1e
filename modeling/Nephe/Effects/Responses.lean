import Nephe.Effects.Retries

/-!
# Responses of the plug-in, as effects
-/

namespace Nephe

open Library

namespace Reconciler

variable {r : Reconciler} {c : Ref} {op : SecurityGroupOperation} {err : Option String}

/-! ## The object and its queued item -/

theorem recordStatus_effects (op : SecurityGroupOperation) (err : Option String)
    (allocated : c < r.nextRef) :
    Effects (· = .response c op err) r (r.recordStatus c op err) := by
  simp only [recordStatus]
  split
  · exact .refl r
  next current => exact .single rfl (.status c op err allocated current)

/-- The item queued under the name of the object hears of the response. -/
theorem retryQueueUpdate_operation_effects :
    Effects (· = .response c op err) r
      (r.retryQueueUpdate (r.objects c).uName (.operation op)) := by
  simp only [retryQueueUpdate, QueueAt.update, retryQueueAt]
  split
  · exact .refl r
  next counting found =>
    obtain ⟨item, count⟩ := counting
    cases item with
    | securityGroup d => exact .single rfl (.answerItem c op err d count found)
    | pendingGroup group =>
      -- A group event sits under the name: the type assertion fails.
      have touched : Effects (· = .response c op err) r
          { r with
            retryQueue := r.retryQueue.setItem (r.objects c).uName (.pendingGroup group) } :=
        .single rfl (.touchItem _ ⟨.pendingGroup group, count⟩ found)
      exact touched.tail rfl .panic

theorem queueRetry_effects (allocated : c < r.nextRef) (networked : (r.objects c).Networked)
    (deleting : op = .delete → (r.objects c).state = .garbageCollectState) :
    Effects (· = .response c op err) r (r.queueRetry c op err) := by
  simp only [queueRetry]
  split
  next queue =>
    simp only [Bool.and_eq_true, Bool.not_eq_true', Bool.or_eq_true, decide_eq_true_eq,
      beq_iff_eq] at queue
    obtain ⟨⟨failed, free⟩, current⟩ := queue
    obtain ⟨message, rfl⟩ := Option.isSome_iff_exists.mp failed
    exact .single rfl (.queueRetry c op message allocated networked
      (by simpa [PendingItemQueue.has] using free) current deleting)
  next => exact .refl r

/-! ## The two kinds of group -/

theorem addrResponse_effects (base : Base r.toCore) (allocated : c < r.nextRef)
    (networked : (r.objects c).Networked) (kind : (r.objects c).membershipOnly = true)
    (nps : List String) :
    Effects (· = .response c op none) r (r.addrResponse c op nps) := by
  simp only [addrResponse]
  split
  next added =>
    subst added
    have created : Effects (· = .response c .add none) r
        (r.assign c fun s =>
          { s with state := if s.state = .init then .created else s.state }) := by
      by_cases init : (r.objects c).state = .init
      · have effect := Effect.created c allocated networked init
        simp only [assign, init, if_true] at effect ⊢
        exact .single rfl effect
      · simp only [assign, init, if_false, Function.update_eq_self]
        exact .refl r
    obtain ⟨allocated, sameKind, _⟩ := static_effects created allocated
    have updated := created.trans (update_nil_effects allocated
      fun _ _ => ⟨rfl, rfl, .inl ⟨sameKind.trans kind, rfl⟩⟩)
    exact updated.trans ((base.effects updated).forAny_effects rfl fun key _ base =>
      notifyAddrGrpChanges_effects base c key)
  next => exact .refl r

theorem appliedToResponse_effects (allocated : c < r.nextRef)
    (kind : (r.objects c).membershipOnly = false) :
    Effects (· = .response c op none) r (r.appliedToResponse c op) := by
  cases op with
  | add =>
    simp only [appliedToResponse]
    split
    next init =>
      have created : Effects (· = .response c .add none) r
          (r.assign c fun s => { s with state := .created }) :=
        .single rfl (.created c allocated (SecurityGroup.networked_of_appliedTo kind) init)
      obtain ⟨allocated, sameKind, _⟩ := static_effects created allocated
      exact created.trans (updateRules_effects allocated (sameKind.trans kind)
        ⟨rfl, .inl ⟨rfl, .inl rfl⟩⟩)
    next => exact .refl r
  | updateMembers =>
    exact .single rfl (.setHasMembers c true allocated kind ⟨rfl, rfl, .inl ⟨rfl, rfl⟩⟩)
  | updateRules =>
    have noted : Effects (· = .response c .updateRules none) r
        (r.assign c fun s => { s with hasRules := true }) :=
      .single rfl (.setHasRules c allocated kind ⟨rfl, rfl, rfl⟩)
    obtain ⟨allocated, sameKind, _⟩ := static_effects noted allocated
    simp only [appliedToResponse]
    split
    · exact noted
    · refine noted.trans (update_nil_effects allocated fun _ _ => ⟨rfl, rfl, .inr
        ⟨sameKind.trans kind, rfl, ?_⟩⟩)
      simp [assign]
  | clearMembers =>
    have noted : Effects (· = .response c .clearMembers none) r
        (r.assign c fun s => { s with hasMembers := false }) :=
      .single rfl (.setHasMembers c false allocated kind ⟨rfl, rfl, .inr ⟨rfl, rfl⟩⟩)
    obtain ⟨allocated, sameKind, _⟩ := static_effects noted allocated
    simp only [appliedToResponse]
    split
    · exact noted.trans (updateRules_effects allocated (sameKind.trans kind)
        ⟨rfl, .inl ⟨rfl, .inr rfl⟩⟩)
    · exact noted
  | delete => exact .refl r

theorem quiet_markTrackersDirty (id : String) :
    Quiet (fun _ => False) (fun _ => False) r (r.markTrackersDirty id) := by
  refine Quiet.forEach (fun entry _ r => ?_) r
  exact quiet_adjustTracker entry.1 _ fun _ => ⟨rfl, rfl⟩

theorem quiet_markPoliciesDirty (nps : List String) :
    Quiet (fun _ => False) (fun _ => False) r (r.markPoliciesDirty nps) := by
  refine Quiet.forRange (fun key _ r => ?_) r
  split
  · exact quiet_markPolicyDirty _
  · exact .refl r

theorem addrProcess_effects (op : SecurityGroupOperation) (err : Option String)
    (base : Base r.toCore) (allocated : c < r.nextRef) (networked : (r.objects c).Networked)
    (kind : (r.objects c).membershipOnly = true) (nps : List String) :
    Effects (· = .response c op err) r (r.addrProcess c op err nps) := by
  have recorded := recordStatus_effects op err allocated
  simp only [addrProcess]
  split
  · exact recorded
  next succeeded =>
    obtain rfl : err = none := by simpa using succeeded
    have told := recorded.trans retryQueueUpdate_operation_effects
    have networked := networked_effects told allocated networked
    obtain ⟨allocated, sameKind, _⟩ := static_effects told allocated
    exact told.trans (addrResponse_effects (base.effects told) allocated networked
      (sameKind.trans kind) _)

theorem addrHandle_effects (base : Base r.toCore) (allocated : c < r.nextRef)
    (networked : (r.objects c).Networked) (kind : (r.objects c).membershipOnly = true) :
    Effects (· = .response c op err) r (r.addrHandle c op err) := by
  have processed := addrProcess_effects op err base allocated networked kind
    ((r.policiesByAddrGrp (r.objects c).id.name).map (·.1))
  simp only [addrHandle]
  split
  · exact processed.trans ((quiet_markPoliciesDirty _).mark_effects _)
  · exact processed

theorem appliedToProcess_effects (allocated : c < r.nextRef)
    (kind : (r.objects c).membershipOnly = false) :
    Effects (· = .response c op err) r (r.appliedToProcess c op err) := by
  have recorded := recordStatus_effects op err allocated
  simp only [appliedToProcess]
  split
  · exact recorded
  next succeeded =>
    obtain rfl : err = none := by simpa using succeeded
    have told := recorded.trans retryQueueUpdate_operation_effects
    obtain ⟨allocated, sameKind, _⟩ := static_effects told allocated
    exact told.trans (appliedToResponse_effects allocated (sameKind.trans kind))

theorem appliedToHandle_effects (allocated : c < r.nextRef)
    (kind : (r.objects c).membershipOnly = false) :
    Effects (· = .response c op err) r (r.appliedToHandle c op err) :=
  (appliedToProcess_effects allocated kind).trans
    ((quiet_markTrackersDirty _).mark_effects _)

/-! ## Up to the check of the queue -/

/-- The part of `processCloudResponse` before `notifyImpl`. -/
def handleResponse (c : Ref) (op : SecurityGroupOperation) (err : Option String)
    (r : Reconciler) : Reconciler :=
  if (r.objects c).membershipOnly then r.addrHandle c op err else r.appliedToHandle c op err

/-- The part of `processCloudResponse` before the retry queue is checked. -/
def receiveResponse (c : Ref) (op : SecurityGroupOperation) (err : Option String)
    (r : Reconciler) : Reconciler :=
  let r := (r.handleResponse c op err).queueRetry c op err
  r.retryQueueUpdate (r.objects c).uName (.operation op)

/-- The part of `processCloudResponse` from the check of the retry queue on. -/
def finishResponse (c : Ref) (op : SecurityGroupOperation) (err : Option String)
    (r : Reconciler) : Reconciler :=
  let r := if err.isNone then r.retryQueueCheckRun (r.objects c).uName else r
  if op = .delete then r.releaseDelete c else r

theorem uName_effects {allowed : Origin → Prop} {r' : Reconciler}
    (effects : Effects allowed r r') (allocated : c < r.nextRef) :
    (r'.objects c).uName = (r.objects c).uName ∧ (r'.objects c).guName = (r.objects c).guName := by
  obtain ⟨_, sameKind, sameId⟩ := static_effects effects allocated
  simp only [SecurityGroup.uName, SecurityGroup.guName, sameKind, sameId, and_self]

section Received

variable (base : Base r.toCore) (allocated : c < r.nextRef) (networked : (r.objects c).Networked)
  (deleting : op = .delete → (r.objects c).state = .garbageCollectState)

include base allocated networked deleting

theorem queueRetry_handled_effects : Effects (· = .response c op err) r
    ((r.handleResponse c op err).queueRetry c op err) := by
  have handled : Effects (· = .response c op err) r (r.handleResponse c op err) := by
    simp only [handleResponse]
    split
    next kind => exact addrHandle_effects base allocated networked kind
    next applied => exact appliedToHandle_effects allocated (by simpa using applied)
  have still := (base.state_mono handled allocated).2
  exact handled.trans (queueRetry_effects (static_effects handled allocated).1
    (networked_effects handled allocated networked) fun delete => still (deleting delete))

theorem receiveResponse_effects :
    Effects (· = .response c op err) r (r.receiveResponse c op err) :=
  (queueRetry_handled_effects base allocated networked deleting).trans
    retryQueueUpdate_operation_effects

theorem processCloudResponse_eq : r.processCloudResponse c op err =
    (r.receiveResponse c op err).finishResponse c op err := by
  have notified : r.processCloudResponse c op err =
      (r.handleResponse c op err).notifyImpl c op err := by
    simp only [processCloudResponse, handleResponse]
    split <;> rfl
  have effects : Effects (· = .response c op err) r (r.receiveResponse c op err) :=
    receiveResponse_effects base allocated networked deleting
  have queued : Effects (· = .response c op err) r
      ((r.handleResponse c op err).queueRetry c op err) :=
    queueRetry_handled_effects base allocated networked deleting
  have same : ((r.receiveResponse c op err).objects c).uName =
      (((r.handleResponse c op err).queueRetry c op err).objects c).uName :=
    (uName_effects effects allocated).1.trans (uName_effects queued allocated).1.symm
  rw [notified]
  simp only [notifyImpl, updateRetry, finishResponse, same]
  rfl

end Received

/-! ## The entry of a group that is being deleted -/

/-- Take the entry of a group out of `pendingDeleteGroups`. -/
def clearEntry (key : String) (r : Reconciler) : Reconciler :=
  { r with pendingDeleteGroups := r.pendingDeleteGroups.remove key }

/-- One delete of a group has been answered. -/
def countAnswer (key : String) (runOnClear : Bool) (r : Reconciler) : Reconciler :=
  { r with
    pendingDeleteGroups := r.pendingDeleteGroups.reference key (-1) runOnClear }

variable {group : PendingGroup} {refCnt : Int}

/-- A parked event is run once. -/
theorem runPendingGroup_parked (counts : group.refCnt = some refCnt) (key : String) :
    (group.runPendingItem key r).1 = true := by
  simp only [PendingGroup.runPendingItem, counts]
  split
  · rfl
  · split <;> simp

/-- An entry that has no deletes left goes away. -/
theorem clearEntry_effects {count : Option Int}
    (found : r.pendingDeleteGroups.items.get? (r.objects c).guName =
      some ⟨.pendingGroup group, count⟩) (counts : group.refCnt = some refCnt)
    (cleared : refCnt ≤ 0) (runs : group.runOnClear = true) :
    Effects (· = .release c) r (r.clearEntry (r.objects c).guName) :=
  .single rfl (.removeEntry c group refCnt count found counts cleared runs)

/-- `Update` with a check on the entry of a group. -/
theorem pendingDeleteGroupsCheckRun_eq (base : Base r.toCore)
    (found : r.pendingDeleteGroups.items.get? (r.objects c).guName =
      some ⟨.pendingGroup group, none⟩) (counts : group.refCnt = some refCnt)
    (kept : group.event ≠ some .deleted) :
    r.pendingDeleteGroupsCheckRun (r.objects c).guName =
      if 0 < refCnt ∨ group.runOnClear = false then r
      else (group.runPendingItem (r.objects c).guName (r.clearEntry (r.objects c).guName)).2 := by
  generalize named : (r.objects c).guName = key
  have get : pendingDeleteGroupsAt.get r = r.pendingDeleteGroups := rfl
  have remove (r : Reconciler) :
      pendingDeleteGroupsAt.change (·.remove key) r = r.clearEntry key := rfl
  rw [named] at found
  by_cases waiting : 0 < refCnt ∨ group.runOnClear = false
  · simp [pendingDeleteGroupsCheckRun, QueueAt.checkRun, get, found,
      PendingItem.runOrDeletePendingItem, PendingGroup.runOrDeletePendingItem, counts, waiting]
  · obtain ⟨cleared, runs⟩ : refCnt ≤ 0 ∧ group.runOnClear = true := by simpa using waiting
    have clear : Effects (· = .release c) r (r.clearEntry key) :=
      named ▸ clearEntry_effects (named ▸ found) counts cleared runs
    -- The entry is gone before the parked event runs, and the event does not make a new one.
    have absent : (r.clearEntry key).pendingDeleteGroups.has key = false := by
      simp [clearEntry, PendingItemQueue.has, PendingItemQueue.get?_remove]
    have ran := runPendingGroup_effects (base.effects clear) group kept key
    have gone : (group.runPendingItem key (r.clearEntry key)).2.pendingDeleteGroups.items.get?
        key = none := by
      simpa [PendingItemQueue.has] using (has_event_effects ran key).trans absent
    have setCount (r : Reconciler) (gone : r.pendingDeleteGroups.items.get? key = none) :
        pendingDeleteGroupsAt.change (·.setCount key none) r = r := by
      simp only [pendingDeleteGroupsAt, PendingItemQueue.setCount, GoMap.adjust, gone]
    have again (r : Reconciler) (gone : r.pendingDeleteGroups.items.get? key = none) :
        r.clearEntry key = r := by
      simp only [clearEntry, PendingItemQueue.remove, GoMap.remove_of_get?_eq_none gone]
    simp [pendingDeleteGroupsCheckRun, QueueAt.checkRun, get, found,
      PendingItem.runOrDeletePendingItem, PendingGroup.runOrDeletePendingItem, counts, waiting,
      remove, PendingItem.runPendingItem, runPendingGroup_parked counts, setCount _ gone,
      again _ gone]

/-- The count of the entry is lowered; if nothing is left to delete, a parked event runs. -/
theorem releaseDelete_parts (base : Base r.toCore) :
    ∃ released, Effects (· = .release c) r released ∧
      (r.releaseDelete c = released ∨ ∃ group : PendingGroup, group.event ≠ some .deleted ∧
        r.releaseDelete c = (group.runPendingItem (r.objects c).guName released).2) := by
  have counted : Effects (· = .release c) r
      (r.countAnswer (r.objects c).guName (!r.moreOps c)) :=
    .single rfl (.release c (!r.moreOps c))
  have base' := base.effects counted
  simp only [releaseDelete,
    pendingDeleteGroupsUpdate_reference fun counting found => base.entries _ counting found]
  change ∃ released, _ ∧ ((r.countAnswer (r.objects c).guName
    (!r.moreOps c)).pendingDeleteGroupsCheckRun
      ((r.countAnswer (r.objects c).guName (!r.moreOps c)).objects c).guName = released ∨ _)
  cases found : (r.countAnswer (r.objects c).guName
      (!r.moreOps c)).pendingDeleteGroups.items.get?
        ((r.countAnswer (r.objects c).guName (!r.moreOps c)).objects c).guName with
  | none =>
    refine ⟨_, counted, .inl ?_⟩
    simp only [pendingDeleteGroupsCheckRun, QueueAt.checkRun, pendingDeleteGroupsAt, found]
  | some counting =>
    obtain ⟨unbounded, group, refCnt, isGroup, counts, kept⟩ := base'.entries _ counting found
    obtain ⟨item, opCnt⟩ := counting
    obtain rfl : item = .pendingGroup group := isGroup
    obtain rfl : opCnt = none := unbounded
    have checked := pendingDeleteGroupsCheckRun_eq base' found counts kept
    split at checked
    · exact ⟨_, counted, .inl checked⟩
    next clear =>
      obtain ⟨cleared, runs⟩ : refCnt ≤ 0 ∧ group.runOnClear = true := by simpa using clear
      exact ⟨_, counted.trans (clearEntry_effects found counts cleared runs),
        .inr ⟨group, kept, checked⟩⟩

/-- The origins of the end of a response to a delete. -/
def Releases (core : Core) (c : Ref) (o : Origin) : Prop :=
  o = .release c ∨
    o = .event (getGroupIDFromUniqueName (core.objects c).guName).1
      (getGroupIDFromUniqueName (core.objects c).guName).2

theorem releaseDelete_effects (base : Base r.toCore) :
    Effects (Releases r.toCore c) r (r.releaseDelete c) := by
  obtain ⟨released, effects, same | ⟨group, kept, same⟩⟩ := releaseDelete_parts (c := c) base
  · rw [same]
    exact effects.only (.inl rfl)
  · rw [same]
    exact (effects.only (.inl rfl)).trans
      ((runPendingGroup_effects (base.effects effects) group kept _).only (.inr rfl))

end Reconciler

end Nephe
