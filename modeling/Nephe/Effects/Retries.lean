import Nephe.Effects.Members

/-!
# The retry queue, as effects

What running one queued item does, for the two loops of the queue: `Update` of
one item with a check and `CheckToRun` of all items.
-/

namespace Nephe

open Library

/-! ## The queue while an item runs -/

variable {r r' : Reconciler} {c : Ref} {op : Option SecurityGroupOperation} {name key : String}
  {membershipOnly : Bool} {count : Option Int}

theorem observed_mono {allowed : Origin → Prop} (effects : Effects allowed r r') {x : Observation}
    (member : x ∈ r.observed) : x ∈ r'.observed :=
  effects.invariant (fun r => x ∈ r.observed)
    (fun _ _ _ _ effect member => by
      cases effect with
      | listen | create | beginDelete | pushMembers | pushNoMembers | pushRules | finished
      | startRetry | retryAddEarly => exact List.mem_cons_of_mem _ member
      | retryAdd | retryDelete =>
        exact List.mem_cons_of_mem _ (List.mem_cons_of_mem _ member)
      | _ => exact member) member

/-- Retrying an operation does not change the queue. -/
theorem Effect.queue_retry (effect : Effect (.retry c op) r r') (key : String) :
    r'.retryQueue.items.get? key = r.retryQueue.items.get? key := by
  cases effect with
  | forget _ _ deletes => exact deletes.elim
  | beginDelete _ _ deletes => exact deletes.elim
  | touchItem id counting found =>
    refine (PendingItemQueue.get?_setItem _ _ _ _).trans ?_
    split
    next equal => rw [equal, found, Option.map_some]
    next => rfl
  | _ => rfl

theorem queue_retry_effects (effects : Effects (· = .retry c op) r r') (key : String) :
    r'.retryQueue.items.get? key = r.retryQueue.items.get? key :=
  effects.invariant
    (fun r' => r'.retryQueue.items.get? key = r.retryQueue.items.get? key)
    (fun _ _ _ permitted effect before => by
      subst permitted
      exact (effect.queue_retry key).trans before) rfl

/-- A queued group event stays queued, with its budget, while group events are applied. -/
theorem Effect.item_event (effect : Effect (.event name membershipOnly) r r')
    (queued : ∃ group, r.retryQueue.items.get? key = some ⟨.pendingGroup group, count⟩) :
    ∃ group, r'.retryQueue.items.get? key = some ⟨.pendingGroup group, count⟩ := by
  cases effect with
  | forget _ _ deletes => exact deletes.elim
  | beginDelete _ _ deletes => exact deletes.elim
  | touchItem id counting found =>
    obtain ⟨group, there⟩ := queued
    refine ⟨group, (PendingItemQueue.get?_setItem _ _ _ _).trans ?_⟩
    split
    next equal => rw [found, Option.map_some, ← found, ← equal, there]
    next => exact there
  | queueEvent group retry kept slot =>
    obtain ⟨old, there⟩ := queued
    by_cases equal : key = getGroupUniqueName name membershipOnly
    · subst equal
      refine ⟨group, (PendingItemQueue.get?_setItem _ _ _ _).trans ?_⟩
      rw [if_pos rfl, PendingItemQueue.get?_add, if_pos rfl, there]
      rfl
    · refine ⟨old, (PendingItemQueue.get?_setItem _ _ _ _).trans ?_⟩
      rw [if_neg equal, PendingItemQueue.get?_add, if_neg equal, there]
  | _ => exact queued

theorem item_event_effects (effects : Effects (· = .event name membershipOnly) r r')
    (queued : ∃ group, r.retryQueue.items.get? key = some ⟨.pendingGroup group, count⟩) :
    ∃ group, r'.retryQueue.items.get? key = some ⟨.pendingGroup group, count⟩ :=
  effects.invariant
    (fun r => ∃ group, r.retryQueue.items.get? key = some ⟨.pendingGroup group, count⟩)
    (fun _ _ _ permitted effect before => by
      subst permitted
      exact effect.item_event before) queued

namespace Reconciler

variable {r : Reconciler} {c : Ref} {key : String}

/-- Take an item out of the retry queue. -/
def dequeue (key : String) (r : Reconciler) : Reconciler :=
  { r with retryQueue := r.retryQueue.remove key }

/-- Write back the budget of an item of the retry queue. -/
def setBudget (key : String) (count : Int) (r : Reconciler) : Reconciler :=
  { r with retryQueue := r.retryQueue.setCount key (some count) }

theorem dequeue_absent (absent : r.retryQueue.items.get? key = none) : r.dequeue key = r := by
  simp only [dequeue, PendingItemQueue.remove, GoMap.remove_of_get?_eq_none absent]

theorem setBudget_absent (absent : r.retryQueue.items.get? key = none) (count : Int) :
    r.setBudget key count = r := by
  simp only [setBudget, PendingItemQueue.setCount, GoMap.adjust, absent]

theorem get?_dequeue (id : String) :
    (r.dequeue id).retryQueue.items.get? key =
      if key = id then none else r.retryQueue.items.get? key :=
  PendingItemQueue.get?_remove _ _ _

/-! ## Running an object -/

/-- A retried operation leaves the life cycle of its object alone. -/
theorem objects_updateImpl (added removed : List CloudResource) :
    ((r.updateImpl c added removed).objects c).retryOp = (r.objects c).retryOp ∧
      ((r.updateImpl c added removed).objects c).state = (r.objects c).state := by
  simp only [updateImpl]
  split
  · exact ⟨rfl, rfl⟩
  · split
    · simp [assign, advance]
    · split <;> simp [assign, advance, issue, observe]

theorem objects_updateRules :
    ((r.updateRules c).objects c).retryOp = (r.objects c).retryOp ∧
      ((r.updateRules c).objects c).state = (r.objects c).state := by
  simp only [updateRules]
  split
  · exact ⟨rfl, rfl⟩
  · split
    · exact ⟨rfl, rfl⟩
    · split
      · split
        · exact ⟨rfl, rfl⟩
        · simp [assign, advance]
      · split <;> exact ⟨rfl, rfl⟩

variable {op : SecurityGroupOperation}

/-- The operation of a queued object between `startRetry` and `endRetry`. -/
theorem retry_effects (base : Base r.toCore) (queued : r.Queued c) (allocated : c < r.nextRef)
    (retries : (r.objects c).retryOp = some op) (other : op ≠ .add ∧ op ≠ .delete)
    {body : Reconciler → Reconciler}
    (kept : ∀ r : Reconciler, ((body r).objects c).retryOp = (r.objects c).retryOp ∧
      ((body r).objects c).state = (r.objects c).state)
    (pass : ∀ r : Reconciler, c < r.nextRef → (r.objects c).Networked →
      Effects (· = .retry c (some op)) r (body r)) :
    Effects (· = .retry c (some op)) r ((body (r.startRetry c op)).endRetry c op) := by
  have started : Effects (· = .retry c (some op)) r (r.startRetry c op) :=
    .single rfl (.startRetry c op allocated queued retries other)
  obtain ⟨_, startKind, startId⟩ := static_effects started allocated
  have networked : ((r.startRetry c op).objects c).Networked := by
    rw [SecurityGroup.Networked, startKind, startId]
    exact base.networked_of_queued queued
  have passed := pass (r.startRetry c op) allocated networked
  have ran := started.trans passed
  obtain ⟨old, sameKind, sameId⟩ := static_effects ran allocated
  refine ran.tail rfl (.endRetry c op old ?_ ?_ ?_ other ?_)
  · obtain ⟨count, found⟩ := queued
    refine ⟨count, (queue_retry_effects ran _).trans ?_⟩
    rw [SecurityGroup.uName, sameKind, sameId]
    exact found
  · rw [(kept _).1]
    simp [startRetry, assign]
  · rw [(kept _).2]
    intro garbage
    have garbage : (r.objects c).state = .garbageCollectState := by
      simpa [startRetry, assign, observe] using garbage
    rcases base.superseded c allocated garbage with none_ | delete
    · exact absurd (none_.symm.trans retries) (by simp)
    · exact other.2 (Option.some.inj (retries.symm.trans delete))
  · exact ⟨_, observed_mono passed List.mem_cons_self, rfl, sameKind.symm⟩

theorem runPendingItemImpl_some (retries : (r.objects c).retryOp = some op) :
    r.runPendingItemImpl c =
      (false, ((r.startRetry c op).retryOperation c op).endRetry c op) := by
  simp only [runPendingItemImpl, retries]
  rfl

theorem retryAdd_eq (synced : r.syncedWithCloud = true) :
    ((r.startRetry c .add).addImpl c).endRetry c .add = r.retryAdd c := by
  have now : ((r.startRetry c .add).indexerAdd c).syncedWithCloud = true := synced
  have idle : (((r.startRetry c .add).indexerAdd c).objects c).retryOp.isSome = false := by
    simp [startRetry, indexerAdd, assign]
  simp only [addImpl, now, idle, Bool.not_true, Bool.false_eq_true, if_false]
  rfl

/-- `addImpl` in a retry, before the first sync. -/
theorem retryAddEarly_eq (early : r.syncedWithCloud = false) :
    ((r.startRetry c .add).addImpl c).endRetry c .add = r.retryAddEarly c := by
  have now : ((r.startRetry c .add).indexerAdd c).syncedWithCloud = false := early
  simp only [addImpl, now, Bool.not_false, if_true]
  rfl

theorem retryDelete_eq (base : Base r.toCore)
    (garbage : (r.objects c).state = .garbageCollectState) :
    ((r.startRetry c .delete).deleteImpl c).endRetry c .delete = r.retryDelete c := by
  have now : ((r.startRetry c .delete).objects c).state = .garbageCollectState := by
    simpa [startRetry, assign, observe] using garbage
  have idle : (((r.startRetry c .delete).deleteImplEntry c).objects c).retryOp = none := by
    simp [startRetry, assign, deleteImplEntry]
  simp only [deleteImpl, now, ne_eq, not_true_eq_false, if_false]
  rw [deleteImplIssue_eq idle fun counting found => base.entries_add found]
  rfl

/-- Running a queued object that has an operation to retry. -/
theorem runPendingItemImpl_retry_effects (base : Base r.toCore) (queued : r.Queued c)
    (allocated : c < r.nextRef) (retries : (r.objects c).retryOp = some op) :
    Effects (· = .retry c (some op)) r (r.runPendingItemImpl c).2 := by
  have alive (other : op ≠ .delete) : (r.objects c).state ≠ .garbageCollectState := by
    intro garbage
    rcases base.superseded c allocated garbage with none_ | delete
    · exact absurd (none_.symm.trans retries) (by simp)
    · exact other (Option.some.inj (retries.symm.trans delete))
  have rules (r : Reconciler) (allocated : c < r.nextRef)
      (origin : UpdatesRules (.retry c (some op)) r.toCore c) :
      Effects (· = .retry c (some op)) r
        (if (r.objects c).membershipOnly then r.panic else r.updateRules c) := by
    split
    · exact .single rfl .panic
    next applied => exact updateRules_effects allocated (by simpa using applied) origin
  have keeps (r : Reconciler) :
      ((if (r.objects c).membershipOnly then r.panic else r.updateRules c).objects c).retryOp =
          (r.objects c).retryOp ∧
        ((if (r.objects c).membershipOnly then r.panic else r.updateRules c).objects c).state =
          (r.objects c).state := by
    split
    · exact ⟨rfl, rfl⟩
    · exact objects_updateRules
  rw [runPendingItemImpl_some retries]
  cases op with
  | add =>
    simp only [retryOperation]
    cases synced : r.syncedWithCloud with
    | true =>
      rw [retryAdd_eq synced]
      exact .single rfl (.retryAdd c allocated queued retries (alive (by simp)) synced)
    | false =>
      rw [retryAddEarly_eq synced]
      exact .single rfl (.retryAddEarly c allocated queued retries (alive (by simp)) synced)
  | delete =>
    have garbage := base.deleting c allocated retries
    simp only [retryOperation]
    rw [retryDelete_eq base garbage]
    exact .single rfl (.retryDelete c allocated queued retries garbage)
  | updateMembers =>
    exact retry_effects base queued allocated retries ⟨by simp, by simp⟩
      (fun r => objects_updateImpl [] [])
      (fun r allocated networked => updateImpl_effects (o := .retry c (some .updateMembers))
        allocated networked (fun _ _ => ⟨rfl, .inl rfl⟩) (.inl ⟨rfl, rfl⟩))
  | clearMembers =>
    exact retry_effects base queued allocated retries ⟨by simp, by simp⟩ keeps
      fun r allocated _ => rules r allocated ⟨rfl, .inl rfl⟩
  | updateRules =>
    exact retry_effects base queued allocated retries ⟨by simp, by simp⟩ keeps
      fun r allocated _ => rules r allocated ⟨rfl, .inr (.inl rfl)⟩

/-- Running an object whose retry has succeeded. -/
theorem runPendingItemImpl_settled_effects (allocated : c < r.nextRef)
    (networked : (r.objects c).Networked) (idle : (r.objects c).retryOp = none) :
    (r.runPendingItemImpl c).1 = true ∧
      Effects (· = .retry c none) r (r.runPendingItemImpl c).2 := by
  have noted : Effects (· = .retry c none) r (r.observe (.runPendingItem c none)) :=
    .single rfl (.finished c allocated idle)
  simp only [runPendingItemImpl, idle]
  split
  · split
    next kind =>
      refine ⟨rfl, noted.trans (updateImpl_effects (r := r.observe (.runPendingItem c none))
        allocated networked ?_ (.inl ⟨rfl, rfl⟩))⟩
      exact fun _ _ => ⟨rfl, .inr ⟨rfl, kind⟩⟩
    next applied =>
      have kind : (r.objects c).membershipOnly = false := by simpa using applied
      have cleared := noted.tail rfl (.setHasMembers c false allocated kind ⟨rfl, rfl, rfl⟩)
      refine ⟨rfl, cleared.trans (updateRules_effects allocated ?_ ⟨rfl, .inr (.inr rfl)⟩)⟩
      exact (static_effects cleared allocated).2.1.trans kind
  · exact ⟨rfl, noted⟩

/-! ## Running a group event -/

/-- A queued or parked group event is applied as if it had just arrived. -/
theorem runPendingGroup_effects (base : Base r.toCore) (group : PendingGroup)
    (kept : group.event ≠ some .deleted) (key : String) :
    Effects (· = .event (getGroupIDFromUniqueName key).1 (getGroupIDFromUniqueName key).2) r
      (group.runPendingItem key r).2 := by
  have drawn : Effects
      (· = .event (getGroupIDFromUniqueName key).1 (getGroupIDFromUniqueName key).2) r
      r.advance := .single rfl (.order _)
  simp only [PendingGroup.runPendingItem]
  split
  · exact .refl r
  · split
    · exact drawn
    next event found =>
      refine drawn.trans ((processMemberGrp_effects (base.effects drawn) _ _ event _ _).mono ?_)
      intro o origin
      exact (if_neg fun deleted => kept (found.trans (congrArg some deleted))).mp
        (origin.isGroup rfl)

/-! ## One item of the queue -/

/-- How a pass over the queue treats the budget of an object. -/
structure Pass where
  /-- The budgets with which an object is run. -/
  runs : Int → Prop
  /-- The budgets with which an object leaves, by whether it waits for an answer. -/
  drops : Bool → Int → Prop

/-- `CheckToRun`. -/
def Pass.checkToRun : Pass where
  runs count := 0 < count
  drops waiting count := if waiting then count < 0 else count ≤ 0

/-- `Update` with a check. -/
def Pass.update : Pass where
  runs _ := True
  drops waiting count := if waiting then count ≤ 0 else count ≤ 1

/-- The origins that a pass over the item under a name can have. -/
inductive Runs (pass : Pass) (core : Core) (key : String) : Origin → Prop where
  | pending (counting : CountingPendingItem PendingItem)
      (found : core.retryQueue.items.get? key = some counting) :
      Runs pass core key (.pending key)
  | event (group : PendingGroup) (count : Option Int)
      (found : core.retryQueue.items.get? key = some ⟨.pendingGroup group, count⟩) :
      Runs pass core key
        (.event (getGroupIDFromUniqueName key).1 (getGroupIDFromUniqueName key).2)
  | settled (c : Ref) (count : Option Int)
      (found : core.retryQueue.items.get? key = some ⟨.securityGroup c, count⟩)
      (idle : (core.objects c).retryOp = none) : Runs pass core key (.retry c none)
  | retry (c : Ref) (count : Int) (op : SecurityGroupOperation)
      (found : core.retryQueue.items.get? key = some ⟨.securityGroup c, some count⟩)
      (retries : (core.objects c).retryOp = some op)
      (ready : (core.objects c).retryInProgress = false) (budget : pass.runs count) :
      Runs pass core key (.retry c (some op))
  | expired (c : Ref) (count : Int) (op : SecurityGroupOperation)
      (found : core.retryQueue.items.get? key = some ⟨.securityGroup c, some count⟩)
      (retries : (core.objects c).retryOp = some op)
      (spent : pass.drops (core.objects c).retryInProgress count) :
      Runs pass core key (.expired c)

section

variable {count : Int} {op : SecurityGroupOperation} {group : PendingGroup}

@[simp]
theorem retryQueueAt_get : retryQueueAt.get r = r.retryQueue := rfl

@[simp]
theorem retryQueueAt_remove : retryQueueAt.change (·.remove key) r = r.dequeue key := rfl

@[simp]
theorem retryQueueAt_setCount :
    retryQueueAt.change (·.setCount key (some count)) r = r.setBudget key count := rfl

theorem runOrDelete_of_retry (retries : (r.objects c).retryOp = some op) :
    (PendingItem.securityGroup c).runOrDeletePendingItem r =
      (!(r.objects c).retryInProgress, false) := by
  cases waiting : (r.objects c).retryInProgress <;>
    simp [PendingItem.runOrDeletePendingItem, SecurityGroup.runOrDeletePendingItem, retries,
      waiting]

theorem runOrDelete_of_settled (idle : (r.objects c).retryOp = none) :
    (PendingItem.securityGroup c).runOrDeletePendingItem r = (true, true) := by
  simp [PendingItem.runOrDeletePendingItem, SecurityGroup.runOrDeletePendingItem, idle]

theorem runOrDelete_of_event (retry : group.refCnt = none) :
    (PendingItem.pendingGroup group).runOrDeletePendingItem r = (true, false) := by
  simp [PendingItem.runOrDeletePendingItem, PendingGroup.runOrDeletePendingItem, retry]

section

variable (found : r.retryQueue.items.get? key = some ⟨.securityGroup c, some count⟩)

include found

section

variable (retries : (r.objects c).retryOp = some op)

include retries

theorem checkToRunItem_inProgress (waiting : (r.objects c).retryInProgress = true) :
    retryQueueAt.checkToRunItem PendingItem.runOrDeletePendingItem
        PendingItem.runPendingItem key r =
      if count < 0 then r.dequeue key else r := by
  simp [QueueAt.checkToRunItem, found, runOrDelete_of_retry retries, waiting]

theorem checkToRunItem_run (ready : (r.objects c).retryInProgress = false) (budget : 0 < count) :
    retryQueueAt.checkToRunItem PendingItem.runOrDeletePendingItem
        PendingItem.runPendingItem key r =
      (r.runPendingItemImpl c).2.setBudget key (count - 1) := by
  have left : ¬ count - 1 < 0 := by omega
  simp [QueueAt.checkToRunItem, found, runOrDelete_of_retry retries, ready, budget,
    PendingItem.runPendingItem, runPendingItemImpl_some retries, left]

theorem checkToRunItem_spent (ready : (r.objects c).retryInProgress = false) (spent : count ≤ 0) :
    retryQueueAt.checkToRunItem PendingItem.runOrDeletePendingItem
        PendingItem.runPendingItem key r =
      (r.setBudget key (count - 1)).dequeue key := by
  have none_ : ¬ 0 < count := by omega
  have left : count - 1 < 0 := by omega
  simp [QueueAt.checkToRunItem, found, runOrDelete_of_retry retries, ready, none_, left]

theorem checkRun_inProgress (waiting : (r.objects c).retryInProgress = true) :
    r.retryQueueCheckRun key = if count ≤ 0 then r.dequeue key else r := by
  simp [retryQueueCheckRun, QueueAt.checkRun, found, runOrDelete_of_retry retries, waiting]

theorem checkRun_run (ready : (r.objects c).retryInProgress = false) :
    r.retryQueueCheckRun key =
      if count ≤ 1 then ((r.runPendingItemImpl c).2.setBudget key (count - 1)).dequeue key
      else (r.runPendingItemImpl c).2.setBudget key (count - 1) := by
  simp [retryQueueCheckRun, QueueAt.checkRun, found, runOrDelete_of_retry retries, ready,
    PendingItem.runPendingItem, runPendingItemImpl_some retries]

end

variable (base : Base r.toCore) (idle : (r.objects c).retryOp = none)

include base idle

/-- An object whose retry has succeeded leaves the queue first, and is not put back by its run. -/
theorem runPendingItemImpl_settled :
    ((r.dequeue key).runPendingItemImpl c).1 = true ∧
      ((r.dequeue key).runPendingItemImpl c).2.retryQueue.items.get? key = none := by
  obtain ⟨_, allocated, _, networked⟩ := base.queue key _ found
  have effects := runPendingItemImpl_settled_effects (r := r.dequeue key) allocated networked idle
  refine ⟨effects.1, (queue_retry_effects effects.2 key).trans ?_⟩
  rw [get?_dequeue, if_pos rfl]

theorem checkToRunItem_settled :
    retryQueueAt.checkToRunItem PendingItem.runOrDeletePendingItem
        PendingItem.runPendingItem key r =
      if 0 < count then ((r.dequeue key).runPendingItemImpl c).2 else r.dequeue key := by
  obtain ⟨drops, still⟩ := runPendingItemImpl_settled found base idle
  have absent : (r.dequeue key).retryQueue.items.get? key = none := by
    rw [get?_dequeue, if_pos rfl]
  by_cases budget : 0 < count
  · simp [QueueAt.checkToRunItem, found, runOrDelete_of_settled idle, budget,
      PendingItem.runPendingItem, drops, setBudget_absent still, dequeue_absent still]
  · simp [QueueAt.checkToRunItem, found, runOrDelete_of_settled idle, budget,
      setBudget_absent absent, dequeue_absent absent]

theorem checkRun_settled :
    r.retryQueueCheckRun key = ((r.dequeue key).runPendingItemImpl c).2 := by
  obtain ⟨drops, still⟩ := runPendingItemImpl_settled found base idle
  simp [retryQueueCheckRun, QueueAt.checkRun, found, runOrDelete_of_settled idle,
    PendingItem.runPendingItem, drops, setBudget_absent still, dequeue_absent still]

end

section

variable (retry : group.refCnt = none)
  (found : r.retryQueue.items.get? key = some ⟨.pendingGroup group, some count⟩)

include retry found

theorem checkToRunItem_event :
    retryQueueAt.checkToRunItem PendingItem.runOrDeletePendingItem
        PendingItem.runPendingItem key r =
      if 0 < count then
        if (group.runPendingItem key r).1 = true then
          ((group.runPendingItem key r).2.setBudget key (count - 1)).dequeue key
        else (group.runPendingItem key r).2.setBudget key (count - 1)
      else (r.setBudget key (count - 1)).dequeue key := by
  by_cases budget : 0 < count
  · have left : ¬ count - 1 < 0 := by omega
    simp [QueueAt.checkToRunItem, found, runOrDelete_of_event retry, budget,
      PendingItem.runPendingItem, left]
  · have left : count - 1 < 0 := by omega
    simp [QueueAt.checkToRunItem, found, runOrDelete_of_event retry, budget, left]

theorem checkRun_event :
    r.retryQueueCheckRun key =
      if (group.runPendingItem key r).1 = true ∨ count ≤ 1 then
        ((group.runPendingItem key r).2.setBudget key (count - 1)).dequeue key
      else (group.runPendingItem key r).2.setBudget key (count - 1) := by
  simp [retryQueueCheckRun, QueueAt.checkRun, found, runOrDelete_of_event retry,
    PendingItem.runPendingItem]

end

end

/-! ## Effects of one pass -/

section

variable {count : Int} {group : PendingGroup} {op : SecurityGroupOperation}

/-- The end of a pass over a group event: its budget is charged, and it may leave. -/
theorem spendEvent_effects
    (found : r.retryQueue.items.get? key = some ⟨.pendingGroup group, some count⟩) :
    Effects (· = .pending key) r (r.setBudget key (count - 1)) ∧
      Effects (· = .pending key) r ((r.setBudget key (count - 1)).dequeue key) := by
  have spent : Effects (· = .pending key) r (r.setBudget key (count - 1)) :=
    .single rfl (.spend key _ count found fun _ _ => (by simp))
  refine ⟨spent, spent.tail rfl (.retire key fun c count there => ?_)⟩
  simp [setBudget, PendingItemQueue.get?_setCount, found] at there

/-- A pass over a group event that is applied. -/
theorem runEvent_effects (pass : Pass) (base : Base r.toCore)
    (kept : group.event ≠ some .deleted)
    (found : r.retryQueue.items.get? key = some ⟨.pendingGroup group, some count⟩) :
    Effects (Runs pass r.toCore key) r
        ((group.runPendingItem key r).2.setBudget key (count - 1)) ∧
      Effects (Runs pass r.toCore key) r
        (((group.runPendingItem key r).2.setBudget key (count - 1)).dequeue key) := by
  have ran := runPendingGroup_effects base group kept key
  obtain ⟨later, still⟩ := item_event_effects ran ⟨group, found⟩
  have spent := spendEvent_effects still
  have ran : Effects (Runs pass r.toCore key) r _ := ran.only (.event group _ found)
  exact ⟨ran.trans (spent.1.only (.pending _ found)),
    ran.trans (spent.2.only (.pending _ found))⟩

theorem get?_setBudget {item : PendingItem}
    (found : r.retryQueue.items.get? key = some ⟨item, some count⟩) (left : Int) :
    (r.setBudget key left).retryQueue.items.get? key = some ⟨item, some left⟩ := by
  simp [setBudget, PendingItemQueue.get?_setCount, found]

/-- Running an object keeps the operation that it retries. -/
theorem retryOp_runPendingItemImpl (retries : (r.objects c).retryOp = some op) :
    ((r.runPendingItemImpl c).2.objects c).retryOp = some op := by
  rw [runPendingItemImpl_some retries]
  simp [endRetry, assign]

/-- Running an object that is to be deleted sends the delete. -/
theorem issued_runPendingItemImpl (base : Base r.toCore) (allocated : c < r.nextRef)
    (retries : (r.objects c).retryOp = some .delete) :
    ∃ m ∈ (r.runPendingItemImpl c).2.inFlight, m.sg = c ∧ m.op = some .delete := by
  rw [runPendingItemImpl_some retries]
  simp only [retryOperation]
  rw [retryDelete_eq base (base.deleting c allocated retries), inFlight_retryDelete]
  exact ⟨_, List.mem_append_right _ (List.mem_singleton.mpr rfl), rfl, rfl⟩

variable (base : Base r.toCore)
  (found : r.retryQueue.items.get? key = some ⟨.securityGroup c, some count⟩)

include base found

/-- A queued object is queued under its own name. -/
theorem queued_of_found : r.Queued c ∧ c < r.nextRef := by
  obtain ⟨_, allocated, named, _⟩ := base.queue key _ found
  exact ⟨⟨_, named ▸ found⟩, allocated⟩

/-- A pass over an object whose retry has succeeded. -/
theorem settle_effects (pass : Pass) (idle : (r.objects c).retryOp = none) :
    Effects (Runs pass r.toCore key) r (r.dequeue key) ∧
      Effects (Runs pass r.toCore key) r ((r.dequeue key).runPendingItemImpl c).2 := by
  obtain ⟨_, allocated, _, networked⟩ := base.queue key _ found
  have left : Effects (Runs pass r.toCore key) r (r.dequeue key) := by
    refine .single (.pending _ found) (.retire key fun d n there => ?_)
    obtain ⟨rfl, _⟩ : d = c ∧ n = some count := by simpa [found, eq_comm] using there
    exact idle
  have ran := runPendingItemImpl_settled_effects (r := r.dequeue key) allocated networked idle
  exact ⟨left, left.trans (ran.2.only (.settled c _ found idle))⟩

variable (retries : (r.objects c).retryOp = some op)

include retries

/-- An object whose budget is used up leaves the queue. -/
theorem expire_effects (spent : count ≤ 0) :
    Effects (· = .expired c) r (r.dequeue key) := by
  obtain rfl := (base.queue key _ found).2.2.1
  exact .single rfl (.expire c op count found retries spent)

/-- The end of a pass over an object that is to be retried. -/
theorem spendRetry_effects
    (issued : 0 < count → op = .delete → ∃ m ∈ r.inFlight, m.sg = c ∧ m.op = some .delete) :
    Effects (· = .pending key) r (r.setBudget key (count - 1)) ∧
      (count ≤ 1 → Effects (fun o => o = .pending key ∨ o = .expired c) r
        ((r.setBudget key (count - 1)).dequeue key)) := by
  have spent : Effects (· = .pending key) r (r.setBudget key (count - 1)) := by
    refine .single rfl (.spend key _ count found ?_)
    intro budget d same deletes
    cases same
    exact issued budget (Option.some.inj (retries.symm.trans deletes))
  exact ⟨spent, fun last => (spent.only (.inl rfl)).trans ((expire_effects (base.effects spent)
    (get?_setBudget found _) retries (by omega)).only (.inr rfl))⟩

/-- A pass over an object that is retried. -/
theorem runRetry_effects {pass : Pass}
    (ready : (r.objects c).retryInProgress = false) (budget : pass.runs count) :
    Effects (Runs pass r.toCore key) r
        ((r.runPendingItemImpl c).2.setBudget key (count - 1)) ∧
      (count ≤ 1 → pass.drops false count → Effects (Runs pass r.toCore key) r
        (((r.runPendingItemImpl c).2.setBudget key (count - 1)).dequeue key)) := by
  obtain ⟨queued, allocated⟩ := queued_of_found base found
  have ran := runPendingItemImpl_retry_effects base queued allocated retries
  have still := (queue_retry_effects ran key).trans found
  have spent := spendRetry_effects (base.effects ran) still (retryOp_runPendingItemImpl retries)
    fun _ delete => by
      subst delete
      exact issued_runPendingItemImpl base allocated retries
  have ran : Effects (Runs pass r.toCore key) r _ :=
    ran.only (.retry c count op found retries ready budget)
  refine ⟨ran.trans (spent.1.only (.pending _ found)), fun last drops =>
    ran.trans ((spent.2 last).mono ?_)⟩
  rintro o (rfl | rfl)
  · exact .pending _ found
  · exact .expired c count op found retries (ready ▸ drops)

end

theorem checkToRunItem_effects (base : Base r.toCore) (key : String) :
    Effects (Runs .checkToRun r.toCore key) r
      (retryQueueAt.checkToRunItem PendingItem.runOrDeletePendingItem
        PendingItem.runPendingItem key r) := by
  cases found : r.retryQueue.items.get? key with
  | none =>
    simp only [QueueAt.checkToRunItem, retryQueueAt_get, found]
    exact .refl r
  | some counting =>
    obtain ⟨⟨count, isCount⟩, known⟩ := base.queue key counting found
    obtain ⟨item, opCnt⟩ := counting
    obtain rfl : opCnt = some count := isCount
    cases item with
    | pendingGroup group =>
      obtain ⟨retry, kept⟩ : group.refCnt = none ∧ group.event ≠ some .deleted := known
      rw [checkToRunItem_event retry found]
      split
      · split
        · exact (runEvent_effects _ base kept found).2
        · exact (runEvent_effects _ base kept found).1
      · exact (spendEvent_effects found).2.only (.pending _ found)
    | securityGroup c =>
      cases retries : (r.objects c).retryOp with
      | none =>
        rw [checkToRunItem_settled found base retries]
        split
        · exact (settle_effects base found _ retries).2
        · exact (settle_effects base found _ retries).1
      | some op =>
        cases waiting : (r.objects c).retryInProgress with
        | true =>
          rw [checkToRunItem_inProgress found retries waiting]
          split
          next negative =>
            refine (expire_effects base found retries (by omega)).only
              (.expired c count op found retries ?_)
            simpa [Pass.checkToRun, waiting] using negative
          next => exact .refl r
        | false =>
          by_cases budget : 0 < count
          · rw [checkToRunItem_run found retries waiting budget]
            exact (runRetry_effects base found retries waiting budget).1
          · rw [checkToRunItem_spent found retries waiting (by omega)]
            have spent : count ≤ 0 := by omega
            refine ((spendRetry_effects base found retries fun some_ =>
              absurd some_ budget).2 (by omega)).mono ?_
            rintro o (rfl | rfl)
            · exact .pending _ found
            · exact .expired c count op found retries
                (by simpa [Pass.checkToRun, waiting] using spent)

/-- What `Update` with a check does after the item has been updated. -/
theorem retryQueueCheckRun_effects (base : Base r.toCore) (key : String) :
    Effects (Runs .update r.toCore key) r (r.retryQueueCheckRun key) := by
  cases found : r.retryQueue.items.get? key with
  | none =>
    simp only [retryQueueCheckRun, QueueAt.checkRun, retryQueueAt_get, found]
    exact .refl r
  | some counting =>
    obtain ⟨⟨count, isCount⟩, known⟩ := base.queue key counting found
    obtain ⟨item, opCnt⟩ := counting
    obtain rfl : opCnt = some count := isCount
    cases item with
    | pendingGroup group =>
      obtain ⟨retry, kept⟩ : group.refCnt = none ∧ group.event ≠ some .deleted := known
      rw [checkRun_event retry found]
      split
      · exact (runEvent_effects _ base kept found).2
      · exact (runEvent_effects _ base kept found).1
    | securityGroup c =>
      cases retries : (r.objects c).retryOp with
      | none =>
        rw [checkRun_settled found base retries]
        exact (settle_effects base found _ retries).2
      | some op =>
        cases waiting : (r.objects c).retryInProgress with
        | true =>
          rw [checkRun_inProgress found retries waiting]
          split
          next spent =>
            refine (expire_effects base found retries spent).only
              (.expired c count op found retries ?_)
            simpa [Pass.update, waiting] using spent
          next => exact .refl r
        | false =>
          rw [checkRun_run found retries waiting]
          split
          next last =>
            exact (runRetry_effects base found retries waiting trivial).2 last
              (by simpa [Pass.update] using last)
          next => exact (runRetry_effects base found retries waiting trivial).1

end Reconciler

end Nephe
