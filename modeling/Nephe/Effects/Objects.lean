import Nephe.Effects.Effect

/-!
# How objects change

An effect writes at most one object.  `Rewritten` lists the values it can
write, so that a fact about some field of the objects is proved by looking at
the few cases that touch the field.
-/

namespace Nephe

open Library

/-! ## The objects after compound changes -/

namespace SecurityGroup

/-- An answer only changes what the queue knows about the object. -/
theorem updatePendingItem_keeps {α : Type} (field : SecurityGroup → α)
    (op : SecurityGroupOperation) (group : SecurityGroup)
    (same : ∀ retryInProgress retryOp,
      field { group with retryInProgress, retryOp } = field group) :
    field (group.updatePendingItem op) = field group := by
  unfold updatePendingItem
  split
  · exact same _ _
  · rfl

@[simp]
theorem updatePendingItem_membershipOnly (op : SecurityGroupOperation) (group : SecurityGroup) :
    (group.updatePendingItem op).membershipOnly = group.membershipOnly :=
  updatePendingItem_keeps (·.membershipOnly) op group fun _ _ => rfl

@[simp]
theorem updatePendingItem_id (op : SecurityGroupOperation) (group : SecurityGroup) :
    (group.updatePendingItem op).id = group.id :=
  updatePendingItem_keeps (·.id) op group fun _ _ => rfl

@[simp]
theorem updatePendingItem_state (op : SecurityGroupOperation) (group : SecurityGroup) :
    (group.updatePendingItem op).state = group.state :=
  updatePendingItem_keeps (·.state) op group fun _ _ => rfl

/-- An answer keeps the operation to retry or settles it. -/
theorem updatePendingItem_retryOp (op : SecurityGroupOperation) (group : SecurityGroup) :
    (group.updatePendingItem op).retryOp = group.retryOp ∨
      (group.updatePendingItem op).retryOp = none := by
  unfold updatePendingItem
  split
  · cases group.status with
    | none => exact .inr rfl
    | some => exact .inl rfl
  · exact .inl rfl

end SecurityGroup

namespace Reconciler

variable (r : Reconciler) (c d : Ref)

theorem objects_assign (change : SecurityGroup → SecurityGroup) :
    (r.assign c change).objects d = if d = c then change (r.objects c) else r.objects d :=
  Function.update_apply r.objects c _ d

theorem objects_allocate (group : SecurityGroup) :
    (r.allocate group).objects d = if d = r.nextRef then group else r.objects d :=
  Function.update_apply r.objects r.nextRef group d

theorem objects_markDeletePending :
    (r.markDeletePending c).objects d =
      if d = c then { r.objects c with deletePending := true } else r.objects d :=
  Function.update_apply r.objects c _ d

theorem objects_forget :
    (r.forget c).objects d =
      if d = c then { r.objects c with retryOp := none } else r.objects d :=
  Function.update_apply r.objects c _ d

theorem objects_beginDelete :
    (r.beginDelete c).objects d =
      if d = c then
        { r.objects c with
          retryOp := none
          state := .garbageCollectState
          status := some .inProgress }
      else r.objects d :=
  Function.update_apply r.objects c _ d

theorem objects_issueCreate :
    (r.issueCreate c).objects d =
      if d = c then { r.objects c with status := some .inProgress } else r.objects d :=
  Function.update_apply r.objects c _ d

theorem objects_pushMembers (members : List CloudResource) :
    (r.pushMembers c members).objects d =
      if d = c then { r.objects c with members := members } else r.objects d :=
  Function.update_apply r.objects c _ d

theorem objects_enqueue (op : SecurityGroupOperation) :
    (r.enqueue c op).objects d =
      if d = c then { r.objects c with retryOp := some op } else r.objects d :=
  Function.update_apply r.objects c _ d

theorem objects_startRetry (op : SecurityGroupOperation) :
    (r.startRetry c op).objects d =
      if d = c then { r.objects c with retryOp := none } else r.objects d :=
  Function.update_apply r.objects c _ d

theorem objects_endRetry (op : SecurityGroupOperation) :
    (r.endRetry c op).objects d =
      if d = c then { r.objects c with retryInProgress := true, retryOp := some op }
      else r.objects d :=
  Function.update_apply r.objects c _ d

theorem objects_retryAdd :
    (r.retryAdd c).objects d =
      if d = c then
        { r.objects c with
          status := some .inProgress
          retryInProgress := true
          retryOp := some .add }
      else r.objects d := by
  by_cases same : d = c
  · subst same
    simp [retryAdd, endRetry, issueCreate, issue, observe, assign, indexerAdd, startRetry]
  · simp [retryAdd, endRetry, issueCreate, issue, observe, assign, indexerAdd, startRetry, same]

theorem objects_retryAddEarly :
    (r.retryAddEarly c).objects d =
      if d = c then { r.objects c with retryInProgress := true, retryOp := some .add }
      else r.objects d := by
  by_cases same : d = c
  · subst same
    simp [retryAddEarly, endRetry, observe, assign, indexerAdd, startRetry]
  · simp [retryAddEarly, endRetry, observe, assign, indexerAdd, startRetry, same]

theorem objects_retryDelete :
    (r.retryDelete c).objects d =
      if d = c then
        { r.objects c with
          status := some .inProgress
          retryInProgress := true
          retryOp := some .delete }
      else r.objects d := by
  by_cases same : d = c
  · subst same
    simp [retryDelete, endRetry, issueDelete, issue, observe, assign, countDelete,
      deleteImplEntry, startRetry]
  · simp [retryDelete, endRetry, issueDelete, issue, observe, assign, countDelete,
      deleteImplEntry, startRetry, same]

end Reconciler

/-! ## The values that effects write -/

/-- An effect of the origin may write the value into the object. -/
inductive Rewritten (o : Origin) (r r' : Reconciler) (c : Ref) : SecurityGroup → Prop where
  | allocate (group : SecurityGroup) (new : c = r.nextRef) (clean : group.Clean)
      (fresh : (group.state = .init ∧ o = .event group.id.name group.membershipOnly) ∨
        (o = .sync ∧ group.state = .created ∧ group.members = [] ∧
          r.KeyFree group.membershipOnly group.id ∧
          r.Reported group.membershipOnly group.id))
      (after : r' = r.allocate group) : Rewritten o r r' c group
  | create (indexed : r.Indexed c) (networked : (r.objects c).Networked)
      (init : (r.objects c).state = .init) (idle : (r.objects c).retryOp = none)
      (origin : (∃ name membershipOnly, o = .event name membershipOnly) ∨ o = .syncGroup c) :
      Rewritten o r r' c { r.objects c with status := some .inProgress }
  | deletePending (deletes : Deletes o r.toCore c) (networked : (r.objects c).Networked)
      (alive : (r.objects c).state ≠ .garbageCollectState)
      (referenced : r.policiesOf (r.objects c) ≠ []) (untracked : r.Untracked c)
      (after : r' = r.markDeletePending c) :
      Rewritten o r r' c { r.objects c with deletePending := true }
  | forget (deletes : Deletes o r.toCore c) (networked : (r.objects c).Networked)
      (unreferenced : r.policiesOf (r.objects c) = []) (init : (r.objects c).state = .init)
      (idle : (r.objects c).status ≠ some .inProgress) (after : r' = r.forget c) :
      Rewritten o r r' c { r.objects c with retryOp := none }
  | beginDelete (deletes : Deletes o r.toCore c) (networked : (r.objects c).Networked)
      (unreferenced : r.policiesOf (r.objects c) = [])
      (alive : (r.objects c).state ≠ .garbageCollectState) (after : r' = r.beginDelete c)
      (allocated : c < r.nextRef) :
      Rewritten o r r' c
        { r.objects c with
          retryOp := none
          state := .garbageCollectState
          status := some .inProgress }
  | members (members : List CloudResource)
      (kept : (∃ name, o = .stale name) ∨ (r.objects c).membershipOnly = true ∨ o.Enrols ∨
        SameMembers (r.objects c).members members) :
      Rewritten o r r' c { r.objects c with members := members }
  | addresses (ipBlocks : List IPNet) :
      Rewritten o r r' c { r.objects c with ipBlocks := ipBlocks }
  | dropRules (created : (r.objects c).state = .created)
      (kind : (r.objects c).membershipOnly = false)
      (unreferenced : r.policiesByAppliedToGrp (r.objects c).id.name = [])
      (hasMembers : (r.objects c).hasMembers = false) (origin : UpdatesRules o r.toCore c) :
      Rewritten o r r' c { r.objects c with hasRules := false }
  | hasMembers (value : Bool) (kind : (r.objects c).membershipOnly = false)
      (origin : SetsHasMembers o r.toCore c value) :
      Rewritten o r r' c { r.objects c with hasMembers := value }
  | hasRules (kind : (r.objects c).membershipOnly = false)
      (origin : SetsHasRules o r.toCore c) :
      Rewritten o r r' c { r.objects c with hasRules := true }
  | reported (origin : o = .syncGroup c) (indexed : r.Indexed c)
      (networked : (r.objects c).Networked)
      (reported : r.Reported (r.objects c).membershipOnly (r.objects c).id) :
      Rewritten o r r' c { r.objects c with state := .created }
  | status (op : SecurityGroupOperation) (err : Option String)
      (origin : o = .response c op err)
      (current : ¬ ((r.objects c).state = .garbageCollectState ∧ op ≠ .delete)) :
      Rewritten o r r' c { r.objects c with status := Reconciler.statusOf err }
  | created (origin : o = .response c .add none) (init : (r.objects c).state = .init)
      (networked : (r.objects c).Networked) (allocated : c < r.nextRef) :
      Rewritten o r r' c { r.objects c with state := .created }
  | queueRetry (op : SecurityGroupOperation) (message : String)
      (origin : o = .response c op (some message))
      (free : r.retryQueue.items.get? (r.objects c).uName = none)
      (current : (r.objects c).state ≠ .garbageCollectState ∨ op = .delete)
      (deleting : op = .delete → (r.objects c).state = .garbageCollectState)
      (after : r' = r.enqueue c op) :
      Rewritten o r r' c { r.objects c with retryOp := some op }
  | answerItem (d : Ref) (op : SecurityGroupOperation) (err : Option String)
      (count : Option Int) (origin : o = .response d op err)
      (found : r.retryQueue.items.get? (r.objects d).uName = some ⟨.securityGroup c, count⟩) :
      Rewritten o r r' c ((r.objects c).updatePendingItem op)
  | startRetry (op : SecurityGroupOperation) (origin : o = .retry c (some op))
      (queued : r.Queued c) (retries : (r.objects c).retryOp = some op)
      (other : op ≠ .add ∧ op ≠ .delete) :
      Rewritten o r r' c { r.objects c with retryOp := none }
  | endRetry (op : SecurityGroupOperation) (origin : o = .retry c (some op))
      (queued : r.Queued c) (idle : (r.objects c).retryOp = none)
      (alive : (r.objects c).state ≠ .garbageCollectState)
      (other : op ≠ .add ∧ op ≠ .delete)
      (ran : ∃ x ∈ r.observed, x.action = .runPendingItem c (some op) ∧
        (x.before.objects c).membershipOnly = (r.objects c).membershipOnly)
      (after : r' = r.endRetry c op) :
      Rewritten o r r' c { r.objects c with retryInProgress := true, retryOp := some op }
  | retryAdd (origin : o = .retry c (some .add)) (queued : r.Queued c)
      (retries : (r.objects c).retryOp = some .add)
      (alive : (r.objects c).state ≠ .garbageCollectState) :
      Rewritten o r r' c
        { r.objects c with
          status := some .inProgress
          retryInProgress := true
          retryOp := some .add }
  | retryAddEarly (origin : o = .retry c (some .add)) (queued : r.Queued c)
      (retries : (r.objects c).retryOp = some .add)
      (alive : (r.objects c).state ≠ .garbageCollectState) :
      Rewritten o r r' c { r.objects c with retryInProgress := true, retryOp := some .add }
  | retryDelete (origin : o = .retry c (some .delete)) (queued : r.Queued c)
      (retries : (r.objects c).retryOp = some .delete)
      (garbage : (r.objects c).state = .garbageCollectState) :
      Rewritten o r r' c
        { r.objects c with
          status := some .inProgress
          retryInProgress := true
          retryOp := some .delete }

/-- An effect leaves an object alone or writes one of the listed values. -/
theorem Effect.objects {o : Origin} {r r' : Reconciler} (effect : Effect o r r') (c : Ref) :
    r'.objects c = r.objects c ∨ Rewritten o r r' c (r'.objects c) := by
  have written {d : Ref} {new : SecurityGroup}
      (here : r'.objects c = if c = d then new else r.objects c)
      (value : c = d → Rewritten o r r' d new) :
      r'.objects c = r.objects c ∨ Rewritten o r r' c (r'.objects c) := by
    rw [here]
    split
    next same =>
      subst same
      exact .inr (value rfl)
    next => exact .inl rfl
  cases effect with
  | allocate group clean fresh =>
    exact written (r.objects_allocate c group) fun _ => .allocate group rfl clean fresh rfl
  | create d allocated indexed networked synced init idle origin =>
    exact written (r.objects_issueCreate d c) fun _ => .create indexed networked init idle
      (origin.imp_left fun ⟨name, membershipOnly, same, _⟩ => ⟨name, membershipOnly, same⟩)
  | deletePending d allocated deletes networked alive referenced untracked =>
    exact written (r.objects_markDeletePending d c) fun _ =>
      .deletePending deletes networked alive referenced untracked rfl
  | forget d allocated deletes networked unreferenced init idle =>
    exact written (r.objects_forget d c) fun _ =>
      .forget deletes networked unreferenced init idle rfl
  | beginDelete d allocated deletes networked alive unreferenced =>
    exact written (r.objects_beginDelete d c) fun _ =>
      .beginDelete deletes networked unreferenced alive rfl allocated
  | setMembers d members allocated source waiting kept =>
    exact written (r.objects_assign d c _) fun _ => .members members (.inr kept)
  | dropStale d members =>
    exact written (r.objects_assign d c _) fun _ => .members members (.inl ⟨_, rfl⟩)
  | setAddresses d ipBlocks =>
    exact written (r.objects_assign d c _) fun _ => .addresses ipBlocks
  | pushMembers d members allocated networked source created idle origin kept =>
    exact written (r.objects_pushMembers d c members) fun _ => .members members (.inr kept)
  | dropRules d allocated created kind unreferenced hasMembers origin =>
    exact written (r.objects_assign d c _) fun _ =>
      .dropRules created kind unreferenced hasMembers origin
  | setHasMembers d value allocated kind origin =>
    exact written (r.objects_assign d c _) fun _ => .hasMembers value kind origin
  | setHasRules d allocated kind origin =>
    exact written (r.objects_assign d c _) fun _ => .hasRules kind origin
  | reported d indexed networked reported =>
    exact written (r.objects_assign d c _) fun _ => .reported rfl indexed networked reported
  | status d op err allocated current =>
    exact written (r.objects_assign d c _) fun _ => .status op err rfl current
  | created d allocated networked init =>
    exact written (r.objects_assign d c _) fun _ => .created rfl init networked allocated
  | queueRetry d op message allocated networked free current deleting =>
    exact written (r.objects_enqueue d c op) fun _ =>
      .queueRetry op message rfl free current deleting rfl
  | answerItem d op err e count found =>
    exact written (r.objects_assign e c _) fun _ => .answerItem d op err count rfl found
  | startRetry d op allocated queued retries other =>
    exact written (r.objects_startRetry d c op) fun _ => .startRetry op rfl queued retries other
  | endRetry d op allocated queued idle alive other ran =>
    exact written (r.objects_endRetry d c op) fun _ =>
      .endRetry op rfl queued idle alive other ran rfl
  | retryAdd d allocated queued retries alive =>
    exact written (r.objects_retryAdd d c) fun _ => .retryAdd rfl queued retries alive
  | retryAddEarly d allocated queued retries alive =>
    exact written (r.objects_retryAddEarly d c) fun _ =>
      .retryAddEarly rfl queued retries alive
  | retryDelete d allocated queued retries garbage =>
    exact written (r.objects_retryDelete d c) fun _ => .retryDelete rfl queued retries garbage
  | _ => exact .inl rfl

end Nephe
