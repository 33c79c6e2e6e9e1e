import Nephe.Effects.Step

/-!
# What the controller is seen to do

Every call in the record was made by one of a few effects.  Each lemma here
says, for one kind of action, what holds when the action is taken.
-/

namespace Nephe

open Library

/-! ## The record after a deletion is sent -/

namespace Reconciler

variable (r : Reconciler) (c : Ref)

theorem observed_beginDelete :
    ∃ before : Core, (r.beginDelete c).observed =
        ⟨.call c (.deleteSecurityGroup (r.objects c).id (r.objects c).membershipOnly), before⟩ ::
          r.observed ∧
      (∀ membershipOnly, before.indexer membershipOnly =
        (r.indexerDelete c).indexer membershipOnly) ∧
      before.policiesOf (before.objects c) = r.policiesOf (r.objects c) := by
  let deleting := ((r.unlist c).countDelete c).assign c fun s =>
    { s with
      retryOp := none
      state := .garbageCollectState
      status := some .inProgress }
  have same : (deleting.objects c).id = (r.objects c).id ∧
      (deleting.objects c).membershipOnly = (r.objects c).membershipOnly := by
    simp [deleting, assign, countDelete, unlist, indexerDelete, deleteImplEntry]
  refine ⟨deleting.toCore, ?_, fun _ => rfl, ?_⟩
  · rw [← same.1, ← same.2]
    rfl
  · simp only [Core.policiesOf, same]
    rfl

theorem observed_retryDelete :
    ∃ before : Core, (r.retryDelete c).observed =
        ⟨.call c (.deleteSecurityGroup (r.objects c).id (r.objects c).membershipOnly), before⟩ ::
          ⟨.runPendingItem c (some .delete), r.toCore⟩ :: r.observed ∧
      ∀ membershipOnly, before.indexer membershipOnly = r.indexer membershipOnly := by
  let deleting := (((r.startRetry c .delete).deleteImplEntry c).countDelete c).assign c fun s =>
    { s with status := some .inProgress }
  have same : (deleting.objects c).id = (r.objects c).id ∧
      (deleting.objects c).membershipOnly = (r.objects c).membershipOnly := by
    simp [deleting, assign, countDelete, startRetry, observe, deleteImplEntry]
  refine ⟨deleting.toCore, ?_, fun _ => rfl⟩
  rw [← same.1, ← same.2]
  rfl

end Reconciler

/-! ## Who recorded each kind of action -/

namespace Effect

variable {o : Origin} {r r' : Reconciler} {x : Observation} {c : Ref}

/-- What holds when the members of a group are sent. -/
structure MembersSent (o : Origin) (r : Reconciler) (x : Observation) (c : Ref)
    (members : List CloudResource) : Prop where
  allocated : c < r.nextRef
  source : MembersFrom o r.toCore c
  created : (r.objects c).state = .created
  idle : (r.objects c).retryOp = none
  origin : Pushes o r.toCore c
  before : x.before = (r.assign c fun s => { s with members := members }).toCore

/-- What holds when a group is asked to release its members. -/
structure NoMembersSent (o : Origin) (r : Reconciler) (x : Observation) (c : Ref) : Prop where
  allocated : c < r.nextRef
  created : (r.objects c).state = .created
  idle : (r.objects c).retryOp = none
  kind : (r.objects c).membershipOnly = false
  unreferenced : r.policiesByAppliedToGrp (r.objects c).id.name = []
  hasMembers : (r.objects c).hasMembers = true
  origin : UpdatesRules o r.toCore c
  before : x.before = r.toCore

/-- What holds when rules are sent. -/
structure RulesSent (o : Origin) (r : Reconciler) (x : Observation) (c : Ref)
    (rules : List Rule) : Prop where
  allocated : c < r.nextRef
  created : (r.objects c).state = .created
  idle : (r.objects c).retryOp = none
  kind : (r.objects c).membershipOnly = false
  referenced : r.policiesByAppliedToGrp (r.objects c).id.name ≠ []
  cached : RulesFrom r.toCore (r.objects c).id.name rules
  origin : UpdatesRules o r.toCore c
  before : x.before = r.toCore

/-- What holds when a deletion is sent for the first time. -/
structure DeleteSent (o : Origin) (r r' : Reconciler) (x : Observation) (c : Ref) : Prop where
  allocated : c < r.nextRef
  deletes : Deletes o r.toCore c
  alive : (r.objects c).state ≠ .garbageCollectState
  unreferenced : r.policiesOf (r.objects c) = []
  started : ¬ ((r.objects c).state = .init ∧ (r.objects c).status ≠ some .inProgress)
  after : r' = r.beginDelete c
  indexer : ∀ membershipOnly,
    x.before.indexer membershipOnly = (r.indexerDelete c).indexer membershipOnly

/-- What holds when a deletion is sent again. -/
structure DeleteResent (o : Origin) (r r' : Reconciler) (x : Observation) (c : Ref) : Prop where
  allocated : c < r.nextRef
  origin : o = .retry c (some .delete)
  queued : r.Queued c
  retries : (r.objects c).retryOp = some .delete
  garbage : (r.objects c).state = .garbageCollectState
  after : r' = r.retryDelete c
  indexer : ∀ membershipOnly, x.before.indexer membershipOnly = r.indexer membershipOnly

/-- What an effect can add to the record. -/
inductive Records (o : Origin) (r r' : Reconciler) (x : Observation) : Prop where
  | listen (action : x.action = .getSecurityGroupSyncChan)
      (enough : npSyncReadyBookMarkCnt ≤ r.bookmarkCnt)
  | run (c : Ref) (op : Option SecurityGroupOperation) (action : x.action = .runPendingItem c op)
      (before : x.before = r.toCore) (retries : (r.objects c).retryOp = op)
  | create (c : Ref) (id : CloudResourceID) (membershipOnly : Bool)
      (action : x.action = .call c (.createSecurityGroup id membershipOnly))
      (fresh : (r.objects c).state = .init ∨ o = .retry c (some .add))
  | members (c : Ref) (members : List CloudResource)
      (action : x.action = .call c (.updateSecurityGroupMembers (r.objects c).id members
        (r.objects c).membershipOnly))
      (sent : MembersSent o r x c members ∨ NoMembersSent o r x c)
  | rules (c : Ref) (ingress : List IngressRule) (egress : List EgressRule)
      (action : x.action = .call c (.updateSecurityGroupRules (r.objects c).id ingress egress))
      (sent : RulesSent o r x c (ingress ++ egress))
  | delete (c : Ref)
      (action : x.action = .call c (.deleteSecurityGroup (r.objects c).id
        (r.objects c).membershipOnly))
      (sent : DeleteSent o r r' x c ∨ DeleteResent o r r' x c)

theorem observed_append (effect : Effect o r r') :
    ∃ taken, r'.observed = taken ++ r.observed ∧ ∀ x ∈ taken, Records o r r' x := by
  cases effect with
  | listen enough => exact ⟨[_], rfl, List.forall_mem_singleton.mpr (.listen rfl enough)⟩
  | finished c allocated retries | startRetry c op allocated queued retries
  | retryAddEarly c allocated queued retries =>
    exact ⟨[_], rfl, List.forall_mem_singleton.mpr (.run c _ rfl rfl retries)⟩
  | create c allocated indexed networked synced init =>
    exact ⟨[_], rfl, List.forall_mem_singleton.mpr (.create c _ _ rfl (.inl init))⟩
  | retryAdd c allocated queued retries =>
    exact ⟨[_, _], rfl, List.forall_mem_cons.mpr ⟨.create c _ _ rfl (.inr rfl),
      List.forall_mem_singleton.mpr (.run c _ rfl rfl retries)⟩⟩
  | pushMembers c members allocated networked source created idle origin =>
    exact ⟨[_], rfl, List.forall_mem_singleton.mpr (.members c members rfl
      (.inl ⟨allocated, source, created, idle, origin, rfl⟩))⟩
  | pushNoMembers c allocated created idle kind unreferenced hasMembers origin =>
    exact ⟨[_], rfl, List.forall_mem_singleton.mpr (.members c [] (by rw [kind])
      (.inr ⟨allocated, created, idle, kind, unreferenced, hasMembers, origin, rfl⟩))⟩
  | pushRules c ingress egress allocated created idle kind referenced cached origin =>
    exact ⟨[_], rfl, List.forall_mem_singleton.mpr (.rules c ingress egress rfl
      ⟨allocated, created, idle, kind, referenced, cached, origin, rfl⟩)⟩
  | beginDelete c allocated deletes networked alive unreferenced started =>
    obtain ⟨before, same, indexer, _⟩ := r.observed_beginDelete c
    exact ⟨[_], same, List.forall_mem_singleton.mpr (.delete c rfl
      (.inl ⟨allocated, deletes, alive, unreferenced, started, rfl, indexer⟩))⟩
  | retryDelete c allocated queued retries garbage =>
    obtain ⟨before, same, indexer⟩ := r.observed_retryDelete c
    exact ⟨[_, _], same, List.forall_mem_cons.mpr ⟨.delete c rfl
      (.inr ⟨allocated, rfl, queued, retries, garbage, rfl, indexer⟩),
      List.forall_mem_singleton.mpr (.run c _ rfl rfl retries)⟩⟩
  | _ => exact ⟨[], rfl, List.forall_mem_nil _⟩

theorem observed_mono (effect : Effect o r r') (member : x ∈ r.observed) : x ∈ r'.observed := by
  obtain ⟨taken, same, _⟩ := effect.observed_append
  exact same ▸ List.mem_append_right taken member

section

variable (effect : Effect o r r') (member : x ∈ r'.observed)

include effect member

theorem observed_source : x ∈ r.observed ∨ Records o r r' x := by
  obtain ⟨taken, same, recorded⟩ := effect.observed_append
  rw [same] at member
  exact (List.mem_append.mp member).symm.imp_right (recorded x)

theorem listen_source (action : x.action = .getSecurityGroupSyncChan) :
    x ∈ r.observed ∨ npSyncReadyBookMarkCnt ≤ r.bookmarkCnt := by
  refine (effect.observed_source member).imp_right fun recorded => ?_
  cases recorded with
  | listen _ enough => exact enough
  | _ => simp_all

theorem run_source {op : Option SecurityGroupOperation}
    (action : x.action = .runPendingItem c op) :
    x ∈ r.observed ∨ (x.before = r.toCore ∧ (r.objects c).retryOp = op) := by
  refine (effect.observed_source member).imp_right fun recorded => ?_
  cases recorded with
  | run d op same before retries =>
    cases action.symm.trans same
    exact ⟨before, retries⟩
  | _ => simp_all

variable {id : CloudResourceID} {membershipOnly : Bool}

theorem members_source {members : List CloudResource}
    (action : x.action = .call c (.updateSecurityGroupMembers id members membershipOnly)) :
    x ∈ r.observed ∨ MembersSent o r x c members ∨ NoMembersSent o r x c := by
  refine (effect.observed_source member).imp_right fun recorded => ?_
  cases recorded with
  | members d list same sent =>
    cases action.symm.trans same
    exact sent
  | _ => simp_all

theorem rules_source {ingress : List IngressRule} {egress : List EgressRule}
    (action : x.action = .call c (.updateSecurityGroupRules id ingress egress)) :
    x ∈ r.observed ∨ RulesSent o r x c (ingress ++ egress) := by
  refine (effect.observed_source member).imp_right fun recorded => ?_
  cases recorded with
  | rules d ingress egress same sent =>
    cases action.symm.trans same
    exact sent
  | _ => simp_all

end

/-- Who deletes a group. -/
theorem Records.deletes {id : CloudResourceID} {membershipOnly : Bool} (recorded : Records o r r' x)
    (action : x.action = .call c (.deleteSecurityGroup id membershipOnly)) :
    id = (r.objects c).id ∧ membershipOnly = (r.objects c).membershipOnly ∧
      (DeleteSent o r r' x c ∨ DeleteResent o r r' x c) := by
  cases recorded with
  | delete d same sent =>
    cases action.symm.trans same
    exact ⟨rfl, rfl, sent⟩
  | _ => simp_all

end Effect

end Nephe
