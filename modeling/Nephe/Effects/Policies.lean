import Nephe.Effects.Groups

/-!
# Policy events, as effects
-/

namespace Nephe

open Library

/-! ## Loops over the objects of a group -/

namespace Base

variable {core : Core} {r : Reconciler}

theorem nodup_values (base : Base core) (membershipOnly : Bool) :
    (core.indexer membershipOnly).values.Nodup := by
  have keys : ((core.indexer membershipOnly).values.map
      fun c => (core.objects c).id.string) = (core.indexer membershipOnly).keys := by
    simp only [GoMap.values, List.map_map, AList.keys]
    refine List.map_congr_left fun entry member => ?_
    exact (base.index _ _ _ (AList.mem_lookup_iff.mpr member)).2.2
  exact List.Nodup.of_map _ (keys ▸ AList.keys_nodup _)

variable {membershipOnly : Bool} {c : Ref} {o : Origin}

theorem indexed_values (base : Base core) (member : c ∈ (core.indexer membershipOnly).values) :
    core.Indexed c := by
  obtain ⟨key, found⟩ := (GoMap.mem_values _ _).mp member
  exact base.indexed found

theorem nodup_groupsByName (base : Base core) (membershipOnly : Bool) (name : String) :
    (core.groupsByName membershipOnly name).Nodup :=
  (base.nodup_values membershipOnly).filter _

/-- What is known about an object found by the name of its group. -/
theorem groupsByName (base : Base core) {name : String}
    (member : c ∈ core.groupsByName membershipOnly name) :
    core.Indexed c ∧ (core.objects c).membershipOnly = membershipOnly ∧
      (core.objects c).id.name = name := by
  obtain ⟨listed, named⟩ := List.mem_filter.mp member
  obtain ⟨key, found⟩ := (GoMap.mem_values _ _).mp listed
  exact ⟨base.indexed found, (base.index _ _ _ found).2.1, by simpa using named⟩

/-- A loop whose passes need nothing but the invariants. -/
theorem forAny_effects {α : Type} {allowed : Origin → Prop} {list : List α}
    {body : α → Reconciler → Reconciler} (base : Base r.toCore) (drawn : allowed o)
    (pass : ∀ (element : α) (r : Reconciler), Base r.toCore →
      Effects allowed r (body element r)) : Effects allowed r (r.forRange list body) := by
  have start : Effects allowed r r.advance := .single drawn (.order _)
  exact start.trans (Chain.foldl (fun _ r => Base r.toCore)
    (fun element _ r base => ⟨pass element r base, base.effects (pass element r base)⟩) _ _
    (base.effects start)).1

/--
A loop over indexed objects whose passes are each about their own object: every
object is still indexed when its turn comes.  `also` is what else the passes
need and keep.
-/
theorem forRange_effects (allowed : Origin → Prop) (about : Ref → Origin → Prop)
    (also : Reconciler → Prop) {list : List Ref} {body : Ref → Reconciler → Reconciler}
    (base : Base r.toCore) (nodup : list.Nodup) (indexed : ∀ c ∈ list, r.Indexed c)
    (initially : also r.advance) (drawn : allowed o) (permitted : ∀ c o, about c o → allowed o)
    (own : ∀ c o, about c o → (∀ d, d ≠ c → o.target ≠ some d) ∧ ¬ o.IsRetry)
    (pass : ∀ c ∈ list, ∀ r : Reconciler, Base r.toCore → r.Indexed c → also r →
      Effects (about c) r (body c r) ∧ also (body c r)) :
    Effects allowed r (r.forRange list body) ∧ also (r.forRange list body) := by
  have start : Effects allowed r r.advance := .single drawn (.order _)
  -- Every object still to be visited is indexed.
  let ready (rest : List Ref) (r : Reconciler) : Prop :=
    Base r.toCore ∧ rest.Nodup ∧ (∀ c ∈ rest, r.Indexed c ∧ c ∈ list) ∧ also r
  have first : ready (arrange (r.order 0) list) r.advance :=
    ⟨base.effects start, ((arrange_perm _ _).nodup_iff).mpr nodup, fun c member =>
      ⟨indexed c ((mem_arrange _ _ _).mp member), (mem_arrange _ _ _).mp member⟩, initially⟩
  have loop := Chain.foldl ready (fun c rest r (before : ready (c :: rest) r) => by
    obtain ⟨base, nodup, indexed, also⟩ := before
    obtain ⟨here, member⟩ := indexed c List.mem_cons_self
    obtain ⟨fresh, nodup⟩ := List.nodup_cons.mp nodup
    obtain ⟨effects, after⟩ := pass c member r base here also
    have later (d : Ref) (rests : d ∈ rest) : (body c r).Indexed d ∧ d ∈ list := by
      have other : d ≠ c := fun same => fresh (same ▸ rests)
      refine ⟨base.indexed_effects effects (indexed d (List.mem_cons_of_mem _ rests)).1 ?_,
        (indexed d (List.mem_cons_of_mem _ rests)).2⟩
      exact fun o about => ⟨(own c o about).1 d other, (own c o about).2⟩
    exact (⟨effects.mono (permitted c), base.effects effects, nodup, later, after⟩ :
      Effects allowed r (body c r) ∧ ready rest (body c r))) _ _ first
  exact ⟨start.trans loop.1, loop.2.2.2.2⟩

end Base

/-! ## References of policies to groups -/

namespace Core

/-- Some policy applies to the group. -/
def Referenced (core : Core) (name : String) : Prop :=
  ∃ key policy, core.networkPolicyIndexer.get? key = some policy ∧
    name ∈ policy.appliedToGroups

theorem policiesByAppliedToGrp_ne_nil {core : Core} {name : String} :
    core.policiesByAppliedToGrp name ≠ [] ↔ core.Referenced name := by
  simp only [policiesByAppliedToGrp, ne_eq, List.filter_eq_nil_iff, not_forall, Referenced]
  constructor
  · rintro ⟨⟨key, policy⟩, bound, applies⟩
    exact ⟨key, policy, (GoMap.mem_bindings _ _ _).mp bound, by simpa using applies⟩
  · rintro ⟨key, policy, found, applies⟩
    exact ⟨(key, policy), (GoMap.mem_bindings _ _ _).mpr found, by simpa using applies⟩

end Core

namespace NetworkPolicy

/-- What a policy refers to. -/
def references (policy : NetworkPolicy) : List String × List NetworkPolicyRule :=
  (policy.appliedToGroups, policy.rules)

/-- Computing the rules of a policy does not change what it refers to. -/
theorem references_computeRules (policy : NetworkPolicy) (core : Core) (supply : Supply) :
    (policy.computeRules core supply).references = policy.references := by
  simp only [computeRules]
  split
  · rfl
  · simp only [computeRulesReady]
    split
    · split <;> rfl
    · rfl

end NetworkPolicy

/-- Only policy events change what the policies refer to. -/
theorem Effect.references {o : Origin} {r r' : Reconciler} (effect : Effect o r r')
    (other : o ≠ .policy none) (key : String) :
    (r'.networkPolicyIndexer.get? key).map NetworkPolicy.references =
      (r.networkPolicyIndexer.get? key).map NetworkPolicy.references := by
  have stored (id : String) (policy policy' : NetworkPolicy)
      (found : r.networkPolicyIndexer.get? id = some policy)
      (same : policy'.references = policy.references) :
      ((r.setPolicy id policy').networkPolicyIndexer.get? key).map NetworkPolicy.references =
        (r.networkPolicyIndexer.get? key).map NetworkPolicy.references := by
    simp only [Reconciler.setPolicy, GoMap.get?_set]
    split
    next equal => rw [equal, found, Option.map_some, Option.map_some, same]
    next => rfl
  cases effect with
  | touchPolicy id policy found => exact stored id policy policy found rfl
  | recompute id policy supply found =>
    exact stored id policy _ found (policy.references_computeRules _ _)
  | ready id policy withStatus supply found => exact stored id policy _ found rfl
  | newPolicy | changeRules | changeAppliedTo | removePolicy => exact absurd rfl other
  | _ => rfl

/-- A group that a policy applies to stays so unless a policy event intervenes. -/
theorem Core.Referenced.effects {allowed : Origin → Prop} {r r' : Reconciler} {name : String}
    (referenced : r.Referenced name) (effects : Effects allowed r r')
    (other : ¬ allowed (.policy none)) : r'.Referenced name := by
  refine effects.invariant (fun r => r.Referenced name) ?_ referenced
  rintro o before after permitted effect ⟨key, policy, found, applies⟩
  have same := effect.references (fun equal => other (equal ▸ permitted)) key
  rw [found, Option.map_some, Option.map_eq_some_iff] at same
  obtain ⟨policy', found', same⟩ := same
  have groups : policy'.appliedToGroups = policy.appliedToGroups := congrArg Prod.fst same
  exact ⟨key, policy', found', groups ▸ applies⟩

/-! ## Events -/

/-- The origins of a policy event. -/
def Origin.IsPolicy (o : Origin) : Prop :=
  ∃ target, o = .policy target

namespace Reconciler

variable {r : Reconciler} {o : Origin}

theorem quiet_markPolicyDirty (appliedToGroups : List String) :
    Quiet (fun _ => False) (fun _ => False) r (r.markPolicyDirty appliedToGroups) := by
  refine Quiet.forEach (fun name _ r => ?_) r
  exact Quiet.forRange (fun sg _ r => quiet_markGroupDirty sg) r

theorem markPolicyDirty_effects (o : Origin) (appliedToGroups : List String) :
    Effects (· = o) r (r.markPolicyDirty appliedToGroups) :=
  (quiet_markPolicyDirty appliedToGroups).mark_effects o

theorem notifyGroups_effects (base : Base r.toCore) (membershipOnly : Bool)
    (names : List String) :
    Effects Origin.IsPolicy r (r.notifyGroups membershipOnly names) := by
  refine (Chain.foldl (fun _ r => Base r.toCore) ?_ names r base).1
  intro name rest r base
  have effects : Effects Origin.IsPolicy r (r.forRange (r.groupsByName membershipOnly name)
      fun sg r => r.notifyNetworkPolicyChange sg) := by
    refine (base.forRange_effects Origin.IsPolicy (fun c o => o = .policy (some c))
      (fun _ => True)
      (base.nodup_groupsByName membershipOnly name)
      (fun c member => (base.groupsByName member).1) trivial ⟨none, rfl⟩
      (fun c o about => ⟨some c, about⟩) ?_
      (fun c member r base indexed _ =>
        ⟨notifyNetworkPolicyChange_effects base indexed, trivial⟩)).1
    rintro c o rfl
    exact ⟨fun d other same => other (Option.some.inj same).symm, by simp [Origin.IsRetry]⟩
  exact ⟨effects, base.effects effects⟩

/--
A loop over the objects of appliedTo groups that a policy refers to, outside of
policy events.
-/
theorem forReferenced_effects (o : Origin) (base : Base r.toCore)
    {body : Ref → Reconciler → Reconciler}
    (silent : o.target = none) (first : ¬ o.IsRetry) (unrelated : o ≠ .policy none)
    {names : List String} (referenced : ∀ name ∈ names, r.Referenced name)
    (pass : ∀ (c : Ref) (r : Reconciler), Base r.toCore → r.Indexed c →
      (r.objects c).membershipOnly = false →
      r.policiesByAppliedToGrp (r.objects c).id.name ≠ [] → Effects (· = o) r (body c r)) :
    Effects (· = o) r
      (r.forEach names fun name r => r.forRange (r.groupsByName false name) body) := by
  let ready (rest : List String) (r : Reconciler) : Prop :=
    Base r.toCore ∧ ∀ name ∈ rest, r.Referenced name
  refine (Chain.foldl ready ?_ names r ⟨base, referenced⟩).1
  rintro name rest r ⟨base, referenced⟩
  -- During the inner loop the objects keep their names and the group its policies.
  let also (r' : Reconciler) : Prop :=
    r'.Referenced name ∧ ∀ c ∈ r.groupsByName false name, c < r'.nextRef ∧
      (r'.objects c).membershipOnly = false ∧ (r'.objects c).id.name = name
  have initially : also r.advance :=
    ⟨referenced name List.mem_cons_self, fun c member =>
      ⟨base.allocated (base.groupsByName member).1, (base.groupsByName member).2⟩⟩
  have effects : Effects (· = o) r (r.forRange (r.groupsByName false name) body) := by
    refine (base.forRange_effects (· = o) (fun _ => (· = o)) also
      (base.nodup_groupsByName false name) (fun c member => (base.groupsByName member).1)
      initially rfl (fun _ _ about => about) ?_ ?_).1
    · rintro c _ rfl
      exact ⟨fun d _ about => absurd (silent.symm.trans about) (by simp), first⟩
    · rintro c member r' base' indexed ⟨still, names⟩
      obtain ⟨_, kind, named⟩ := names c member
      have pass := pass c r' base' indexed kind
        (named ▸ Core.policiesByAppliedToGrp_ne_nil.mpr still)
      refine ⟨pass, still.effects pass (Ne.symm unrelated), fun d member => ?_⟩
      obtain ⟨old, kind, named⟩ := names d member
      obtain ⟨old, sameKind, sameId⟩ := static_effects pass old
      exact ⟨old, sameKind.trans kind, sameId ▸ named⟩
  refine ⟨effects, base.effects effects, fun other member => ?_⟩
  exact (referenced other (List.mem_cons_of_mem _ member)).effects effects (Ne.symm unrelated)

/-! ## Policy events -/

variable {key : String} {policy : NetworkPolicy}

theorem computePolicyRules_effects (found : r.networkPolicyIndexer.get? key = some policy) :
    Effects (· = o) r (r.computePolicyRules key policy) := by
  have computed : Effects (· = o) r
      (r.setPolicy key (policy.computeRules r.toCore r.order.left)) :=
    .single rfl (.recompute key policy _ found)
  exact .tail computed rfl (.order r.order.right)

theorem recomputePolicy_policy_effects (base : Base r.toCore) (key : String) :
    Effects Origin.IsPolicy r (r.recomputePolicy key) := by
  simp only [recomputePolicy]
  split
  · exact .refl r
  next policy found =>
    have computed : Effects Origin.IsPolicy r (r.computePolicyRules key policy) :=
      (computePolicyRules_effects (o := .policy none) found).mono fun _ same =>
        ⟨none, same⟩
    split
    · exact computed
    · split
      · exact computed.trans (notifyGroups_effects (base.effects computed) false _)
      · exact computed

/-- `networkPolicy.update(nil, true)` in an event of an address group. -/
theorem recomputePolicy_event_effects (base : Base r.toCore) (name : String)
    (membershipOnly : Bool) (key : String) :
    Effects (· = .event name membershipOnly) r (r.recomputePolicy key) := by
  simp only [recomputePolicy]
  split
  · exact .refl r
  next policy found =>
    have computed : Effects (· = .event name membershipOnly) r
        (r.computePolicyRules key policy) := computePolicyRules_effects found
    split
    · exact computed
    next policy found =>
      split
      · refine computed.trans (forReferenced_effects (.event name membershipOnly)
          (base.effects computed) rfl (by simp [Origin.IsRetry]) (by simp)
          (fun group member => ⟨key, policy, found, member⟩) ?_)
        intro c r base indexed kind referenced
        exact notifyNetworkPolicyChange_referenced_effects (base.allocated indexed) kind
          referenced ⟨indexed, referenced⟩
      · exact computed

theorem storeReady_effects (found : r.networkPolicyIndexer.get? key = some policy) :
    Effects (· = o) r
      (r.split.setPolicy key (policy.computeRulesReady r.toCore false r.order.left).1) := by
  have stored : Effects (· = o) r
      (r.setPolicy key (policy.computeRulesReady r.toCore false r.order.left).1) := by
    simp only [NetworkPolicy.computeRulesReady]
    split
    · split
      · exact .single rfl (.touchPolicy key policy found)
      next ready => exact .single rfl (.ready key policy false _ found ready)
    · exact .single rfl (.touchPolicy key policy found)
  exact .tail stored rfl (.order r.order.right)

/-- `notifyAddrGrpChanges`, in the response to a creation. -/
theorem notifyAddrGrpChanges_effects (base : Base r.toCore) (d : Ref) (key : String) :
    Effects (· = .response d .add none) r (r.notifyAddrGrpChanges key) := by
  simp only [notifyAddrGrpChanges]
  split
  · exact .refl r
  next policy found =>
    split
    · exact .refl r
    next unready =>
      have divided := storeReady_effects (o := .response d .add none) found
      split
      · refine divided.trans (forReferenced_effects (.response d .add none)
          (base.effects divided) rfl (by simp [Origin.IsRetry]) (by simp)
          (fun group member => ⟨key, _, GoMap.get?_set_self _ _ _, member⟩) ?_)
        intro c r base indexed kind referenced
        exact updateRules_effects (base.allocated indexed) kind
          ⟨rfl, .inr ⟨indexed, referenced⟩⟩
      · exact divided

/-- The rules of a policy change, and the policy stays indexed. -/
theorem updatePolicyRules_effects (anp : AntreaNetworkPolicy)
    (found : r.networkPolicyIndexer.get? key = some policy) :
    Effects (· = .policy none) r (r.updatePolicyRules key anp policy).2.2.2 ∧
      (r.updatePolicyRules key anp policy).2.2.2.networkPolicyIndexer.get? key =
        some (r.updatePolicyRules key anp policy).2.2.1 := by
  simp only [updatePolicyRules]
  split
  · exact ⟨.refl r, found⟩
  · have drawn : Effects (· = .policy none) r r.advance := .single rfl (.order _)
    refine ⟨.tail (.tail drawn rfl (.changeRules key policy anp.rules _ found)) rfl
      (.order r.advance.order.right), ?_⟩
    exact GoMap.get?_set_self _ _ _

theorem updatePolicyAppliedTo_effects (anp : AntreaNetworkPolicy)
    (found : r.networkPolicyIndexer.get? key = some policy) :
    Effects (· = .policy none) r (r.updatePolicyAppliedTo key anp policy).2.2.2 := by
  simp only [updatePolicyAppliedTo]
  split
  · exact .refl r
  · have drawn : Effects (· = .policy none) r r.advance := .single rfl (.order _)
    exact .tail drawn rfl (.changeAppliedTo key policy anp.appliedToGroups found)

theorem updatePolicy_effects (base : Base r.toCore) {anp : AntreaNetworkPolicy}
    (found : r.networkPolicyIndexer.get? key = some policy) :
    Effects Origin.IsPolicy r (r.updatePolicy key anp policy) := by
  have isPolicy (o : Origin) (same : o = .policy none) : o.IsPolicy := ⟨none, same⟩
  have dirty := (markPolicyDirty_effects (r := r) (.policy none) policy.appliedToGroups).mono
    isPolicy
  have found : (r.markPolicyDirty policy.appliedToGroups).networkPolicyIndexer.get? key =
      some policy := by
    obtain ⟨_, _, same, _⟩ := quiet_markPolicyDirty (r := r) policy.appliedToGroups
    rw [same]
    exact found
  obtain ⟨rules, found⟩ := updatePolicyRules_effects anp found
  have rules := dirty.trans (rules.mono isPolicy)
  have applied := rules.trans ((updatePolicyAppliedTo_effects anp found).mono isPolicy)
  have address := applied.trans (notifyGroups_effects (base.effects applied) true
    ((r.markPolicyDirty policy.appliedToGroups).updatePolicyRules key anp policy).1)
  exact address.trans ((notifyGroups_effects (base.effects address) false _).trans
    ((markPolicyDirty_effects (.policy none) _).mono isPolicy))

theorem deletePolicy_effects (base : Base r.toCore) (key : String) (policy : NetworkPolicy) :
    Effects Origin.IsPolicy r (r.deletePolicy key policy) := by
  have dirty : Effects Origin.IsPolicy r (r.markPolicyDirty policy.appliedToGroups) :=
    (markPolicyDirty_effects (.policy none) _).mono fun _ same => ⟨none, same⟩
  have removed := dirty.tail ⟨none, rfl⟩ (.removePolicy key)
  have applied := removed.trans
    (notifyGroups_effects (base.effects removed) false policy.appliedToGroups)
  exact applied.trans
    (notifyGroups_effects (base.effects applied) true policy.addressGroups)

theorem processPolicyEvent_effects (base : Base r.toCore) (type : EventType)
    (anp : AntreaNetworkPolicy) :
    Effects Origin.IsPolicy r (r.processPolicyEvent type anp) := by
  simp only [processPolicyEvent]
  split
  · exact .refl r
  · split
    next absent =>
      have added : Effects Origin.IsPolicy r
          (r.setPolicy _ (.ofAntrea (recoverName anp))) :=
        .single ⟨none, rfl⟩ (.newPolicy _ _ absent ⟨rfl, rfl⟩ rfl)
      split
      · exact added.trans (deletePolicy_effects (base.effects added) _ _)
      · exact added.trans (recomputePolicy_policy_effects (base.effects added) _)
    next policy found =>
      split
      · exact deletePolicy_effects base _ policy
      · split
        · exact .refl r
        · exact updatePolicy_effects base found

end Reconciler

end Nephe
