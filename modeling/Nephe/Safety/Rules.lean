import Nephe.Safety.Orphans

/-!
# The address groups that rules refer to

The rules of a policy are computed at one time, cached, and sent later.  They
name the address groups that were indexed when they were computed; a group
that a policy refers to is not deleted, so the names stay valid.
-/

namespace Nephe

open Library

/-- An address group with the id is indexed. -/
def Core.Listed (core : Core) (id : CloudResourceID) : Prop :=
  ∃ c, core.Indexed c ∧ (core.objects c).membershipOnly = true ∧ (core.objects c).id = id

/-- An address group with the id is indexed and has been created. -/
def Core.Live (core : Core) (id : CloudResourceID) : Prop :=
  ∃ c, core.Indexed c ∧ (core.objects c).membershipOnly = true ∧ (core.objects c).id = id ∧
    (core.objects c).state = .created

/-! ## Computing rules -/

/-- The id belongs to an object of one of the groups. -/
def Core.Names (core : Core) (names : List String) (id : CloudResourceID) : Prop :=
  id.vpc ≠ "" ∧ ∃ name ∈ names, ∃ c ∈ core.groupsByName true name, (core.objects c).id = id

theorem Core.Names.mono {core : Core} {names more : List String} {id : CloudResourceID}
    (named : core.Names names id) (included : ∀ name ∈ names, name ∈ more) :
    core.Names more id := by
  obtain ⟨cloud, name, member, found⟩ := named
  exact ⟨cloud, name, included name member, found⟩

theorem names_addressGroupPeers {core : Core} {supply : Supply} {names : List String}
    {peers : List IPNet × List CloudResourceID}
    (computed : addressGroupPeers core supply names = some peers) {id : CloudResourceID}
    (member : id ∈ peers.2) : core.Names names id := by
  induction names generalizing supply peers with
  | nil =>
    cases computed
    cases member
  | cons name rest induction =>
    simp only [addressGroupPeers] at computed
    split at computed
    next => cases computed
    next =>
      obtain ⟨others, found, rfl⟩ := Option.map_eq_some_iff.mp computed
      rcases List.mem_append.mp member with here | later
      · obtain ⟨isId, cloud⟩ := List.mem_filter.mp here
        obtain ⟨c, ofGroup, rfl⟩ := List.mem_map.mp isId
        exact ⟨by simpa using cloud, name, List.mem_cons_self, c,
          (mem_arrange _ _ _).mp ofGroup, rfl⟩
      · exact (induction found later).mono fun _ => List.mem_cons_of_mem _

theorem names_peerRules {core : Core} {supply : Supply} {peer : NetworkPolicyPeer}
    {services : Option (List Service)} {rules : List Rule}
    (computed : peerRules core supply peer services = some rules) {rule : Rule}
    (member : rule ∈ rules) {id : CloudResourceID} (listed : id ∈ rule.securityGroups) :
    core.Names peer.addressGroups id := by
  obtain ⟨peers, found, rfl⟩ := Option.map_eq_some_iff.mp computed
  suffices same : rule.securityGroups = peers.2 from
    names_addressGroupPeers found (same ▸ listed)
  dsimp only at member
  split at member
  · cases member
  · split at member
    · rw [List.mem_singleton.mp member]
    · obtain ⟨service, _, rfl⟩ := List.mem_map.mp member
      rfl

/-- The groups that a list of policy rules refers to. -/
def addressGroupsOf (rules : List NetworkPolicyRule) : List String :=
  rules.flatMap fun rule => rule.toPeer.addressGroups ++ rule.fromPeer.addressGroups

theorem names_cloudRules {core : Core} {supply : Supply} {policyRule : NetworkPolicyRule}
    {rules : List IngressRule × List EgressRule}
    (computed : policyRule.cloudRules core supply = some rules) {rule : Rule}
    (member : rule ∈ rules.1 ++ rules.2) {id : CloudResourceID}
    (listed : id ∈ rule.securityGroups) :
    core.Names (policyRule.toPeer.addressGroups ++ policyRule.fromPeer.addressGroups) id := by
  unfold NetworkPolicyRule.cloudRules at computed
  split at computed
  · obtain ⟨ingress, found, rfl⟩ := Option.map_eq_some_iff.mp computed
    exact (names_peerRules found (by simpa using member) listed).mono fun _ =>
      List.mem_append_right _
  · obtain ⟨egress, found, rfl⟩ := Option.map_eq_some_iff.mp computed
    exact (names_peerRules found (by simpa using member) listed).mono fun _ =>
      List.mem_append_left _

theorem names_collectRules {core : Core} {supply : Supply}
    {policyRules : List NetworkPolicyRule} {rules : List IngressRule × List EgressRule}
    (computed : NetworkPolicy.collectRules core supply policyRules = some rules) {rule : Rule}
    (member : rule ∈ rules.1 ++ rules.2) {id : CloudResourceID}
    (listed : id ∈ rule.securityGroups) : core.Names (addressGroupsOf policyRules) id := by
  induction policyRules generalizing supply rules with
  | nil =>
    cases computed
    cases member
  | cons policyRule rest induction =>
    simp only [NetworkPolicy.collectRules] at computed
    split at computed
    next first others here later =>
      cases computed
      have split : rule ∈ first.1 ++ first.2 ∨ rule ∈ others.1 ++ others.2 := by
        simp only [List.mem_append] at member ⊢
        tauto
      rcases split with inFirst | inOthers
      · exact (names_cloudRules here inFirst listed).mono fun _ => List.mem_append_left _
      · exact (induction later inOthers).mono fun _ => List.mem_append_right _
    next => cases computed

/-! ## Ready rules -/

namespace NetworkPolicy

/-- The groups that the cached rules of a policy refer to. -/
def cachedGroups (policy : NetworkPolicy) : List CloudResourceID :=
  (policy.ingressRules ++ policy.egressRules).flatMap Rule.securityGroups

/-- When `computeRulesReady` runs to the end, every object of every group is ready. -/
theorem isReady_of_rulesNotReady {policy : NetworkPolicy} {core : Core} {withStatus : Bool}
    {supply : Supply} (ready : policy.rulesNotReady core withStatus supply = none)
    {name : String} (member : name ∈ policy.addressGroups) {c : Ref}
    (found : c ∈ core.groupsByName true name) : (core.objects c).isReady = true := by
  have named : name ∈ arrange (supply 0) policy.addressGroups.dedup :=
    (mem_arrange _ _ _).mpr (List.mem_dedup.mpr member)
  obtain ⟨position, isName⟩ := List.mem_iff_getElem?.mp named
  have visited := List.findSome?_eq_none_iff.mp ready (name, position)
    (List.mem_zipIdx_iff_getElem?.mpr isName)
  dsimp only at visited
  split at visited
  next => cases visited
  next =>
    have passed := List.findSome?_eq_none_iff.mp visited c ((mem_arrange _ _ _).mpr found)
    split at passed
    · cases passed
    · split at passed
      next ready => exact ready
      next => cases passed

end NetworkPolicy

/--
The cached rules of a policy refer to indexed objects of the groups that the
policy names; when they are ready, the objects have been created.
-/
def PolicyCurrent (core : Core) (policy : NetworkPolicy) : Prop :=
  ∀ id ∈ policy.cachedGroups, id.name ∈ policy.addressGroups ∧ id.vpc ≠ "" ∧
    core.Listed id ∧ (policy.rulesReady = true → core.Live id)

theorem mem_groupsByName {core : Core} {c : Ref} (indexed : core.Indexed c)
    {membershipOnly : Bool} (kind : (core.objects c).membershipOnly = membershipOnly) :
    c ∈ core.groupsByName membershipOnly (core.objects c).id.name := by
  subst kind
  exact List.mem_filter.mpr ⟨(GoMap.mem_values _ _).mpr ⟨_, indexed⟩, by simp⟩

/-- A listed group of ready rules has been created. -/
theorem live_of_ready {core : Core} {policy : NetworkPolicy} {withStatus : Bool}
    {supply : Supply} (ready : policy.rulesNotReady core withStatus supply = none)
    {id : CloudResourceID} (member : id.name ∈ policy.addressGroups) (cloud : id.vpc ≠ "")
    (listed : core.Listed id) : core.Live id := by
  obtain ⟨c, indexed, kind, rfl⟩ := listed
  have passed := NetworkPolicy.isReady_of_rulesNotReady ready member
    (mem_groupsByName indexed kind)
  refine ⟨c, indexed, kind, rfl, ?_⟩
  simpa [SecurityGroup.isReady, SecurityGroup.isIPBlocks, kind, cloud] using passed

theorem policyCurrent_ready {core : Core} {policy : NetworkPolicy} {withStatus : Bool}
    {supply : Supply} (current : PolicyCurrent core policy)
    (ready : policy.rulesNotReady core withStatus supply = none) :
    PolicyCurrent core { policy with rulesReady := true } := by
  intro id member
  obtain ⟨named, cloud, listed, _⟩ := current id member
  exact ⟨named, cloud, listed, fun _ => live_of_ready ready named cloud listed⟩

theorem policyCurrent_computeRules {core : Core} (base : Base core) (policy : NetworkPolicy)
    (supply : Supply) : PolicyCurrent core (policy.computeRules core supply) := by
  simp only [NetworkPolicy.computeRules]
  split
  · exact fun id member => absurd member List.not_mem_nil
  next rules computed =>
    have current : PolicyCurrent core
        { policy with
          ingressRules := rules.1
          egressRules := rules.2
          rulesReady := false } := by
      intro id member
      obtain ⟨rule, isRule, listed⟩ := List.mem_flatMap.mp member
      obtain ⟨cloud, name, named, c, found, rfl⟩ := names_collectRules computed isRule listed
      obtain ⟨indexed, kind, rfl⟩ := base.groupsByName found
      exact ⟨named, cloud, ⟨c, indexed, kind, rfl⟩, by simp⟩
    simp only [NetworkPolicy.computeRulesReady]
    split
    · split
      · exact current
      next ready => exact policyCurrent_ready current ready
    · exact current

/-! ## Effects -/

/-- The rules of every policy are current. -/
def RulesCurrent (r : Reconciler) : Prop :=
  ∀ key policy, r.networkPolicyIndexer.get? key = some policy → PolicyCurrent r.toCore policy

section

variable {o : Origin} {r r' : Reconciler}

/-- An object of a group that the policy names stays indexed. -/
theorem indexed_of_referenced (noOrphans : NoOrphans r) (base : Base r.toCore)
    (effect : Effect o r r') {key : String} {policy : NetworkPolicy}
    (found : r.networkPolicyIndexer.get? key = some policy) {c : Ref} (indexed : r.Indexed c)
    (kind : (r.objects c).membershipOnly = true)
    (named : (r.objects c).id.name ∈ policy.addressGroups) (cloud : (r.objects c).id.vpc ≠ "") :
    r'.Indexed c := by
  refine (effect.indexed_or base indexed fun d _ => noOrphans d).resolve_right ?_
  rintro ⟨_, ⟨_, plain⟩ | ⟨_, unreferenced, _⟩⟩
  · exact plain fun _ => cloud
  · have refers : (key, policy) ∈ r.policiesOf (r.objects c) := by
      simp only [Core.policiesOf, kind, if_true]
      exact List.mem_filter.mpr ⟨(GoMap.mem_bindings _ _ _).mpr found, by simpa using named⟩
    rw [unreferenced] at refers
    cases refers

/-- The rules of a policy that is not touched stay current. -/
theorem PolicyCurrent.effect (noOrphans : NoOrphans r) (base : Base r.toCore)
    (effect : Effect o r r') {key : String} {policy : NetworkPolicy}
    (found : r.networkPolicyIndexer.get? key = some policy)
    (current : PolicyCurrent r.toCore policy) : PolicyCurrent r'.toCore policy := by
  intro id member
  obtain ⟨named, cloud, listed, live⟩ := current id member
  have still {c : Ref} (indexed : r.Indexed c) (kind : (r.objects c).membershipOnly = true)
      (same : (r.objects c).id = id) :
      r'.Indexed c ∧ (r'.objects c).membershipOnly = true ∧ (r'.objects c).id = id := by
    obtain ⟨sameKind, sameId⟩ := effect.static (base.allocated indexed)
    subst same
    exact ⟨indexed_of_referenced noOrphans base effect found indexed kind named cloud,
      sameKind.trans kind, sameId⟩
  refine ⟨named, cloud, ?_, fun ready => ?_⟩
  · obtain ⟨c, indexed, kind, same⟩ := listed
    exact ⟨c, still indexed kind same⟩
  · obtain ⟨c, indexed, kind, same, created⟩ := live ready
    obtain ⟨indexed', kind', same'⟩ := still indexed kind same
    refine ⟨c, indexed', kind', same', ?_⟩
    have sent := (effect.state_mono base (base.allocated indexed)).1 (by simp [created])
    have alive := (effect.base base).alive c indexed'
    cases state : (r'.objects c).state with
    | created => rfl
    | init => exact absurd state sent
    | garbageCollectState => exact absurd state alive

theorem RulesCurrent.effect (current : RulesCurrent r) (noOrphans : NoOrphans r)
    (base : Base r.toCore) (effect : Effect o r r') : RulesCurrent r' := by
  intro key policy found
  have kept (found : r.networkPolicyIndexer.get? key = some policy) :
      PolicyCurrent r'.toCore policy :=
    (current key policy found).effect noOrphans base effect found
  have stored (id : String) (new : NetworkPolicy) (here : PolicyCurrent r.toCore new)
      (found : (r.networkPolicyIndexer.set id new).get? key = some policy) :
      PolicyCurrent r.toCore policy := by
    rw [GoMap.get?_set] at found
    split at found
    · cases found
      exact here
    · exact current key policy found
  cases effect with
  | newPolicy id new absent empty =>
    refine stored id new (fun cached member => ?_) found
    simp [NetworkPolicy.cachedGroups, empty.1, empty.2] at member
  | touchPolicy id old there => exact stored id old (current id old there) found
  | recompute id old supply there =>
    exact stored id _ (policyCurrent_computeRules base _ _) found
  | changeRules id old rules supply there =>
    exact stored id _ (policyCurrent_computeRules base _ _) found
  | ready id old withStatus supply there ready =>
    exact stored id _ (policyCurrent_ready (current id old there) ready) found
  | changeAppliedTo id old groups there =>
    exact stored id { old with appliedToGroups := groups } (current id old there) found
  | removePolicy id =>
    have found : (r.networkPolicyIndexer.remove id).get? key = some policy := found
    rw [GoMap.get?_remove] at found
    split at found
    · cases found
    · exact kept found
  | _ => exact kept found

/-- All rules that have been sent refer to groups that were live then. -/
def RulesLive (r : Reconciler) : Prop :=
  ∀ x ∈ r.observed, ∀ c id ingress egress,
    x.action = .call c (.updateSecurityGroupRules id ingress egress) →
    ∀ rule ∈ ingress ++ egress, ∀ group ∈ rule.securityGroups, x.before.Live group

theorem RulesLive.effect (live : RulesLive r) (current : RulesCurrent r)
    (effect : Effect o r r') : RulesLive r' := by
  intro x member c id ingress egress action rule isRule group listed
  rcases effect.rules_source member action with old | sent
  · exact live x old c id ingress egress action rule isRule group listed
  · obtain ⟨key, policy, found, _, ready, cached, isCached, refers⟩ :=
      sent.cached rule isRule group listed
    rw [sent.before]
    have cachedGroup : group ∈ policy.cachedGroups :=
      List.mem_flatMap.mpr ⟨cached, isCached, refers⟩
    exact (current key policy found group cachedGroup).2.2.2 ready

end

/-! ## Runs -/

/-- The rules of every policy are current, and all rules sent were live. -/
def RulesSafe (r : Reconciler) : Prop :=
  RulesCurrent r ∧ RulesLive r

theorem rulesSafe_setup : RulesSafe Reconciler.setup :=
  ⟨fun _ _ found => absurd found (by simp [Reconciler.setup]),
    fun _ member => absurd member List.not_mem_nil⟩

/--
Rules are sent only with address groups that are indexed and created, as long
as no creation fails for an object that has been dropped from its indexer.
-/
theorem sent_rules_are_live (cloud : Cloud) (labels : List Label)
    (allowed : Allowed System.step FailsListed (System.initial cloud) labels) :
    let s := run System.step (System.initial cloud) labels
    ∀ x ∈ s.reconciler.observed, ∀ c id ingress egress,
      x.action = .call c (.updateSecurityGroupRules id ingress egress) →
      ∀ rule ∈ ingress ++ egress, ∀ group ∈ rule.securityGroups,
        ∃ d, x.before.addrSGIndexer.get? group.string = some d ∧
          (x.before.objects d).id = group ∧ (x.before.objects d).state = .created := by
  intro s x member c id ingress egress action rule isRule group listed
  have safe := (run_effects FailsListed (fun r => NoOrphans r ∧ RulesSafe r)
    (fun s label allowed base before => before.1.step_along base allowed RulesSafe
      (fun o r r' _ _ base noOrphans effect safe =>
        ⟨safe.1.effect noOrphans base effect, safe.2.effect safe.1 effect⟩) before.2)
    allowed base_setup ⟨noOrphans_setup, rulesSafe_setup⟩).2.2.2
  obtain ⟨d, indexed, kind, same, created⟩ :=
    safe x member c id ingress egress action rule isRule group listed
  refine ⟨d, ?_, same, created⟩
  rw [Core.Indexed, kind, same] at indexed
  exact indexed

/-! ## Sample runs -/

namespace Sample

/-- A policy that lets the address groups and a fixed block reach the appliedTo groups. -/
def policy (addressGroups appliedToGroups : List String) : AntreaNetworkPolicy where
  name := "p"
  «namespace» := "ns"
  sourceRef := some ⟨.antreaNetworkPolicy, "ns", "p"⟩
  rules :=
    [{ direction := .in
       fromPeer := ⟨addressGroups, [⟨⟨0x0a000000, 8⟩, []⟩]⟩
       toPeer := ⟨[], []⟩
       services := none
       action := none
       name := ""
       priority := 0
       enableLogging := false }]
  appliedToGroups := appliedToGroups

/-- A policy is applied after its address group has been created. -/
def appliedPolicy : List Event :=
  bookmarks ++ [.addrGroup .added (.complete "g" [member "a"])] ++ callback 0 none ++
    [.networkPolicy .added (policy ["g"] ["h"]),
      .appliedToGroup .added (.complete "h" [member "a"])] ++ callback 1 none

/--
The creation of a group with two VPCs is sent twice, fails once, and the group
is deleted and made again before the second answer arrives.
-/
def lateFailure : List Event :=
  bookmarks ++ [.addrGroup .added (.complete "g" [member "a", member "c"]), .cloudSync] ++
    callback 1 (some "denied") ++ [.addrGroup .deleted (.complete "g" [])] ++
    callback 3 none ++ [.addrGroup .added (.complete "g" [member "a"])] ++ callback 3 none ++
    [.networkPolicy .added (policy ["g"] ["h"])] ++ callback 1 (some "denied") ++
    [.checkToRun, .appliedToGroup .added (.complete "h" [member "a"])] ++ callback 4 none

/-- The rule that the policy becomes. -/
def cloudRule : Rule where
  port := none
  ips := [⟨0x0a000000, 8⟩]
  securityGroups := [⟨"g", "v1"⟩]
  protocol := none

end Sample

/-- A policy that is applied after its address group has been created. -/
theorem sample_rules_are_live :
    (∃ x ∈ (Sample.after Sample.appliedPolicy).reconciler.observed,
        x.action = .call 1 (.updateSecurityGroupRules ⟨"h", "v1"⟩ [Sample.cloudRule] [])) ∧
      ∀ x ∈ (Sample.after Sample.appliedPolicy).reconciler.observed, ∀ c id ingress egress,
        x.action = .call c (.updateSecurityGroupRules id ingress egress) →
        ∀ rule ∈ ingress ++ egress, ∀ group ∈ rule.securityGroups,
          ∃ d, x.before.addrSGIndexer.get? group.string = some d ∧
            (x.before.objects d).id = group ∧ (x.before.objects d).state = .created :=
  ⟨by decide +kernel, sent_rules_are_live _ _ (by decide +kernel)⟩

/-- A late failure replaces the created group, and rules are sent for the replacement. -/
theorem sent_rules_are_not_live :
    ¬ ∀ x ∈ (Sample.after Sample.lateFailure).reconciler.observed, ∀ c id ingress egress,
      x.action = .call c (.updateSecurityGroupRules id ingress egress) →
      ∀ rule ∈ ingress ++ egress, ∀ group ∈ rule.securityGroups,
        ∃ d, x.before.addrSGIndexer.get? group.string = some d ∧
          (x.before.objects d).id = group ∧ (x.before.objects d).state = .created := by
  intro live
  obtain ⟨x, member, action, replaced, init⟩ :
      ∃ x ∈ (Sample.after Sample.lateFailure).reconciler.observed,
        x.action = .call 3 (.updateSecurityGroupRules ⟨"h", "v1"⟩ [Sample.cloudRule] []) ∧
        x.before.addrSGIndexer.get? "g/v1" = some 1 ∧ (x.before.objects 1).state = .init := by
    decide +kernel
  obtain ⟨d, found, _, created⟩ := live x member 3 _ _ _ action Sample.cloudRule
    (List.mem_singleton.mpr rfl) ⟨"g", "v1"⟩ (List.mem_singleton.mpr rfl)
  obtain rfl : 1 = d := Option.some.inj (replaced.symm.trans found)
  exact absurd (init.symm.trans created) (by simp)

end Nephe
