import Nephe.SecurityGroup.Counts
import Nephe.Library.Subperm
import Nephe.Library.Text
import Nephe.Safety.Rules
import Nephe.Meaning.Rules

/-!
# Comparing rules with the cloud

A sync of an appliedTo group compares the rules of its policies with those that
the cloud reports by counting texts: one for the port of each rule, one for each
address block and one for each group.  The counts forget which peer belongs to
which port and direction, and they count every rule of the policies, where the
cloud has been given merged rules.
-/

namespace Nephe

open Library

/-! ## The steps of a sync -/

namespace Reconciler

/-- The policies that apply to a group. -/
def appliedPolicies (a : Ref) (r : Reconciler) : List (String × NetworkPolicy) :=
  r.policiesByAppliedToGrp (r.objects a).id.name

variable {a : Ref} {c : SynchronizationContent} {items : GoMap String Int} {r r' : Reconciler}
  {update : Ref → Reconciler → Reconciler}

theorem syncWith_appliedTo (kind : (r.objects a).membershipOnly = false)
    (current : (r.objects a).deletePending = false) (content : Option SynchronizationContent) :
    r.syncWith update a content = (r.syncMembers a content).syncRules update a content := by
  simp only [syncWith, kind, current, Bool.false_eq_true, if_false]

/-- What a sync does after it has counted the policies. -/
theorem syncRules_of_recount (counted : r.recount a = (some items, r')) :
    r.syncRules update a (some c) =
      if (countDown items c.items).values.any (· ≠ 0) then update a r'
      else if r.appliedPolicies a ≠ [] then
        (if (r'.objects a).hasRules then r' else r'.markGroupDirty a).assign a
          fun s => { s with hasRules := true }
      else r' := by
  simp only [syncRules, counted]
  rfl

theorem appliedPolicies_congr
    (policies : r'.networkPolicyIndexer = r.networkPolicyIndexer)
    (id : (r'.objects a).id = (r.objects a).id) : r'.appliedPolicies a = r.appliedPolicies a := by
  rw [appliedPolicies, appliedPolicies, id, Core.policiesByAppliedToGrp, policies]
  rfl

theorem appliedPolicies_updateRules :
    (r.updateRules a).appliedPolicies a = r.appliedPolicies a := by
  unfold updateRules
  dsimp only
  split
  · rfl
  · split
    · rfl
    · split
      · split
        · rfl
        · exact appliedPolicies_congr rfl (by simp [assign, advance])
      · split <;> rfl

/-- The comparison of rules leaves the policies as they were counted. -/
theorem appliedPolicies_syncRules {result : Option (GoMap String Int)}
    (counted : r.recount a = (result, r')) :
    (r.syncRules updateRules a (some c)).appliedPolicies a = r'.appliedPolicies a := by
  cases result with
  | none => simp only [syncRules, counted]
  | some items =>
    rw [syncRules_of_recount counted]
    split
    · exact appliedPolicies_updateRules
    · split
      · split
        · exact appliedPolicies_congr rfl (by simp [assign])
        · obtain ⟨trackers, order, marked, _⟩ := quiet_markGroupDirty (r := r') a
          rw [marked]
          exact appliedPolicies_congr rfl (by simp [assign])
      · rfl

end Reconciler

/-! ## The counts of the policies -/

/-- The rules of policies, in both directions. -/
def ingressRulesOf (policies : List (String × NetworkPolicy)) : List IngressRule :=
  policies.flatMap fun entry => entry.2.ingressRules

def egressRulesOf (policies : List (String × NetworkPolicy)) : List EgressRule :=
  policies.flatMap fun entry => entry.2.egressRules

/-- The texts of rules in both directions. -/
def textsOf (ingress : List IngressRule) (egress : List EgressRule) : List String :=
  (ingress ++ egress).flatMap Rule.items

namespace Reconciler

/-- What the loop over the policies leaves alone. -/
structure Recounted (r r' : Reconciler) : Prop where
  objects : r'.objects = r.objects
  observed : r'.observed = r.observed
  inFlight : r'.inFlight = r.inFlight
  groups : ∀ key, (r'.networkPolicyIndexer.get? key).map NetworkPolicy.appliedToGroups =
    (r.networkPolicyIndexer.get? key).map NetworkPolicy.appliedToGroups

variable {keys : List String} {items : GoMap String Int} {r r' : Reconciler}

/-- The loop counts the texts of the recomputed policies, or stops at one that is not ready. -/
theorem syncPolicies_spec (distinct : keys.Nodup) {result : Option (GoMap String Int)}
    (computed : r.syncPolicies keys items = (result, r')) :
    Recounted r r' ∧
      (∀ key ∉ keys, r'.networkPolicyIndexer.get? key = r.networkPolicyIndexer.get? key) ∧
      (result.isSome = true ↔
        ∀ policy ∈ keys.filterMap r'.networkPolicyIndexer.get?, policy.rulesReady = true) ∧
      ∀ counts ∈ result, ∀ text, counted counts text = counted items text +
        ((keys.filterMap r'.networkPolicyIndexer.get?).flatMap NetworkPolicy.items).count text := by
  induction keys generalizing items r with
  | nil =>
    cases computed
    exact ⟨⟨rfl, rfl, rfl, fun _ => rfl⟩, fun _ _ => rfl, by simp, by rintro _ ⟨⟩ text; simp⟩
  | cons key rest induction =>
    obtain ⟨fresh, distinct⟩ := List.nodup_cons.mp distinct
    rw [syncPolicies] at computed
    cases found : r.networkPolicyIndexer.get? key with
    | none =>
      simp only [found] at computed
      obtain ⟨frame, others, ready, counts⟩ := induction distinct computed
      rw [List.filterMap_cons, (others key fresh).trans found]
      exact ⟨frame, fun other notIn => others other fun inRest =>
        notIn (List.mem_cons_of_mem _ inRest), ready, counts⟩
    | some policy =>
      simp only [found] at computed
      let policy' := policy.computeRules r.toCore r.order.left
      have set (other : String) : (r.split.setPolicy key policy').networkPolicyIndexer.get?
          other = if other = key then some policy' else r.networkPolicyIndexer.get? other :=
        GoMap.get?_set _ _ _ _
      have sameGroups (other : String) : ((r.split.setPolicy key
          policy').networkPolicyIndexer.get? other).map NetworkPolicy.appliedToGroups =
          (r.networkPolicyIndexer.get? other).map NetworkPolicy.appliedToGroups := by
        rw [set]
        split
        next same =>
          rw [same, found]
          exact congrArg some (congrArg Prod.fst (policy.references_computeRules _ _))
        next => rfl
      have other {other : String} (notIn : other ∉ key :: rest) :
          (r.split.setPolicy key policy').networkPolicyIndexer.get? other =
            r.networkPolicyIndexer.get? other := by
        rw [set, if_neg (List.ne_of_not_mem_cons notIn)]
      split at computed
      next isReady =>
        obtain ⟨frame, others, ready, counts⟩ := induction distinct computed
        rw [List.filterMap_cons, (others key fresh).trans ((set key).trans (if_pos rfl))]
        refine ⟨⟨frame.objects, frame.observed, frame.inFlight, fun key =>
          (frame.groups key).trans (sameGroups key)⟩, fun key notIn => ?_, ?_,
          fun result isSome text => ?_⟩
        · exact (others key fun inRest => notIn (List.mem_cons_of_mem _ inRest)).trans
            (other notIn)
        · rw [ready, List.forall_mem_cons]
          exact (and_iff_right isReady).symm
        · rw [counts result isSome text, counted_countUp, List.flatMap_cons, List.count_append,
            Nat.cast_add, add_assoc]
      next notReady =>
        cases computed
        refine ⟨⟨rfl, rfl, rfl, sameGroups⟩, fun _ => other, ?_, by rintro _ ⟨⟩⟩
        rw [List.filterMap_cons, (set key).trans (if_pos rfl)]
        exact iff_of_false (by simp) fun all => notReady (all policy' List.mem_cons_self)

/-- The policies that apply to a group after the loop, found by their keys. -/
theorem policies_perm (distinct : keys.Nodup) {name : String} (listed : ∀ key, key ∈ keys ↔
      ∃ groups ∈ (r'.networkPolicyIndexer.get? key).map NetworkPolicy.appliedToGroups,
        name ∈ groups) :
    ((r'.policiesByAppliedToGrp name).map (·.2)).Perm
      (keys.filterMap r'.networkPolicyIndexer.get?) := by
  have mem_iff {entry : String × NetworkPolicy} : entry ∈ r'.policiesByAppliedToGrp name ↔
      r'.networkPolicyIndexer.get? entry.1 = some entry.2 ∧ name ∈ entry.2.appliedToGroups := by
    rw [Core.policiesByAppliedToGrp, List.mem_filter, ← GoMap.mem_bindings, List.contains_iff_mem]
  have sameKeys : ((r'.policiesByAppliedToGrp name).map (·.1)).Perm keys := by
    refine (List.perm_ext_iff_of_nodup ?_ distinct).mpr fun key => ?_
    · exact (GoMap.nodup_bindings _).sublist (List.filter_sublist.map _)
    · simp [listed, mem_iff]
  have values : (r'.policiesByAppliedToGrp name).map (·.2) =
      ((r'.policiesByAppliedToGrp name).map (·.1)).filterMap r'.networkPolicyIndexer.get? := by
    rw [List.filterMap_map, ← List.filterMap_eq_map]
    exact List.filterMap_congr fun entry member => (mem_iff.mp member).1.symm
  rw [values]
  exact sameKeys.filterMap _

theorem count_items (policies : List (String × NetworkPolicy)) (text : String) :
    ((policies.map (·.2)).flatMap NetworkPolicy.items).count text =
      (textsOf (ingressRulesOf policies) (egressRulesOf policies)).count text := by
  induction policies with
  | nil => rfl
  | cons entry rest induction =>
    simp only [textsOf, ingressRulesOf, egressRulesOf, List.flatMap_append, List.count_append,
      List.flatMap_cons, List.map_cons, NetworkPolicy.items] at induction ⊢
    omega

/-- The loop comes to its end when all policies are ready, and then has counted their texts. -/
theorem recount_spec {a : Ref} {result : Option (GoMap String Int)}
    (computed : r.recount a = (result, r')) :
    Recounted r r' ∧
      (result.isSome = true ↔ ∀ entry ∈ r'.appliedPolicies a, entry.2.rulesReady = true) ∧
      ∀ items ∈ result, ∀ text, counted items text = (textsOf
        (ingressRulesOf (r'.appliedPolicies a)) (egressRulesOf (r'.appliedPolicies a))).count
          text := by
  generalize named : (r.objects a).id.name = name
  rw [recount, named] at computed
  have distinct : (arrange (r.order 0) ((r.policiesByAppliedToGrp name).map (·.1))).Nodup := by
    rw [(arrange_perm _ _).nodup_iff]
    exact (GoMap.nodup_bindings _).sublist (List.filter_sublist.map _)
  obtain ⟨frame, _, ready, counts⟩ := syncPolicies_spec distinct computed
  have same : r'.appliedPolicies a = r'.policiesByAppliedToGrp name := by
    rw [appliedPolicies, frame.objects, ← named]
    rfl
  have perm : ((r'.appliedPolicies a).map (·.2)).Perm _ :=
    same ▸ policies_perm distinct fun key => by
      rw [frame.groups key]
      simp [Core.policiesByAppliedToGrp]
      rfl
  refine ⟨⟨frame.objects, frame.observed, frame.inFlight, frame.groups⟩, ?_,
    fun items found text => ?_⟩
  · rw [ready]
    simp only [← perm.mem_iff, List.forall_mem_map]
  · rw [counts items found text, counted_empty, zero_add, ← count_items,
      (perm.flatMap_right NetworkPolicy.items).count_eq]

variable {a : Ref} {c : SynchronizationContent}

/-- A sync of a group with ready policies counts them all. -/
theorem exists_recount (kind : (r.objects a).membershipOnly = false)
    (current : (r.objects a).deletePending = false)
    (ready : ∀ entry ∈ (r.sync a (some c)).appliedPolicies a, entry.2.rulesReady = true) :
    ∃ items r', (r.syncMembers a (some c)).recount a = (some items, r') ∧
      (r.sync a (some c)).appliedPolicies a = r'.appliedPolicies a := by
  have same : (r.sync a (some c)).appliedPolicies a =
      ((r.syncMembers a (some c)).recount a).2.appliedPolicies a := by
    rw [sync, syncWith_appliedTo kind current]
    exact appliedPolicies_syncRules (Prod.mk.eta).symm
  rw [same] at ready ⊢
  obtain ⟨items, counted⟩ := Option.isSome_iff_exists.mp
    ((recount_spec Prod.mk.eta.symm).2.1.mpr ready)
  exact ⟨items, _, Prod.ext counted rfl, rfl⟩

/-- Some count is not zero in the end when the texts of the rules differ. -/
theorem any_countDown_iff (found : r.recount a = (some items, r')) :
    (countDown items c.items).values.any (· ≠ 0) = true ↔
      ¬ (textsOf c.ingressRules c.egressRules).Perm (textsOf (ingressRulesOf (r'.appliedPolicies a))
        (egressRulesOf (r'.appliedPolicies a))) := by
  have counts := (recount_spec found).2.2 items rfl
  rw [any_ne_zero_iff, List.perm_iff_count, not_forall]
  refine exists_congr fun text => not_congr ?_
  rw [counted_countDown, counts text, SynchronizationContent.items, textsOf, textsOf]
  omega

end Reconciler

/-! ## Drift that goes unnoticed -/

/-- A peer that a rule lists, with the direction, the port and the protocol of the rule. -/
structure Listing where
  direction : Direction
  port : Option Int
  protocol : Option Nat
  peer : IPNet ⊕ CloudResourceID
deriving DecidableEq

namespace Listing

/-- The text that the peer is counted by. -/
def text (listing : Listing) : String :=
  listing.peer.elim IPNet.string CloudResourceID.string

/-- The listing admits the traffic. -/
def Admits (listing : Listing) (traffic : Traffic) : Prop :=
  traffic.Fits listing.port listing.protocol ∧
    listing.peer.elim (fun block => traffic.peer.Among [block] [])
      fun id => traffic.peer.Among [] [id]

end Listing

/-- What a rule lists. -/
def Rule.listings (direction : Direction) (rule : Rule) : List Listing :=
  (rule.ips.map Sum.inl ++ rule.securityGroups.map Sum.inr).map
    (⟨direction, rule.port, rule.protocol, ·⟩)

/-- What the rules of both directions list. -/
def listingsOf (ingress : List IngressRule) (egress : List EgressRule) : List Listing :=
  ingress.flatMap (Rule.listings .in) ++ egress.flatMap (Rule.listings .out)

/-- What the cloud reports that it lists. -/
def SynchronizationContent.listings (c : SynchronizationContent) : List Listing :=
  listingsOf c.ingressRules c.egressRules

section Listings

variable {rule : Rule} {rules : List Rule} {ingress ingress' : List IngressRule}
  {egress egress' : List EgressRule} {traffic : Traffic}

theorem among_iff {ips : List IPNet} {groups : List CloudResourceID} {peer : Peer} :
    peer.Among ips groups ↔ ∃ listed ∈ ips.map Sum.inl ++ groups.map Sum.inr,
      listed.elim (fun block => peer.Among [block] []) fun id => peer.Among [] [id] := by
  cases peer <;> simp [Peer.Among]

end Listings

namespace Sample

/-- Ingress from one block to the HTTP port, from the other to the HTTPS port. -/
def webPolicy : AntreaNetworkPolicy where
  name := "p"
  «namespace» := "ns"
  sourceRef := some ⟨.antreaNetworkPolicy, "ns", "p"⟩
  rules :=
    [portRule (.int 80), portRule (.int 443) otherBlock]
  appliedToGroups := ["h"]

/-- The policy is applied to a group that the cloud has. -/
def web : Reconciler :=
  (after (bookmarks ++ [.appliedToGroup .added (.complete "h" [member "a"])] ++ callback 0 none ++
    [.networkPolicy .added webPolicy])).reconciler

/-- A report about the group, with the blocks for the two ports. -/
def webReport (http https : IPNet) : SynchronizationContent where
  resource := ⟨"h", "v1"⟩
  membershipOnly := false
  members := [⟨.virtualMachine, ⟨"a", "v1"⟩⟩]
  membersWithOtherSGAttached := []
  ingressRules := [⟨some 80, [http], [], some 6⟩, ⟨some 443, [https], [], some 6⟩]
  egressRules := []

end Sample

end Nephe
