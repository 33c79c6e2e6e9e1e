import Nephe.Azure.Agreement

/-!
# Rules that refer to a deleted group

Before the ASG of a group is deleted, `removeReferencesToSecurityGroup` takes it
out of the rules of the NSG.  A rule that names no other ASG on that side is
dropped.  For the other rules the remaining ASGs are computed, and then the rule
is kept as it was.
-/

namespace Nephe.Azure

open Library

/-! ## What should be left -/

/-- The id is that of the ASG with this name. -/
def ApplicationSecurityGroup.IsNamed (asgName : String) (asg : ApplicationSecurityGroup) : Prop :=
  ∃ name ∈ nameInID asg.id, toLower name = asgName

instance (asgName : String) : DecidablePred (ApplicationSecurityGroup.IsNamed asgName) :=
  fun _ => inferInstanceAs (Decidable (∃ name ∈ nameInID _, _))

namespace Endpoint

/-- The ASGs on one side of a rule. -/
def asgs (endpoint : Endpoint) : List ApplicationSecurityGroup :=
  endpoint.applicationSecurityGroups.getD []

/-- The list consists only of the ASG. -/
def Emptied (asgName : String) (endpoint : Endpoint) : Prop :=
  endpoint.asgs ≠ [] ∧ ∀ asg ∈ endpoint.asgs, asg.IsNamed asgName

instance (asgName : String) : DecidablePred (Emptied asgName) :=
  fun _ => inferInstanceAs (Decidable (_ ∧ _))

/-- One side of a rule with its remaining ASGs. -/
def without (asgName : String) (endpoint : Endpoint) : Endpoint :=
  { endpoint with
    applicationSecurityGroups :=
      endpoint.applicationSecurityGroups.map (List.filter fun asg => ¬ asg.IsNamed asgName) }

end Endpoint

namespace SecurityRule

/-- The rule has a list that consists only of the ASG. -/
def Emptied (asgName : String) (rule : SecurityRule) : Prop :=
  rule.source.Emptied asgName ∨ rule.destination.Emptied asgName

instance (asgName : String) : DecidablePred (Emptied asgName) :=
  fun _ => inferInstanceAs (Decidable (_ ∨ _))

/-- The rule with its remaining ASGs. -/
def without (asgName : String) (rule : SecurityRule) : SecurityRule :=
  { rule with
    source := rule.source.without asgName
    destination := rule.destination.without asgName }

/-- The ids of the ASGs are well formed. -/
def WellFormed (rule : SecurityRule) : Prop :=
  ∀ asg ∈ rule.source.asgs ++ rule.destination.asgs, nameInID asg.id ≠ none

instance : DecidablePred WellFormed :=
  fun _ => inferInstanceAs (Decidable (∀ asg ∈ _, _))

end SecurityRule

/-- The rules no longer refer to the ASG, and are otherwise the same. -/
structure ReferencesRemoved (asgName : String) (before after : List SecurityRule) : Prop where
  unmentioned : ∀ rule ∈ after, ¬ rule.RefersTo asgName
  pruned : ∀ rule ∈ before, ¬ rule.Emptied asgName → rule.without asgName ∈ after
  dropped : ∀ rule ∈ before, rule.Emptied asgName → rule ∉ after

/-! ## What is left -/

section

variable {asgName : String}

/-- One side of a rule that does not refer to the ASG stays as it is. -/
theorem Endpoint.without_eq_self {endpoint : Endpoint}
    (other : ∀ asg ∈ endpoint.asgs, ¬ asg.IsNamed asgName) :
    endpoint.without asgName = endpoint := by
  obtain ⟨first, second, groups⟩ := endpoint
  cases groups with
  | none => rfl
  | some listed =>
    have kept : listed.filter (fun asg => ¬ asg.IsNamed asgName) = listed :=
      List.filter_eq_self.mpr fun asg member => decide_eq_true (other asg member)
    simp only [Endpoint.without, Option.map_some, kept]

theorem SecurityRule.without_eq_self {rule : SecurityRule} (other : ¬ rule.RefersTo asgName) :
    rule.without asgName = rule := by
  have source : rule.source.without asgName = rule.source :=
    Endpoint.without_eq_self fun asg member named =>
      other ⟨asg, List.mem_append_left _ member, named⟩
  have destination : rule.destination.without asgName = rule.destination :=
    Endpoint.without_eq_self fun asg member named =>
      other ⟨asg, List.mem_append_right _ member, named⟩
  rw [SecurityRule.without, source, destination]

theorem isNamed_iff (asg : ApplicationSecurityGroup) :
    ((nameInID asg.id).any fun name => toLower name == asgName) = true ↔ asg.IsNamed asgName := by
  simp only [Option.any_eq_true, beq_iff_eq, ApplicationSecurityGroup.IsNamed]
  rfl

theorem removeReferences_refers (endpoint : Endpoint) :
    (removeReferences asgName endpoint).1 = true ↔
      ∃ asg ∈ endpoint.asgs, asg.IsNamed asgName := by
  simp only [removeReferences, getAsgsToAdd, List.any_eq_true, isNamed_iff]
  rfl

/-- A side of a rule makes the rule go when its list consists only of the ASG. -/
theorem removeReferences_drops {endpoint : Endpoint}
    (wellFormed : ∀ asg ∈ endpoint.asgs, nameInID asg.id ≠ none) :
    (removeReferences asgName endpoint).2 = true ↔ endpoint.Emptied asgName := by
  let keeps (asg : ApplicationSecurityGroup) : Bool := (nameInID asg.id).isSome &&
    !(nameInID asg.id).any fun name => toLower name == asgName
  -- With well-formed ids, no ASG is kept exactly when all of them have the name.
  have noneKept : endpoint.asgs.filter keeps = [] ↔
      ∀ asg ∈ endpoint.asgs, asg.IsNamed asgName := by
    rw [List.filter_eq_nil_iff]
    refine forall₂_congr fun asg member => ?_
    rw [← isNamed_iff]
    simp [keeps, Option.isSome_iff_ne_none, wellFormed asg member]
  have dropped : (removeReferences asgName endpoint).2 =
      ((removeReferences asgName endpoint).1 && (endpoint.asgs.filter keeps).isEmpty) := by
    simp only [removeReferences, getAsgsToAdd, Endpoint.asgs, keeps]
    congr 1
    split
    next empty => simp [empty]
    next filled => simp [Bool.eq_false_iff.mpr filled]
  rw [dropped, Bool.and_eq_true, removeReferences_refers, List.isEmpty_iff, noneKept]
  refine and_congr_left fun all => ?_
  constructor
  · rintro ⟨asg, member, _⟩
    exact List.ne_nil_of_mem member
  · intro some_
    obtain ⟨asg, member⟩ := List.exists_mem_of_ne_nil _ some_
    exact ⟨asg, member, all asg member⟩

/-- The rules after `removeReferencesToSecurityGroup`: those that have not been emptied. -/
theorem removeReferencesToSecurityGroup_rules {account : Account} {group : CloudResourceID}
    {rgName : String} {membershipOnly : Bool} {faults : Faults} {nsg : NetworkSecurityGroup}
    (found : account.nsgs.get? (rgName, perVnetNsgName group.vpc) = some nsg)
    (wellFormed : ∀ rule ∈ nsg.securityRules.getD [], rule.WellFormed)
    (done : (removeReferencesToSecurityGroup false account group rgName membershipOnly
      faults).1 = .ok ()) :
    ∃ nsg', (removeReferencesToSecurityGroup false account group rgName membershipOnly
        faults).2.nsgs.get? (rgName, perVnetNsgName group.vpc) = some nsg' ∧
      nsg'.securityRules.getD [] = (nsg.securityRules.getD []).filter
        fun rule => ¬ rule.Emptied (group.getCloudName membershipOnly) := by
  revert done
  unfold removeReferencesToSecurityGroup
  simp only [Bool.false_eq_true, if_false]
  generalize group.getCloudName membershipOnly = asgName
  have drops (rule : SecurityRule) (member : rule ∈ nsg.securityRules.getD []) :
      ((removeReferences asgName rule.source).2 || (removeReferences asgName rule.destination).2) =
        decide (rule.Emptied asgName) := by
    have ids := wellFormed rule member
    rw [Bool.eq_iff_iff, Bool.or_eq_true, decide_eq_true_iff,
      removeReferences_drops fun asg listed => ids asg (List.mem_append_left _ listed),
      removeReferences_drops fun asg listed => ids asg (List.mem_append_right _ listed)]
    rfl
  cases read : answer faults.getRules (account.nsgs.get? (rgName, perVnetNsgName group.vpc)) with
  | error err => simp
  | ok nsgObj =>
    obtain rfl : nsg = nsgObj :=
      Option.some.inj (found.symm.trans (answer_eq_ok.mp read).2)
    cases rules : nsg.securityRules with
    | none =>
      simp only [rules]
      exact fun _ => ⟨nsg, found, by simp [rules]⟩
    | some current =>
      rw [rules] at drops
      simp only [rules]
      split
      next required =>
        cases faults.writeRules with
        | some err => simp
        | none =>
          refine fun _ => ⟨_, GoMap.get?_set_self _ _ _, ?_⟩
          refine List.filter_congr fun rule member => ?_
          simp [drops rule member]
      next unrequired =>
        refine fun _ => ⟨nsg, found, ?_⟩
        -- No rule refers to the ASG, so that there is none to drop.
        rw [rules]
        refine (List.filter_eq_self.mpr fun rule member => ?_).symm
        rw [decide_eq_true_iff, ← decide_eq_true_iff (p := rule.Emptied asgName),
          ← drops rule member]
        intro dropped
        refine unrequired (List.any_eq_true.mpr ⟨rule, member, ?_⟩)
        obtain ⟨asg, listed, named⟩ := refersTo_of_dropped dropped
        rw [Bool.or_eq_true, removeReferences_refers, removeReferences_refers]
        rcases List.mem_append.mp listed with source | destination
        · exact .inl ⟨asg, source, named⟩
        · exact .inr ⟨asg, destination, named⟩

end

/--
Without peers, the references to a group are all removed, and only they, if and
only if every rule that refers to its ASG has a side that names nothing else.
-/
theorem references_are_removed_iff (account : Account) (group : CloudResourceID) (rgName : String)
    (membershipOnly : Bool) (faults : Faults) {nsg : NetworkSecurityGroup}
    (found : account.nsgs.get? (rgName, perVnetNsgName group.vpc) = some nsg)
    (wellFormed : ∀ rule ∈ nsg.securityRules.getD [], rule.WellFormed)
    (done : (removeReferencesToSecurityGroup false account group rgName membershipOnly
      faults).1 = .ok ()) :
    (∃ nsg', (removeReferencesToSecurityGroup false account group rgName membershipOnly
          faults).2.nsgs.get? (rgName, perVnetNsgName group.vpc) = some nsg' ∧
        ReferencesRemoved (group.getCloudName membershipOnly) (nsg.securityRules.getD [])
          (nsg'.securityRules.getD [])) ↔
      ∀ rule ∈ nsg.securityRules.getD [], rule.RefersTo (group.getCloudName membershipOnly) →
        rule.Emptied (group.getCloudName membershipOnly) := by
  obtain ⟨nsg', found', left⟩ := removeReferencesToSecurityGroup_rules found wellFormed done
  have kept {rule : SecurityRule} : rule ∈ nsg'.securityRules.getD [] ↔
      rule ∈ nsg.securityRules.getD [] ∧ ¬ rule.Emptied (group.getCloudName membershipOnly) := by
    rw [left, List.mem_filter, decide_eq_true_iff]
  constructor
  · rintro ⟨result, same, removed⟩ rule member refers
    obtain rfl : nsg' = result := Option.some.inj (found'.symm.trans same)
    by_contra stays
    exact removed.unmentioned rule (kept.mpr ⟨member, stays⟩) refers
  · intro emptied
    refine ⟨nsg', found', fun rule member refers => ?_, fun rule member stays => ?_,
      fun rule _ emptied member => (kept.mp member).2 emptied⟩
    · exact (kept.mp member).2 (emptied rule (kept.mp member).1 refers)
    · rw [SecurityRule.without_eq_self fun refers => stays (emptied rule member refers)]
      exact kept.mpr ⟨member, stays⟩

/-- An ASG of the resource group `r`. -/
def asgInR (name : String) : ApplicationSecurityGroup where
  id := "/s/s/g/r/p/p/a/" ++ name
  name := name

/-- A rule that admits what comes from the ASGs with the names. -/
def ruleFrom (names : List String) : SecurityRule where
  name := "n"
  protocol := .tcp
  sourcePortRange := none
  source := { applicationSecurityGroups := some (names.map asgInR) }
  destinationPortRange := none
  destination := {}
  access := .allow
  priority := 100
  direction := .inbound
  description := none

/-- An account with the rules in the NSG of the virtual network `v`. -/
def accountWithRules (rules : List SecurityRule) : Account where
  asgs := ∅
  nsgs := (∅ : GoMap (String × String) NetworkSecurityGroup).set
    ("r", perVnetNsgName "v") ⟨"", some rules⟩
  interfaces := []

theorem only_reference_is_removed :
    ∃ nsg', (removeReferencesToSecurityGroup false (accountWithRules [ruleFrom ["nephe-ag-db"]])
        ⟨"db", "v"⟩ "r" true {}).2.nsgs.get? ("r", perVnetNsgName "v") = some nsg' ∧
      ReferencesRemoved ((CloudResourceID.mk "db" "v").getCloudName true)
        [ruleFrom ["nephe-ag-db"]] (nsg'.securityRules.getD []) :=
  (references_are_removed_iff (accountWithRules [ruleFrom ["nephe-ag-db"]]) ⟨"db", "v"⟩ "r" true {}
    (GoMap.get?_set_self _ _ _) (by decide +kernel) (by decide +kernel)).mpr (by
      intro rule member _
      obtain rfl : rule = ruleFrom ["nephe-ag-db"] := List.mem_singleton.mp member
      decide +kernel)

/-- A rule that names another ASG as well still refers to the deleted one. -/
theorem shared_rule_keeps_reference :
    ((removeReferencesToSecurityGroup false
        (accountWithRules [ruleFrom ["nephe-ag-db", "nephe-ag-web"]]) ⟨"db", "v"⟩ "r" true
          {}).1.toOption = some ()) ∧
      ((removeReferencesToSecurityGroup false
        (accountWithRules [ruleFrom ["nephe-ag-db", "nephe-ag-web"]]) ⟨"db", "v"⟩ "r" true
          {}).2.nsgs.get? ("r", perVnetNsgName "v")).map NetworkSecurityGroup.securityRules =
        some (some [ruleFrom ["nephe-ag-db", "nephe-ag-web"]]) ∧
      (ruleFrom ["nephe-ag-db", "nephe-ag-web"]).RefersTo
        ((CloudResourceID.mk "db" "v").getCloudName true) := by
  refine ⟨by decide +kernel, by decide +kernel, asgInR "nephe-ag-db", by decide +kernel, ?_⟩
  exact ⟨"nephe-ag-db", by decide +kernel, by decide +kernel⟩

end Nephe.Azure
