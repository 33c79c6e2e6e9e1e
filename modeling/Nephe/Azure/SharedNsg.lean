import Nephe.Azure.SecurityRules
import Nephe.Library.Runs

/-!
# The NSG that the groups of a virtual network share

`UpdateSecurityGroupRules` replaces the rules of one appliedTo group
(`azure_security.go`).  The NSG of the virtual network is read, the rules of other
groups are kept, those of the group are converted anew, and the result is numbered
from the start and written back.

Which group a rule belongs to is only known from its description.  Updates of one
group leave the rules of the others as they were, up to the numbers.
-/

namespace Nephe.Azure

open Library

/-! ## Updating the rules of a group -/

/-- What the account knows about a virtual network and its peers. -/
structure VnetView where
  /-- The virtual networks it is peered with. -/
  peers : List String
  cachedVnetIDs : GoSet String
  /-- The virtual machines of the account: their virtual networks and first addresses. -/
  virtualMachines : List (String × Option String)

/-- A call of `UpdateSecurityGroupRules`, with what Azure answers to its requests. -/
structure RulesCall where
  group : CloudResourceID
  ingress : List IngressRule
  egress : List EgressRule
  getNsg : Option String := none
  listAsgs : Except String (List ApplicationSecurityGroup)
  write : Option String := none
  /-- The order of the loops over the default rules. -/
  code : Nat := 0

def RulesCall.rules (call : RulesCall) : SecurityRuleDirection → List Rule
  | .inbound => call.ingress
  | .outbound => call.egress

/-- The current rules in one direction that belong to other appliedTo groups. -/
def keptRules (cloudName : String) (direction : SecurityRuleDirection)
    (rules : List SecurityRule) : List SecurityRule :=
  rules.filter fun rule =>
    rule.description.any (fun description => isAppliedToName description &&
      description != cloudName) && rule.direction == direction

/--
`buildEffectiveNSGSecurityRulesToApply` and its variant for peers, which differ in how
they convert the rules of the group.
-/
def buildEffectiveRules (call : RulesCall) (current : List SecurityRule)
    (convert : SecurityRuleDirection → List ApplicationSecurityGroup →
      Except String (List SecurityRule)) : Except String (List SecurityRule) :=
  match call.getNsg with
  | some err => .error err
  | none => do
      let cloudName := call.group.getCloudName false
      let asgs ← call.listAsgs
      let newIngress ← convert .inbound asgs
      let newEgress ← convert .outbound asgs
      return updateSecurityRuleNameAndPriority call.code (keptRules cloudName .inbound current)
          newIngress ++
        updateSecurityRuleNameAndPriority call.code (keptRules cloudName .outbound current)
          newEgress

/-- The rules of the call in one direction, converted for a virtual network without peers. -/
def RulesCall.convert (call : RulesCall) (direction : SecurityRuleDirection)
    (asgs : List ApplicationSecurityGroup) : Except String (List SecurityRule) :=
  convertToAzureNsgSecurityRules direction call.group (call.rules direction)
    (getNepheControllerCreatedAsgByName asgs).1 (getNepheControllerCreatedAsgByName asgs).2

def buildEffectiveNSGSecurityRulesToApply (call : RulesCall) (current : List SecurityRule) :
    Except String (List SecurityRule) :=
  buildEffectiveRules call current call.convert

def buildEffectivePeerNSGSecurityRulesToApply (call : RulesCall) (ruleIP : Option String)
    (current : List SecurityRule) : Except String (List SecurityRule) :=
  buildEffectiveRules call current fun direction asgs =>
    convertToAzurePeerNsgSecurityRules direction call.group (call.rules direction)
      (getNepheControllerCreatedAsgByName asgs).1 ruleIP

/--
`UpdateSecurityGroupRules`: the error, and the rules of the NSG afterwards.  The address for
peers is that of the first virtual machine, if it is in the virtual network of the group.
-/
def updateSecurityGroupRules (view : VnetView) (call : RulesCall)
    (current : List SecurityRule) : Option String × List SecurityRule :=
  let peered := view.peers.any (· ∈ view.cachedVnetIDs)
  let ruleIP := match view.virtualMachines with
    | [] => none
    | (vnetID, ip) :: _ => if vnetID = call.group.vpc then ip else none
  let built : Except String (List SecurityRule) := do
    let rules ← if peered then buildEffectivePeerNSGSecurityRulesToApply call ruleIP current
      else .ok []
    if peered && !view.virtualMachines.isEmpty then return rules
    else buildEffectiveNSGSecurityRulesToApply call current
  match built with
  | .error err => (some err, current)
  | .ok rules =>
    match call.write with
    | some err => (some err, current)
    | none => (none, rules)

/-! ## Rules up to their numbers -/

namespace SecurityRule

/-- A rule without its name and priority. -/
def bare (rule : SecurityRule) : SecurityRule :=
  { rule with name := "", priority := 0 }

@[simp]
theorem bare_renumbered (rule : SecurityRule) (priority : Nat) :
    (rule.renumbered priority).bare = rule.bare := rfl

@[simp]
theorem description_bare (rule : SecurityRule) : rule.bare.description = rule.description := rfl

@[simp]
theorem direction_bare (rule : SecurityRule) : rule.bare.direction = rule.direction := rfl

@[simp]
theorem access_bare (rule : SecurityRule) : rule.bare.access = rule.access := rfl

end SecurityRule

/-- The rules of a group in one direction. -/
def groupRules (direction : SecurityRuleDirection) (group : CloudResourceID)
    (rules : List SecurityRule) : List SecurityRule :=
  rules.filter fun rule =>
    rule.direction == direction && rule.description == some (group.getCloudName false)

/-- Rules with consecutive priorities. -/
def renumberFrom (priority : Nat) : List SecurityRule → List SecurityRule
  | [] => []
  | rule :: rest => rule.renumbered priority :: renumberFrom (priority + 1) rest

theorem map_bare_renumberFrom (priority : Nat) (rules : List SecurityRule) :
    (renumberFrom priority rules).map (·.bare) = rules.map (·.bare) := by
  induction rules generalizing priority with
  | nil => rfl
  | cons rule rest induction => simp [renumberFrom, induction]

/-- Selecting rules by what numbers do not change commutes with numbering. -/
theorem map_bare_filter_renumberFrom {keep : SecurityRule → Bool}
    (blind : ∀ rule : SecurityRule, keep rule.bare = keep rule) (priority : Nat)
    (rules : List SecurityRule) :
    ((renumberFrom priority rules).filter keep).map (·.bare) =
      (rules.filter keep).map (·.bare) := by
  have bared (list : List SecurityRule) :
      (list.filter keep).map (·.bare) = (list.map (·.bare)).filter keep := by
    rw [List.filter_map]
    congr 1
    exact List.filter_congr fun rule _ => (blind rule).symm
  rw [bared, bared, map_bare_renumberFrom]

variable {priority : Nat} {rules new : List SecurityRule} {direction : SecurityRuleDirection}
  {description : String} {group : CloudResourceID} {call : RulesCall}
  {asgs : List ApplicationSecurityGroup} {view : VnetView}

theorem mem_renumberFrom {rule : SecurityRule} (member : rule ∈ renumberFrom priority rules) :
    ∃ original ∈ rules, ∃ given, rule = original.renumbered given ∧ priority ≤ given ∧
      given < priority + rules.length := by
  induction rules generalizing priority with
  | nil => cases member
  | cons first rest induction =>
    rcases List.mem_cons.mp member with rfl | later
    · exact ⟨first, List.mem_cons_self, priority, rfl, le_rfl, by simp⟩
    · obtain ⟨original, listed, given, same, low, high⟩ := induction later
      refine ⟨original, List.mem_cons_of_mem _ listed, given, same, by omega, ?_⟩
      simp only [List.length_cons]
      omega

theorem pairwise_priority_renumberFrom (priority : Nat) (rules : List SecurityRule) :
    (renumberFrom priority rules).Pairwise fun first second =>
      first.priority < second.priority := by
  induction rules generalizing priority with
  | nil => exact List.Pairwise.nil
  | cons rule rest induction =>
    refine List.pairwise_cons.mpr ⟨fun other member => ?_, induction _⟩
    obtain ⟨_, _, given, rfl, low, _⟩ := mem_renumberFrom member
    exact low

/-! ## Renumbering -/

theorem foldl_add (state : Renumbering)
    (numbered : ∀ rule ∈ rules, rule.priority ≠ vnetToVnetDenyRulePriority) :
    rules.foldl Renumbering.add state =
      ⟨state.rules ++ renumberFrom state.rulePriority rules, state.defaultRulesByName,
        state.rulePriority + rules.length⟩ := by
  induction rules generalizing state with
  | nil => simp [renumberFrom]
  | cons rule rest induction =>
    have here : state.add rule = ⟨state.rules ++ [rule.renumbered state.rulePriority],
        state.defaultRulesByName, state.rulePriority + 1⟩ :=
      if_neg (numbered rule List.mem_cons_self)
    rw [List.foldl_cons, here,
      induction _ fun other member => numbered other (List.mem_cons_of_mem _ member)]
    simp [renumberFrom, Nat.add_assoc, Nat.add_comm 1]

/-- The rules of an NSG in one direction: numbered ones, and the one that denies the rest. -/
def part (direction : SecurityRuleDirection) (allows : List SecurityRule) (denied : Bool) :
    List SecurityRule :=
  renumberFrom ruleStartPriority allows ++ if denied then [vnetToVnetDenyRule direction] else []

theorem renumberFrom_append (priority : Nat) (first second : List SecurityRule) :
    renumberFrom priority (first ++ second) =
      renumberFrom priority first ++ renumberFrom (priority + first.length) second := by
  induction first generalizing priority with
  | nil => rfl
  | cons rule rest induction =>
    simp [renumberFrom, induction, Nat.add_assoc, Nat.add_comm 1]

/-- Merging gives all rules new numbers and keeps one rule that denies. -/
theorem updateSecurityRuleNameAndPriority_eq {code : Nat} {existing : List SecurityRule}
    (denied : Bool)
    (existingNumbered : ∀ rule ∈ existing, rule.priority ≠ vnetToVnetDenyRulePriority)
    (newNumbered : ∀ rule ∈ new, rule.priority ≠ vnetToVnetDenyRulePriority) :
    updateSecurityRuleNameAndPriority code
        (existing ++ if denied then [vnetToVnetDenyRule direction] else [])
        (new ++ [vnetToVnetDenyRule direction]) =
      part direction (existing ++ new) true := by
  have add_deny (state : Renumbering) : state.add (vnetToVnetDenyRule direction) =
      ⟨state.rules, state.defaultRulesByName.set (vnetToVnetDenyRule direction).name
        (vnetToVnetDenyRule direction), state.rulePriority⟩ := if_pos rfl
  have single : arrange code [vnetToVnetDenyRule direction] = [vnetToVnetDenyRule direction] :=
    List.perm_singleton.mp (arrange_perm code _)
  unfold updateSecurityRuleNameAndPriority part
  rw [List.foldl_append, List.foldl_append, foldl_add _ existingNumbered, renumberFrom_append]
  cases denied with
  | false =>
    simp only [Bool.false_eq_true, if_false, List.foldl_nil, foldl_add _ newNumbered,
      List.foldl_cons, add_deny, List.nil_append, List.append_assoc, if_true]
    exact congrArg _ (congrArg _ single)
  | true =>
    simp only [if_true, List.foldl_cons, List.foldl_nil, add_deny, foldl_add _ newNumbered,
      List.nil_append, List.append_assoc, GoMap.set, AList.insert_insert]
    exact congrArg _ (congrArg _ single)

/-! ## Converted rules -/

/-- What every rule that the loop of a converter makes looks like. -/
structure IsConverted (direction : SecurityRuleDirection) (description : String)
    (low high : Nat) (rule : SecurityRule) : Prop where
  access : rule.access = .allow
  direction : rule.direction = direction
  description : rule.description = some description
  low : low ≤ rule.priority
  high : rule.priority < high

theorem isConverted_convertRules {own : Endpoint} {peers : Rule → List Endpoint} {rules : List Rule}
    {converted : List SecurityRule}
    (finished : convertRules direction own description peers priority rules = .ok converted) :
    ∀ rule ∈ converted,
      IsConverted direction description priority (priority + converted.length) rule := by
  induction rules generalizing priority converted with
  | nil =>
    simp only [convertRules, Except.ok.injEq] at finished
    subst finished
    exact List.forall_mem_nil _
  | cons first rest induction =>
    obtain ⟨protoName, _, later, remaining, rfl⟩ := convertRules_cons.mp finished
    intro rule member
    rw [List.length_append, length_number, List.length_map]
    rcases List.mem_append.mp member with here | there
    · obtain ⟨original, listed, given, rfl, low, high⟩ := mem_number here
      obtain ⟨peer, _, rfl⟩ := List.mem_map.mp listed
      rw [List.length_map] at high
      exact ⟨rfl, rfl, rfl, low, lt_of_lt_of_le high (by omega)⟩
    · obtain ⟨access, direction, description, low, high⟩ := induction remaining rule there
      exact ⟨access, direction, description, by omega, by omega⟩

/-! ## The layout of the NSG -/

/-- An appliedTo group whose rules cannot be taken for the rule that denies. -/
structure Ordinary (group : CloudResourceID) : Prop where
  lower : toLower group.name = group.name
  other : group.name ≠ appliedToSecurityGroupNamePerVnet

theorem Ordinary.getCloudName_ne (ordinary : Ordinary group) :
    group.getCloudName false ≠ vnetToVnetDenyRuleDescription := by
  intro same
  have name := congrArg isNepheControllerCreatedSG same
  rw [group.isNephe_getCloudName_false, ordinary.lower] at name
  exact ordinary.other (congrArg Prod.fst name)

/-- Groups with different names have different cloud names. -/
theorem Ordinary.getCloudName_inj {other : CloudResourceID} (ordinary : Ordinary group)
    (ordinary' : Ordinary other) (same : group.getCloudName false = other.getCloudName false) :
    group.name = other.name := by
  rw [← ordinary.lower, ← ordinary'.lower]
  exact (Azure.getCloudName_inj same).2

/-- Rules of ordinary groups in one direction, few enough for their priorities. -/
structure AllowRules (direction : SecurityRuleDirection) (allows : List SecurityRule) : Prop where
  access : ∀ rule ∈ allows, rule.access = .allow
  direction : ∀ rule ∈ allows, rule.direction = direction
  group : ∀ rule ∈ allows, ∃ group, Ordinary group ∧
    rule.description = some (group.getCloudName false)
  few : allows.length < 3996

/-- The rules of an NSG: for each direction numbered rules, and the one that denies. -/
structure LaidOut (allows : SecurityRuleDirection → List SecurityRule) (denied : Bool)
    (rules : List SecurityRule) : Prop where
  valid : ∀ direction, AllowRules direction (allows direction)
  rules : rules = part .inbound (allows .inbound) denied ++ part .outbound (allows .outbound) denied

namespace LaidOut

variable {allows : SecurityRuleDirection → List SecurityRule} {denied : Bool}
  {rules : List SecurityRule} {direction : SecurityRuleDirection}

theorem empty : LaidOut (fun _ => []) false [] where
  valid _ := ⟨List.forall_mem_nil _, List.forall_mem_nil _, List.forall_mem_nil _, by decide⟩
  rules := rfl

theorem direction_of_mem_part (laidOut : LaidOut allows denied rules) {rule : SecurityRule}
    (member : rule ∈ part direction (allows direction) denied) : rule.direction = direction := by
  rcases List.mem_append.mp member with numbered | last
  · obtain ⟨original, listed, _, rfl, _⟩ := mem_renumberFrom numbered
    exact (laidOut.valid direction).direction original listed
  · cases denied with
    | false => cases last
    | true => rw [List.mem_singleton.mp last]; rfl

/-- The rules of one direction stand together. -/
theorem filter_direction (laidOut : LaidOut allows denied rules)
    (direction : SecurityRuleDirection) :
    rules.filter (·.direction == direction) = part direction (allows direction) denied := by
  have own : (part direction (allows direction) denied).filter (·.direction == direction) =
      part direction (allows direction) denied :=
    List.filter_eq_self.mpr fun rule member => by
      simp [laidOut.direction_of_mem_part member]
  have foreign {other : SecurityRuleDirection} (different : other ≠ direction) :
      (part other (allows other) denied).filter (·.direction == direction) = [] :=
    List.filter_eq_nil_iff.mpr fun rule member => by
      simp [laidOut.direction_of_mem_part member, different]
  rw [laidOut.rules, List.filter_append]
  cases direction with
  | inbound =>
    have none := @foreign .outbound (by decide)
    rw [own, none, List.append_nil]
  | outbound =>
    have none := @foreign .inbound (by decide)
    rw [own, none, List.nil_append]

theorem filter_direction_and (laidOut : LaidOut allows denied rules)
    (direction : SecurityRuleDirection) (keep : SecurityRule → Bool) :
    rules.filter (fun rule => rule.direction == direction && keep rule) =
      (renumberFrom ruleStartPriority (allows direction)).filter keep ++
        (if denied then [vnetToVnetDenyRule direction] else []).filter keep := by
  have split : rules.filter (fun rule => rule.direction == direction && keep rule) =
      (rules.filter (·.direction == direction)).filter keep := by
    rw [List.filter_filter]
    exact List.filter_congr fun rule _ => Bool.and_comm _ _
  rw [split, laidOut.filter_direction, part, List.filter_append]

/-- The numbered rules of the groups other than one. -/
def othersOf (allows : SecurityRuleDirection → List SecurityRule) (group : CloudResourceID)
    (direction : SecurityRuleDirection) : List SecurityRule :=
  (renumberFrom ruleStartPriority (allows direction)).filter
    fun rule => rule.description != some (group.getCloudName false)

/-- What is kept for an update: the rules of the other groups, and the rule that denies. -/
theorem keptRules_eq (laidOut : LaidOut allows denied rules) {group : CloudResourceID}
    (ordinary : Ordinary group) (direction : SecurityRuleDirection) :
    keptRules (group.getCloudName false) direction rules =
      othersOf allows group direction ++
        if denied then [vnetToVnetDenyRule direction] else [] := by
  have turned : keptRules (group.getCloudName false) direction rules =
      rules.filter fun rule => rule.direction == direction &&
        rule.description.any fun description => isAppliedToName description &&
          description != group.getCloudName false :=
    List.filter_congr fun rule _ => Bool.and_comm _ _
  rw [turned, laidOut.filter_direction_and]
  congr 1
  · refine List.filter_congr fun rule member => ?_
    obtain ⟨original, listed, _, rfl, _⟩ := mem_renumberFrom member
    obtain ⟨owner, _, described⟩ := (laidOut.valid direction).group original listed
    have applied := owner.isAppliedTo_getCloudName false
    simp only [SecurityRule.renumbered, described, Option.any_some, applied]
    simp [bne]
  · cases denied with
    | false => rfl
    | true =>
      have different : (vnetToVnetDenyRuleDescription != group.getCloudName false) = true := by
        simpa using ordinary.getCloudName_ne.symm
      have applied : isAppliedToName vnetToVnetDenyRuleDescription = true := by decide
      simp [vnetToVnetDenyRule, buildSecurityRule, different, applied]

theorem priority_of_mem (laidOut : LaidOut allows denied rules) {rule : SecurityRule}
    (member : rule ∈ renumberFrom ruleStartPriority (allows direction)) :
    ruleStartPriority ≤ rule.priority ∧ rule.priority < vnetToVnetDenyRulePriority := by
  obtain ⟨_, _, given, rfl, low, high⟩ := mem_renumberFrom member
  have few := (laidOut.valid direction).few
  simp only [ruleStartPriority, vnetToVnetDenyRulePriority, SecurityRule.renumbered] at *
  omega

end LaidOut

/-! ## One update -/

/-- The number of rules that allow something. -/
def countAllows (rules : List SecurityRule) : Nat :=
  rules.countP (·.access == .allow)

/-- Fewer rules are kept and converted in each direction than there are priorities. -/
def RulesCall.Fits (call : RulesCall) (before : List SecurityRule) : Prop :=
  ∀ asgs, call.listAsgs = .ok asgs → ∀ direction new, call.convert direction asgs = .ok new →
    countAllows (keptRules (call.group.getCloudName false) direction before) +
      countAllows new < 3996

/-- What an update that succeeds has done to the rules. -/
structure KeepsApart (call : RulesCall) (before after : List SecurityRule) : Prop where
  /-- The group has the rules that were converted. -/
  updated : ∃ asgs, call.listAsgs = .ok asgs ∧ ∀ direction, ∃ allows,
    call.convert direction asgs = .ok (allows ++ [vnetToVnetDenyRule direction]) ∧
      (groupRules direction call.group after).map (·.bare) = allows.map (·.bare)
  /-- The other groups have the rules they had. -/
  others : ∀ direction other, Ordinary other → other.name ≠ call.group.name →
    (groupRules direction other after).map (·.bare) =
      (groupRules direction other before).map (·.bare)
  /-- One rule denies, and every other rule belongs to a group. -/
  denies : ∀ direction, after.filter (fun rule => rule.direction == direction &&
    rule.access == .deny) = [vnetToVnetDenyRule direction]
  attributed : ∀ rule ∈ after, rule.access = .allow → ∃ group, Ordinary group ∧
    rule ∈ groupRules rule.direction group after
  priorities : ∀ direction, ((after.filter (·.direction == direction)).map (·.priority)).Nodup
  names : ∀ direction, ((after.filter (·.direction == direction)).map (·.name)).Nodup
  bounds : ∀ rule ∈ after, rule.access = .allow → 100 ≤ rule.priority ∧ rule.priority ≤ 4095

/-- A converter ends with the rule that denies. -/
theorem RulesCall.convert_eq (converted : call.convert direction asgs = .ok new) :
    ∃ allows, new = allows ++ [vnetToVnetDenyRule direction] ∧ ∀ rule ∈ allows,
      IsConverted direction (call.group.getCloudName false) ruleStartPriority
        (ruleStartPriority + allows.length) rule := by
  unfold RulesCall.convert convertToAzureNsgSecurityRules at converted
  split at converted
  next => cases converted
  next asg _ =>
    simp only [bind_eq_ok, pure_eq_ok] at converted
    obtain ⟨allows, finished, rfl⟩ := converted
    exact ⟨allows, rfl, isConverted_convertRules finished⟩

theorem countAllows_converted {low high : Nat} {allows : List SecurityRule}
    (converted : ∀ rule ∈ allows, IsConverted direction description low high rule) :
    countAllows (allows ++ [vnetToVnetDenyRule direction]) = allows.length := by
  have all : allows.countP (·.access == .allow) = allows.length :=
    List.countP_eq_length.mpr fun rule member => by simp [(converted rule member).access]
  rw [countAllows, List.countP_append, all]
  rfl

section Update

variable {allows : SecurityRuleDirection → List SecurityRule} {denied : Bool}
  {rules : List SecurityRule} {call : RulesCall}

/-- The rules of other groups, and the new ones of the group. -/
def mergedAllows (allows new : SecurityRuleDirection → List SecurityRule) (group : CloudResourceID)
    (direction : SecurityRuleDirection) : List SecurityRule :=
  LaidOut.othersOf allows group direction ++ new direction

theorem LaidOut.merge (laidOut : LaidOut allows denied rules) (ordinary : Ordinary call.group)
    {new : SecurityRuleDirection → List SecurityRule} {direction : SecurityRuleDirection}
    (converted : ∀ rule ∈ new direction, IsConverted direction (call.group.getCloudName false)
      ruleStartPriority (ruleStartPriority + (new direction).length) rule)
    (fits : countAllows (keptRules (call.group.getCloudName false) direction rules) +
      (new direction).length < 3996) :
    AllowRules direction (mergedAllows allows new call.group direction) ∧
      updateSecurityRuleNameAndPriority call.code
          (keptRules (call.group.getCloudName false) direction rules)
          (new direction ++ [vnetToVnetDenyRule direction]) =
        part direction (mergedAllows allows new call.group direction) true := by
  have valid := laidOut.valid direction
  have kept (rule : SecurityRule) (member : rule ∈ othersOf allows call.group direction) :
      rule.access = .allow ∧ rule.direction = direction ∧ (∃ group, Ordinary group ∧
        rule.description = some (group.getCloudName false)) ∧
        rule.priority ≠ vnetToVnetDenyRulePriority := by
    have numbered := List.mem_of_mem_filter member
    have bounds := laidOut.priority_of_mem numbered
    obtain ⟨original, listed, _, rfl, _⟩ := mem_renumberFrom numbered
    exact ⟨valid.access original listed, valid.direction original listed,
      valid.group original listed, ne_of_lt bounds.2⟩
  have merged (rule : SecurityRule)
      (member : rule ∈ mergedAllows allows new call.group direction) :
      rule.access = .allow ∧ rule.direction = direction ∧ ∃ group, Ordinary group ∧
        rule.description = some (group.getCloudName false) := by
    rcases List.mem_append.mp member with old | fresh
    · obtain ⟨access, same, owner, _⟩ := kept rule old
      exact ⟨access, same, owner⟩
    · obtain ⟨access, same, description, _⟩ := converted rule fresh
      exact ⟨access, same, call.group, ordinary, description⟩
  rw [laidOut.keptRules_eq ordinary] at fits ⊢
  constructor
  · refine ⟨fun rule member => (merged rule member).1, fun rule member => (merged rule member).2.1,
      fun rule member => (merged rule member).2.2, ?_⟩
    · have counted : countAllows (othersOf allows call.group direction) =
          (othersOf allows call.group direction).length :=
        List.countP_eq_length.mpr fun rule member => by simp [(kept rule member).1]
      rw [countAllows, List.countP_append, ← countAllows, counted] at fits
      rw [mergedAllows, List.length_append]
      omega
  · refine updateSecurityRuleNameAndPriority_eq denied (fun rule member =>
      (kept rule member).2.2.2) fun rule member => ?_
    have high := (converted rule member).high
    simp only [ruleStartPriority, vnetToVnetDenyRulePriority] at *
    omega

/-- Without peers, an update is what `buildEffectiveNSGSecurityRulesToApply` builds. -/
theorem updateSecurityGroupRules_eq {view : VnetView} (unpeered : view.peers = [])
    (call : RulesCall) (current : List SecurityRule) :
    updateSecurityGroupRules view call current =
      match buildEffectiveNSGSecurityRulesToApply call current with
      | .error err => (some err, current)
      | .ok rules =>
        match call.write with
        | some err => (some err, current)
        | none => (none, rules) := by
  simp [updateSecurityGroupRules, unpeered, bind, Except.bind]

theorem buildEffective_eq_ok {after : List SecurityRule}
    (built : buildEffectiveNSGSecurityRulesToApply call rules = .ok after) :
    ∃ asgs, call.listAsgs = .ok asgs ∧ ∃ ingress egress,
      call.convert .inbound asgs = .ok ingress ∧ call.convert .outbound asgs = .ok egress ∧
        after = updateSecurityRuleNameAndPriority call.code
            (keptRules (call.group.getCloudName false) .inbound rules) ingress ++
          updateSecurityRuleNameAndPriority call.code
            (keptRules (call.group.getCloudName false) .outbound rules) egress := by
  unfold buildEffectiveNSGSecurityRulesToApply buildEffectiveRules at built
  cases read : call.getNsg with
  | some err => simp [read] at built
  | none =>
    simp only [read, bind_eq_ok, pure_eq_ok] at built
    obtain ⟨asgs, listed, ingress, inbound, egress, outbound, rfl⟩ := built
    exact ⟨asgs, listed, ingress, egress, inbound, outbound, rfl⟩

/-- An update that succeeds lays the rules out again. -/
theorem LaidOut.update (laidOut : LaidOut allows denied rules) (ordinary : Ordinary call.group)
    (fits : call.Fits rules) {after : List SecurityRule}
    (built : buildEffectiveNSGSecurityRulesToApply call rules = .ok after) :
    ∃ asgs new, call.listAsgs = .ok asgs ∧
      (∀ direction, call.convert direction asgs =
        .ok (new direction ++ [vnetToVnetDenyRule direction])) ∧
      (∀ direction, ∀ rule ∈ new direction, rule.direction = direction ∧
        rule.description = some (call.group.getCloudName false)) ∧
      LaidOut (mergedAllows allows new call.group) true after := by
  obtain ⟨asgs, listed, ingress, egress, inbound, outbound, rfl⟩ := buildEffective_eq_ok built
  have converts : ∀ direction, ∃ allows,
      call.convert direction asgs = .ok (allows ++ [vnetToVnetDenyRule direction]) ∧
        ∀ rule ∈ allows, IsConverted direction (call.group.getCloudName false) ruleStartPriority
          (ruleStartPriority + allows.length) rule := by
    intro direction
    have : ∃ new, call.convert direction asgs = .ok new := by
      cases direction with
      | inbound => exact ⟨_, inbound⟩
      | outbound => exact ⟨_, outbound⟩
    obtain ⟨new, converted⟩ := this
    obtain ⟨allows, rfl, shape⟩ := RulesCall.convert_eq converted
    exact ⟨allows, converted, shape⟩
  choose new converted shape using converts
  have merge (direction : SecurityRuleDirection) := laidOut.merge ordinary (shape direction) (by
    have bound := fits asgs listed direction _ (converted direction)
    rwa [countAllows_converted (shape direction)] at bound)
  refine ⟨asgs, new, listed, converted, fun direction rule member =>
    ⟨(shape direction rule member).direction, (shape direction rule member).description⟩,
    fun direction => (merge direction).1, ?_⟩
  rw [← (merge .inbound).2, ← (merge .outbound).2]
  rw [Except.ok.inj (inbound.symm.trans (converted .inbound)),
    Except.ok.inj (outbound.symm.trans (converted .outbound))]

end Update

/-! ## What the layout says about the rules -/

theorem ruleName_inj {first second : Nat}
    (same : ruleName first direction = ruleName second direction) : first = second := by
  have text := congrArg String.toList same
  exact toDigits_inj (by simpa [ruleName] using text)

namespace LaidOut

variable {allows : SecurityRuleDirection → List SecurityRule} {denied : Bool}
  {rules : List SecurityRule}

/-- The rules of a group, up to their numbers. -/
theorem groupRules_bare (laidOut : LaidOut allows denied rules) {group : CloudResourceID}
    (ordinary : Ordinary group) (direction : SecurityRuleDirection) :
    (groupRules direction group rules).map (·.bare) =
      ((allows direction).filter (·.description == some (group.getCloudName false))).map
        (·.bare) := by
  have denies : (if denied then [vnetToVnetDenyRule direction] else []).filter
      (·.description == some (group.getCloudName false)) = [] := by
    have different : (vnetToVnetDenyRuleDescription == group.getCloudName false) = false := by
      simpa using ordinary.getCloudName_ne.symm
    cases denied with
    | false => rfl
    | true => simp [vnetToVnetDenyRule, buildSecurityRule, different]
  rw [groupRules, laidOut.filter_direction_and, denies, List.append_nil]
  exact map_bare_filter_renumberFrom (fun _ => rfl) _ _

/-- Every rule that allows something is a numbered rule of its direction. -/
theorem mem_allows (laidOut : LaidOut allows denied rules) {rule : SecurityRule}
    (member : rule ∈ rules) (allow : rule.access = .allow) :
    rule ∈ renumberFrom ruleStartPriority (allows rule.direction) := by
  have inPart : rule ∈ part rule.direction (allows rule.direction) denied := by
    rw [← laidOut.filter_direction]
    exact List.mem_filter.mpr ⟨member, by simp⟩
  rcases List.mem_append.mp inPart with numbered | last
  · exact numbered
  · cases denied with
    | false => cases last
    | true =>
      rw [List.mem_singleton.mp last] at allow
      cases allow

theorem nodup_priorities (laidOut : LaidOut allows denied rules)
    (direction : SecurityRuleDirection) :
    ((rules.filter (·.direction == direction)).map (·.priority)).Nodup := by
  rw [laidOut.filter_direction, part, List.map_append, List.nodup_append]
  refine ⟨?_, ?_, ?_⟩
  · exact List.pairwise_map.mpr
      ((pairwise_priority_renumberFrom _ _).imp fun smaller => ne_of_lt smaller)
  · cases denied <;> simp
  · intro first numbered second last
    obtain ⟨rule, member, rfl⟩ := List.mem_map.mp numbered
    have below := (laidOut.priority_of_mem member).2
    cases denied with
    | false => cases last
    | true =>
      rw [List.mem_singleton.mp last]
      exact ne_of_lt below

/-- A name says what the priority is. -/
theorem name_eq (laidOut : LaidOut allows denied rules) {rule : SecurityRule}
    {direction : SecurityRuleDirection}
    (member : rule ∈ part direction (allows direction) denied) :
    rule.name = ruleName rule.priority direction := by
  rcases List.mem_append.mp member with numbered | last
  · obtain ⟨original, listed, _, rfl, _⟩ := mem_renumberFrom numbered
    rw [SecurityRule.renumbered, (laidOut.valid direction).direction original listed]
  · cases denied with
    | false => cases last
    | true => rw [List.mem_singleton.mp last]; rfl

theorem nodup_names (laidOut : LaidOut allows denied rules)
    (direction : SecurityRuleDirection) :
    ((rules.filter (·.direction == direction)).map (·.name)).Nodup := by
  have names : (rules.filter (·.direction == direction)).map (·.name) =
      ((rules.filter (·.direction == direction)).map (·.priority)).map
        (ruleName · direction) := by
    rw [laidOut.filter_direction, List.map_map]
    exact List.map_congr_left fun rule member => laidOut.name_eq member
  rw [names]
  exact (laidOut.nodup_priorities direction).map fun _ _ => ruleName_inj

theorem filter_deny (laidOut : LaidOut allows true rules) (direction : SecurityRuleDirection) :
    rules.filter (fun rule => rule.direction == direction && rule.access == .deny) =
      [vnetToVnetDenyRule direction] := by
  have numbered : (renumberFrom ruleStartPriority (allows direction)).filter
      (·.access == .deny) = [] :=
    List.filter_eq_nil_iff.mpr fun rule member => by
      obtain ⟨original, listed, _, rfl, _⟩ := mem_renumberFrom member
      simp [SecurityRule.renumbered, (laidOut.valid direction).access original listed]
  rw [laidOut.filter_direction_and, numbered]
  rfl

theorem keepsApart {call : RulesCall} (laidOut : LaidOut allows denied rules)
    (ordinary : Ordinary call.group) (fits : call.Fits rules) {after : List SecurityRule}
    (built : buildEffectiveNSGSecurityRulesToApply call rules = .ok after) :
    KeepsApart call rules after := by
  obtain ⟨asgs, new, listed, converted, owned, laidOut'⟩ := laidOut.update ordinary fits built
  refine ⟨⟨asgs, listed, fun direction => ⟨new direction, converted direction, ?_⟩⟩, ?_,
    laidOut'.filter_deny, ?_, laidOut'.nodup_priorities, laidOut'.nodup_names, ?_⟩
  · rw [laidOut'.groupRules_bare ordinary, mergedAllows, List.filter_append]
    have dropped : (othersOf allows call.group direction).filter
        (·.description == some (call.group.getCloudName false)) = [] :=
      List.filter_eq_nil_iff.mpr fun rule member => by
        simpa using (List.mem_filter.mp member).2
    have taken : (new direction).filter
        (·.description == some (call.group.getCloudName false)) = new direction :=
      List.filter_eq_self.mpr fun rule member => by simp [(owned direction rule member).2]
    rw [dropped, taken, List.nil_append]
  · intro direction other ordinary' different
    have cloudNames : other.getCloudName false ≠ call.group.getCloudName false :=
      fun same => different (ordinary'.getCloudName_inj ordinary same)
    rw [laidOut'.groupRules_bare ordinary', laidOut.groupRules_bare ordinary', mergedAllows,
      List.filter_append]
    have kept : (othersOf allows call.group direction).filter
          (·.description == some (other.getCloudName false)) =
        (renumberFrom ruleStartPriority (allows direction)).filter
          (·.description == some (other.getCloudName false)) := by
      rw [othersOf, List.filter_filter]
      refine List.filter_congr fun rule _ => ?_
      by_cases belongs : rule.description = some (other.getCloudName false)
      · simp [belongs, cloudNames]
      · simp [belongs]
    have none : (new direction).filter
        (·.description == some (other.getCloudName false)) = [] :=
      List.filter_eq_nil_iff.mpr fun rule member => by
        simpa [(owned direction rule member).2] using cloudNames.symm
    rw [kept, none, List.append_nil]
    exact map_bare_filter_renumberFrom (fun _ => rfl) _ _
  · intro rule member allow
    obtain ⟨original, listed, _, renumbered, _⟩ :=
      mem_renumberFrom (laidOut'.mem_allows member allow)
    obtain ⟨group, ordinary', described⟩ := (laidOut'.valid _).group original listed
    refine ⟨group, ordinary', List.mem_filter.mpr ⟨member, ?_⟩⟩
    have same : rule.description = original.description := by rw [renumbered]; rfl
    simp [same, described]
  · intro rule member allow
    obtain ⟨low, high⟩ := laidOut'.priority_of_mem (laidOut'.mem_allows member allow)
    simp only [ruleStartPriority, vnetToVnetDenyRulePriority] at low high
    omega

end LaidOut

/-! ## Runs -/

/-- The rules of the NSG after one more call. -/
def updateRules (view : VnetView) (current : List SecurityRule) (call : RulesCall) :
    List SecurityRule :=
  (updateSecurityGroupRules view call current).2

theorem laidOut_run (unpeered : view.peers = []) {calls : List RulesCall}
    (plain : Allowed (updateRules view) (fun current call => Ordinary call.group ∧
      call.Fits current) [] calls) :
    ∃ allows denied, LaidOut allows denied (run (updateRules view) [] calls) := by
  refine run_invariant (fun rules => ∃ allows denied, LaidOut allows denied rules) ?_ plain
    ⟨_, _, .empty⟩
  rintro rules call ⟨ordinary, fits⟩ ⟨allows, denied, laidOut⟩
  rw [updateRules, updateSecurityGroupRules_eq unpeered]
  cases built : buildEffectiveNSGSecurityRulesToApply call rules with
  | error err => exact ⟨allows, denied, laidOut⟩
  | ok after =>
    cases call.write with
    | some err => exact ⟨allows, denied, laidOut⟩
    | none =>
      obtain ⟨_, _, _, _, _, laidOut'⟩ := laidOut.update ordinary fits built
      exact ⟨_, _, laidOut'⟩

/-- A call fails in conversion if the ASG of its group is missing or a protocol is unsupported. -/
theorem RulesCall.convert_fails_iff (call : RulesCall) (direction : SecurityRuleDirection)
    (asgs : List ApplicationSecurityGroup) :
    (∃ err, call.convert direction asgs = .error err) ↔
      (getNepheControllerCreatedAsgByName asgs).2.get? (toLower call.group.name) = none ∨
        ∃ rule ∈ call.rules direction, rule.protocol ∉ [none, some 1, some 6, some 17] := by
  unfold RulesCall.convert convertToAzureNsgSecurityRules
  cases (getNepheControllerCreatedAsgByName asgs).2.get? (toLower call.group.name) with
  | none => exact iff_of_true ⟨_, rfl⟩ (.inl rfl)
  | some asg =>
    dsimp only
    cases finished : convertRules direction { applicationSecurityGroups := some [asg] }
        (call.group.getCloudName false) (fun rule => addressPeers rule ++ groupPeers
          (getNepheControllerCreatedAsgByName asgs).1 rule) ruleStartPriority
        (call.rules direction) with
    | error err =>
      refine iff_of_true ⟨err, rfl⟩ (.inr (by_contra fun all => ?_))
      obtain ⟨_, converted⟩ := exists_convertRules direction _ _ _ ruleStartPriority
        fun rule member => exists_protocolName_iff.mpr (by_contra fun unsupported =>
          all ⟨rule, member, unsupported⟩)
      cases finished.symm.trans converted
    | ok allows =>
      refine iff_of_false (by rintro ⟨err, ⟨⟩⟩) (by
        rintro (⟨⟨⟩⟩ | ⟨rule, member, unsupported⟩)
        obtain ⟨protoName, named, _⟩ := (mem_convertRules finished).2 rule member
        exact unsupported (exists_protocolName_iff.mp ⟨protoName, named⟩))

/-- A rule that cannot be converted ends the update before anything is written. -/
theorem updateSecurityGroupRules_of_error (unpeered : view.peers = []) {err : String}
    (listed : call.listAsgs = .ok asgs) (failed : call.convert direction asgs = .error err)
    (rules : List SecurityRule) :
    (updateSecurityGroupRules view call rules).1 ≠ none ∧
      (updateSecurityGroupRules view call rules).2 = rules := by
  rw [updateSecurityGroupRules_eq unpeered]
  cases built : buildEffectiveNSGSecurityRulesToApply call rules with
  | error err => exact ⟨Option.some_ne_none _, rfl⟩
  | ok after =>
    obtain ⟨asgs', listed', ingress, egress, inbound, outbound, _⟩ := buildEffective_eq_ok built
    cases listed.symm.trans listed'
    cases direction with
    | inbound => cases failed.symm.trans inbound
    | outbound => cases failed.symm.trans outbound

/--
In a virtual network without peers, after any sequence of updates of ordinary groups, an
update that succeeds keeps the groups apart, and one that fails in conversion writes
nothing.
-/
theorem groups_stay_apart (view : VnetView) (unpeered : view.peers = [])
    (calls : List RulesCall) (call : RulesCall)
    (plain : Allowed (updateRules view) (fun current call => Ordinary call.group ∧
      call.Fits current) [] (calls ++ [call])) :
    ((updateSecurityGroupRules view call (run (updateRules view) [] calls)).1 = none →
      KeepsApart call (run (updateRules view) [] calls)
        (updateSecurityGroupRules view call (run (updateRules view) [] calls)).2) ∧
    ((∃ asgs direction err, call.listAsgs = .ok asgs ∧
        call.convert direction asgs = .error err) →
      (updateSecurityGroupRules view call (run (updateRules view) [] calls)).1 ≠ none ∧
        (updateSecurityGroupRules view call (run (updateRules view) [] calls)).2 =
          run (updateRules view) [] calls) := by
  obtain ⟨before, ⟨ordinary, fits⟩, _⟩ := plain.append
  obtain ⟨allows, denied, laidOut⟩ := laidOut_run unpeered before
  constructor
  · intro succeeded
    rw [updateSecurityGroupRules_eq unpeered] at succeeded ⊢
    cases built : buildEffectiveNSGSecurityRulesToApply call (run (updateRules view) [] calls) with
    | error err => simp [built] at succeeded
    | ok after =>
      cases written : call.write with
      | some err => simp [built, written] at succeeded
      | none => exact laidOut.keepsApart ordinary fits built
  · rintro ⟨asgs, direction, err, listed, failed⟩
    exact updateSecurityGroupRules_of_error unpeered listed failed _

/-- The ASGs of two appliedTo groups and of an address group. -/
def sampleAsgs : List ApplicationSecurityGroup :=
  [⟨"/subscriptions/s/resourceGroups/rg/providers/m/asgs/nephe-at-web", "nephe-at-web"⟩,
    ⟨"/subscriptions/s/resourceGroups/rg/providers/m/asgs/nephe-at-api", "nephe-at-api"⟩,
    ⟨"/subscriptions/s/resourceGroups/rg/providers/m/asgs/nephe-ag-db", "nephe-ag-db"⟩]

def sampleView : VnetView := ⟨[], ∅, []⟩

/-- Web is reached from a block, and reaches the group db. -/
def webCall : RulesCall where
  group := ⟨"web", "vnet"⟩
  ingress := [⟨some 443, [⟨0x0a000000#32, 8⟩], [], some 6⟩]
  egress := [⟨some 5432, [], [⟨"db", "vnet"⟩], some 6⟩]
  listAsgs := .ok sampleAsgs

def apiCall : RulesCall where
  group := ⟨"api", "vnet"⟩
  ingress := [⟨none, [], [], none⟩]
  egress := []
  listAsgs := .ok sampleAsgs

/-- After both updates each group has its rule, and one rule denies the rest. -/
theorem web_and_api_stay_apart :
    (updateSecurityGroupRules sampleView apiCall
        (run (updateRules sampleView) [] [webCall])).1 = none ∧
      KeepsApart apiCall (run (updateRules sampleView) [] [webCall])
        (updateSecurityGroupRules sampleView apiCall
          (run (updateRules sampleView) [] [webCall])).2 := by
  have succeeded : (updateSecurityGroupRules sampleView apiCall
      (run (updateRules sampleView) [] [webCall])).1 = none := by decide +kernel
  refine ⟨succeeded, (groups_stay_apart sampleView rfl [webCall] apiCall
    ⟨⟨⟨by decide, by decide⟩, ?_⟩, ⟨⟨by decide, by decide⟩, ?_⟩, trivial⟩).1 succeeded⟩
  · intro asgs listed direction new converted
    cases listed
    cases direction <;> cases converted <;> decide +kernel
  · intro asgs listed direction new converted
    cases listed
    cases direction <;> cases converted <;> decide +kernel

end Nephe.Azure
