import Nephe.Azure.SharedNsg

/-!
# Reading rules back from an NSG

The rules that were written for an appliedTo group are read back when the state of
the cloud is compared with what is wanted.  Every rule of a group is written in up
to two parts, and comes back as two rules that admit the same.  This rests on where
the rules come from: a port is the 32-bit `IntVal` of a Kubernetes port, and the name
of an address group is the name of a Kubernetes object, which is in lower case.
-/

namespace Nephe.Azure

open Library

/-! ## Meanings -/

/-- What a rule admits: a protocol, a port, and a block or a group. -/
abbrev Admission := Option Nat × Option Int × (IPNet ⊕ CloudResourceID)

def admissions (rule : Rule) : List Admission :=
  rule.ips.map (fun ip => (rule.protocol, rule.port, .inl ip)) ++
    rule.securityGroups.map (fun group => (rule.protocol, rule.port, .inr group))

/-- The rules of a group in one direction; a group that is not listed has none. -/
def RulesByGroup.rules (byGroup : RulesByGroup) (direction : SecurityRuleDirection)
    (sgName : String) : List Rule :=
  match direction with
  | .inbound => (byGroup.ingress.get? sgName).getD []
  | .outbound => (byGroup.egress.get? sgName).getD []

/-- A rule as Azure returns it: a list of prefixes that is absent comes back empty. -/
def Endpoint.returned (endpoint : Endpoint) : Endpoint :=
  { endpoint with addressPrefixes := some (endpoint.addressPrefixes.getD []) }

def SecurityRule.returned (rule : SecurityRule) : SecurityRule :=
  { rule with source := rule.source.returned, destination := rule.destination.returned }

/--
A rule that can be written for a group: its peers are known in the virtual network, its port
is a positive number of type `int32`, and its groups have lower-case names.
-/
structure Expressible (vnetID : String) (agAsgMap : GoMap String ApplicationSecurityGroup)
    (rule : Rule) : Prop where
  protocol : rule.protocol ∈ [none, some 1, some 6, some 17]
  port : ∀ port ∈ rule.port, 0 < port ∧ port < 2 ^ 31
  peer : rule.ips ≠ [] ∨ rule.securityGroups ≠ []
  canonical : ∀ ip ∈ rule.ips, ip.Canonical
  known : ∀ group ∈ rule.securityGroups, group.vpc = vnetID ∧
    (agAsgMap.get? (toLower group.name)).isSome
  lower : ∀ group ∈ rule.securityGroups, toLower group.name = group.name

/-- The rule that denies, as it is read back. -/
def denyRuleRead : Rule := ⟨none, [], [], none⟩

/--
The rules of a group come back with the same meaning, and nothing else comes back except the
two rules that deny.
-/
def Survives (group : CloudResourceID) (asgs : List ApplicationSecurityGroup)
    (rules : SecurityRuleDirection → List Rule) : Prop :=
  ∃ ingress egress byGroup,
    convertIngressToAzureNsgSecurityRules group (rules .inbound)
      (getNepheControllerCreatedAsgByName asgs).1
      (getNepheControllerCreatedAsgByName asgs).2 = .ok ingress ∧
    convertEgressToAzureNsgSecurityRules group (rules .outbound)
      (getNepheControllerCreatedAsgByName asgs).1
      (getNepheControllerCreatedAsgByName asgs).2 = .ok egress ∧
    convertToNepheControllerRulesByAppliedToSGName ((ingress ++ egress).map (·.returned))
      group.vpc = some byGroup ∧
    ∀ direction,
      (∀ admission, (∃ rule ∈ byGroup.rules direction group.name, admission ∈ admissions rule) ↔
        ∃ rule ∈ rules direction, admission ∈ admissions rule) ∧
      byGroup.rules direction appliedToSecurityGroupNamePerVnet = [denyRuleRead] ∧
      ∀ other, other ≠ group.name → other ≠ appliedToSecurityGroupNamePerVnet →
        byGroup.rules direction other = []

/-! ## Reading a list of rules -/

theorem rules_append (byGroup : RulesByGroup) (sgName : String)
    (direction other : SecurityRuleDirection) (rule : Rule) (name : String) :
    (byGroup.append sgName direction rule).rules other name =
      byGroup.rules other name ++ if direction = other ∧ sgName = name then [rule] else [] := by
  cases direction <;> cases other <;>
    simp only [RulesByGroup.append, RulesByGroup.rules, GoMap.get?_set, reduceCtorEq, false_and,
      if_false, List.append_nil, true_and]
  all_goals
    by_cases same : name = sgName
    · simp [same]
    · simp [same, Ne.symm same]

variable {vnetID : String} {port : Option Int} {protocol : Option Nat}
  {protoName : SecurityRuleProtocol} {ips : List IPNet} {asgs : List ApplicationSecurityGroup}

/-- Reading rules of which none is in the way of the others. -/
theorem foldlM_read {rules : List SecurityRule} {converted : SecurityRule → Rule}
    {sgName : SecurityRule → String}
    (readable : ∀ rule ∈ rules, ∃ description, rule.description = some description ∧
      isNepheControllerCreatedSG description = (sgName rule, false, true) ∧
      convertFromAzureSecurityRule rule vnetID = some (.ok (converted rule)))
    (byGroup : RulesByGroup) :
    ∃ after, rules.foldlM (RulesByGroup.read vnetID) byGroup = some after ∧
      ∀ direction name, after.rules direction name = byGroup.rules direction name ++
        (rules.filter fun rule => rule.direction = direction ∧ sgName rule = name).map
          converted := by
  induction rules generalizing byGroup with
  | nil => exact ⟨byGroup, rfl, by simp⟩
  | cons first rest induction =>
    obtain ⟨description, described, named, read⟩ := readable first List.mem_cons_self
    obtain ⟨after, finished, holds⟩ := induction
      (fun rule member => readable rule (List.mem_cons_of_mem _ member))
      (byGroup.append (sgName first) first.direction (converted first))
    have here : RulesByGroup.read vnetID byGroup first =
        some (byGroup.append (sgName first) first.direction (converted first)) := by
      simp [RulesByGroup.read, described, named, read]
    refine ⟨after, ?_, fun direction name => ?_⟩
    · rw [List.foldlM_cons, here]
      exact finished
    · rw [holds, rules_append, List.append_assoc, List.filter_cons]
      split
      next both => simp [both]
      next either => simp [either]

/-! ## The parts of a rule -/

theorem convertFromAzurePort_convertTo (fits : ∀ p ∈ port, 0 < p ∧ p < 2 ^ 31) :
    convertFromAzurePortToNepheControllerPort (some (convertToAzurePortRange port)) = port := by
  cases port with
  | none => rfl
  | some port =>
    obtain ⟨positive, small⟩ := fits port rfl
    obtain ⟨number, rfl⟩ := Int.eq_ofNat_of_zero_le positive.le
    have small : number < 2 ^ 31 := by exact_mod_cast small
    have digits : ∀ c ∈ Nat.toDigits 10 number, c.isDigit = true := fun c member =>
      Nat.isDigit_of_mem_toDigits (by decide) (by decide) member
    have parsed : parseInt32 (toString (number : Int)) = some (number : Int) := by
      have value : (if Nat.toDigits 10 number ≠ [] ∧ (Nat.toDigits 10 number).all Char.isDigit
          then some (Nat.ofDigitChars 10 (Nat.toDigits 10 number) 0) else none) =
          some number := by
        rw [if_pos ⟨toDigits_ne_nil number, by simpa using digits⟩,
          Nat.ofDigitChars_ten_toDigits]
      unfold parseInt32
      rw [toList_toString_ofNat]
      revert value digits
      cases Nat.toDigits 10 number with
      | nil => simp
      | cons first rest =>
        intro digits value
        have isDigit := digits first List.mem_cons_self
        split
        next sign =>
          cases sign
          cases isDigit
        next sign =>
          cases sign
          cases isDigit
        next => simp only [value, Option.bind_eq_bind, Option.bind_some, if_pos small]
    have given : toString (number : Int) ≠ emptyPort :=
      toString_ne_of_mem (c := '*') (by decide) (by decide) _ (by decide)
    simp only [convertFromAzurePortToNepheControllerPort, convertToAzurePortRange, if_neg given,
      parsed]

theorem convertFromAzureProtocol_convertTo
    (named : convertToAzureProtocolName protocol = .ok protoName) :
    convertFromAzureProtocolToNepheControllerProtocol protoName = .ok protocol := by
  unfold convertToAzureProtocolName at named
  split at named <;> cases named <;> rfl

theorem convertFromAzurePrefixes_convertTo (some_ : ips ≠ [])
    (canonical : ∀ ip ∈ ips, ip.Canonical) :
    convertFromAzurePrefixesToNepheControllerIPs (convertToAzureAddressPrefix ips).returned =
      some ips := by
  have read : (ips.map IPNet.string).filterMap parseCIDR = ips := by
    rw [List.filterMap_map]
    have each : ips.filterMap (parseCIDR ∘ IPNet.string) = ips.filterMap some :=
      List.filterMap_congr fun ip member => parseCIDR_string (canonical ip member)
    rw [each, List.filterMap_some]
  simp [convertToAzureAddressPrefix, some_, Endpoint.returned,
    convertFromAzurePrefixesToNepheControllerIPs, read]

/-! ## Groups and their ASGs -/

/-- The names of groups are read from the ids of their ASGs, where they are in lower case. -/
theorem convertFromAzureASGs_convertTo
    (named : ∀ asg ∈ asgs, nameInID asg.id = some (toLower asg.name))
    {groups : List CloudResourceID} (known : ∀ group ∈ groups, group.vpc = vnetID ∧
      ((getNepheControllerCreatedAsgByName asgs).1.get? (toLower group.name)).isSome)
    (lower : ∀ group ∈ groups, toLower group.name = group.name) :
    convertFromAzureASGsToNepheControllerSecurityGroups
        (some (convertToAzureApplicationSecurityGroups groups
          (getNepheControllerCreatedAsgByName asgs).1)) vnetID = groups := by
  induction groups with
  | nil => rfl
  | cons group rest induction =>
    obtain ⟨rfl, isKnown⟩ := known group List.mem_cons_self
    obtain ⟨asg, found⟩ := Option.isSome_iff_exists.mp isKnown
    obtain ⟨listed, sgName, isAT, made, key⟩ := mem_of_get?_ag found
    obtain ⟨origin, cloudName, rfl⟩ := exists_of_isAddressGroup made
    have later := induction (fun other member => known other (List.mem_cons_of_mem _ member))
      fun other member => lower other (List.mem_cons_of_mem _ member)
    rw [toLower_toLower, lower group List.mem_cons_self] at key
    simp only [convertFromAzureASGsToNepheControllerSecurityGroups, Option.getD_some,
      convertToAzureApplicationSecurityGroups] at later ⊢
    simp [found, named asg listed, cloudName, origin.isNephe_getCloudName_true, key, later]

/-! ## One rule -/

/-- Reading a rule that was built: the own end of the group plays no role. -/
theorem convertFromAzureSecurityRule_build
    (named : convertToAzureProtocolName protocol = .ok protoName)
    (fits : ∀ p ∈ port, 0 < p ∧ p < 2 ^ 31) (peer : Endpoint)
    (addresses : convertFromAzurePrefixesToNepheControllerIPs peer.returned = some ips)
    (direction : SecurityRuleDirection) (own : Endpoint) (description : String)
    (access : SecurityRuleAccess) (priority : Nat) (vnetID : String) :
    convertFromAzureSecurityRule (buildSecurityRule protoName direction own peer
        (convertToAzurePortRange port) description access priority).returned vnetID =
      some (.ok ⟨port, ips,
        convertFromAzureASGsToNepheControllerSecurityGroups peer.applicationSecurityGroups vnetID,
        protocol⟩) := by
  have ends : (buildSecurityRule protoName direction own peer (convertToAzurePortRange port)
      description access priority).returned.peer = peer.returned := by
    cases direction <;> rfl
  unfold convertFromAzureSecurityRule
  rw [ends, addresses]
  simp only [SecurityRule.returned, buildSecurityRule, convertFromAzurePort_convertTo fits,
    convertFromAzureProtocol_convertTo named]
  rfl

section Rule

variable {vnetID : String} {asgs : List ApplicationSecurityGroup} {rule : Rule}

/-- The end that stands for the groups of a rule. -/
def groupEndpoint (agAsgMap : GoMap String ApplicationSecurityGroup) (rule : Rule) : Endpoint where
  applicationSecurityGroups := some (convertToAzureApplicationSecurityGroups rule.securityGroups
    agAsgMap)

/-- The peers of a rule: one for its blocks and one for its groups. -/
theorem mem_peers {agAsgMap : GoMap String ApplicationSecurityGroup}
    (expressible : Expressible vnetID agAsgMap rule) (peer : Endpoint) :
    peer ∈ addressPeers rule ++ groupPeers agAsgMap rule ↔
      rule.ips ≠ [] ∧ peer = convertToAzureAddressPrefix rule.ips ∨
        rule.securityGroups ≠ [] ∧ peer = groupEndpoint agAsgMap rule := by
  have found : (convertToAzureApplicationSecurityGroups rule.securityGroups
      agAsgMap).isEmpty = rule.securityGroups.isEmpty := by
    cases listed : rule.securityGroups with
    | nil => rfl
    | cons group rest =>
      have known := (expressible.known group (by rw [listed]; exact List.mem_cons_self)).2
      obtain ⟨asg, found⟩ := Option.isSome_iff_exists.mp known
      simp [convertToAzureApplicationSecurityGroups, found]
  have blocks : peer ∈ addressPeers rule ↔
      rule.ips ≠ [] ∧ peer = convertToAzureAddressPrefix rule.ips := by
    rcases expressible.peer with some_ | some_ <;> simp [addressPeers, some_]
  have groups : peer ∈ groupPeers agAsgMap rule ↔
      rule.securityGroups ≠ [] ∧ peer = groupEndpoint agAsgMap rule := by
    simp only [groupPeers, found]
    by_cases none : rule.securityGroups = []
    · simp [none]
    · simp [none, groupEndpoint]
  rw [List.mem_append, blocks, groups]

/-- A part of a rule: its blocks, or its groups. -/
inductive IsPart (rule : Rule) : Rule → Prop
  | blocks (given : rule.ips ≠ []) : IsPart rule { rule with securityGroups := [] }
  | groups (given : rule.securityGroups ≠ []) : IsPart rule { rule with ips := [] }

theorem admissions_parts (rule : Rule) (admission : Admission) :
    (∃ part, IsPart rule part ∧ admission ∈ admissions part) ↔
      admission ∈ admissions rule := by
  constructor
  · rintro ⟨_, ⟨_⟩ | ⟨_⟩, member⟩
    · exact List.mem_append_left _ (by simpa [admissions] using member)
    · exact List.mem_append_right _ (by simpa [admissions] using member)
  · intro member
    rcases List.mem_append.mp member with block | group
    · refine ⟨_, .blocks fun none => ?_, List.mem_append_left _ block⟩
      simp [none] at block
    · refine ⟨_, .groups fun none => ?_, List.mem_append_right _ group⟩
      simp [none] at group

/-- Each peer of a rule is read back as one of its parts, and each part from a peer. -/
theorem read_peers (named : ∀ asg ∈ asgs, nameInID asg.id = some (toLower asg.name))
    (expressible : Expressible vnetID (getNepheControllerCreatedAsgByName asgs).1 rule)
    {protoName : SecurityRuleProtocol}
    (proto : convertToAzureProtocolName rule.protocol = .ok protoName)
    (direction : SecurityRuleDirection) (own : Endpoint) (description : String) :
    let reads (peer : Endpoint) (part : Rule) : Prop :=
      ∀ priority, convertFromAzureSecurityRule (buildSecurityRule protoName direction own peer
        (convertToAzurePortRange rule.port) description .allow priority).returned vnetID =
          some (.ok part)
    let peers := addressPeers rule ++ groupPeers (getNepheControllerCreatedAsgByName asgs).1 rule
    (∀ peer ∈ peers, ∃ part, IsPart rule part ∧ reads peer part) ∧
      ∀ part, IsPart rule part → ∃ peer ∈ peers, reads peer part := by
  intro reads peers
  have blocks (given : rule.ips ≠ []) : reads (convertToAzureAddressPrefix rule.ips)
      { rule with securityGroups := [] } := by
    have noASGs : (convertToAzureAddressPrefix rule.ips).applicationSecurityGroups = none := by
      unfold convertToAzureAddressPrefix
      split <;> rfl
    intro priority
    rw [convertFromAzureSecurityRule_build proto expressible.port _
      (convertFromAzurePrefixes_convertTo given expressible.canonical), noASGs]
    rfl
  have groups : reads (groupEndpoint (getNepheControllerCreatedAsgByName asgs).1 rule)
      { rule with ips := [] } := by
    intro priority
    rw [convertFromAzureSecurityRule_build proto expressible.port (groupEndpoint _ rule) rfl]
    simp only [groupEndpoint,
      convertFromAzureASGs_convertTo named expressible.known expressible.lower]
    rfl
  constructor
  · intro peer member
    rcases (mem_peers expressible peer).mp member with ⟨given, rfl⟩ | ⟨given, rfl⟩
    · exact ⟨_, .blocks given, blocks given⟩
    · exact ⟨_, .groups given, groups⟩
  · rintro _ (⟨given⟩ | ⟨given⟩)
    · exact ⟨_, (mem_peers expressible _).mpr (.inl ⟨given, rfl⟩), blocks given⟩
    · exact ⟨_, (mem_peers expressible _).mpr (.inr ⟨given, rfl⟩), groups⟩

end Rule

/-! ## All rules of a group -/

/-- The name of the group that a rule is attributed to. -/
def sgNameOf (rule : SecurityRule) : String :=
  (isNepheControllerCreatedSG (rule.description.getD "")).1

/-- What is read from a rule; what cannot be read counts as the rule that denies. -/
def readAs (vnetID : String) (rule : SecurityRule) : Rule :=
  ((convertFromAzureSecurityRule rule vnetID).bind Except.toOption).getD denyRuleRead

theorem readAs_eq {vnetID : String} {rule : SecurityRule} {part : Rule}
    (read : convertFromAzureSecurityRule rule vnetID = some (.ok part)) :
    readAs vnetID rule = part := by
  simp [readAs, read, Except.toOption]

theorem convertFromAzureSecurityRule_deny (direction : SecurityRuleDirection) (vnetID : String) :
    convertFromAzureSecurityRule (vnetToVnetDenyRule direction).returned vnetID =
      some (.ok denyRuleRead) := by
  cases direction <;> rfl

section Written

variable {group : CloudResourceID} {allows : SecurityRuleDirection → List SecurityRule}

/-- What is written for a group: its rules and the one that denies, for both directions. -/
def written (allows : SecurityRuleDirection → List SecurityRule) : List SecurityRule :=
  (allows .inbound ++ [vnetToVnetDenyRule .inbound]) ++
    (allows .outbound ++ [vnetToVnetDenyRule .outbound])

variable (ordinary : Ordinary group)
  (owned : ∀ direction, ∀ rule ∈ allows direction, rule.direction = direction ∧
    rule.description = some (group.getCloudName false))

include ordinary owned

/-- The rules of one direction that are attributed to a name. -/
theorem filter_written (direction : SecurityRuleDirection) (name : String) :
    (written allows).filter (fun rule => rule.direction = direction ∧ sgNameOf rule = name) =
      if name = group.name then allows direction
      else if name = appliedToSecurityGroupNamePerVnet then [vnetToVnetDenyRule direction]
      else [] := by
  have attributed (other : SecurityRuleDirection) (rule : SecurityRule)
      (member : rule ∈ allows other) : rule.direction = other ∧ sgNameOf rule = group.name := by
    obtain ⟨facing, described⟩ := owned other rule member
    rw [sgNameOf, described, Option.getD_some, group.isNephe_getCloudName_false, ordinary.lower]
    exact ⟨facing, rfl⟩
  have denies (other : SecurityRuleDirection) : (vnetToVnetDenyRule other).direction = other ∧
      sgNameOf (vnetToVnetDenyRule other) = appliedToSecurityGroupNamePerVnet := by
    cases other <;> decide
  have piece (other : SecurityRuleDirection) :
      (allows other ++ [vnetToVnetDenyRule other]).filter
          (fun rule => rule.direction = direction ∧ sgNameOf rule = name) =
        if other = direction then
          if name = group.name then allows other
          else if name = appliedToSecurityGroupNamePerVnet then [vnetToVnetDenyRule other]
          else []
        else [] := by
    have own : (allows other).filter
        (fun rule => rule.direction = direction ∧ sgNameOf rule = name) =
        if other = direction ∧ group.name = name then allows other else [] := by
      split
      next both =>
        exact List.filter_eq_self.mpr fun rule member => by
          simp [attributed other rule member, both]
      next either =>
        exact List.filter_eq_nil_iff.mpr fun rule member => by
          simpa [attributed other rule member] using either
    rw [List.filter_append, own, List.filter_singleton]
    simp only [denies other]
    by_cases same : other = direction
    · by_cases isGroup : name = group.name
      · simp [same, isGroup, ordinary.other.symm]
      · by_cases isDefault : name = appliedToSecurityGroupNamePerVnet
        · simp [same, isDefault, ordinary.other, ordinary.other.symm]
        · simp [same, isGroup, isDefault, Ne.symm isGroup, Ne.symm isDefault]
    · simp [same]
  rw [written, List.filter_append, piece, piece]
  cases direction <;> simp

/-- What is written is read back, each rule for the name that it is attributed to. -/
theorem exists_read (reads : ∀ direction, ∀ rule ∈ allows direction, ∃ part,
      convertFromAzureSecurityRule rule.returned group.vpc = some (.ok part)) :
    ∃ byGroup, convertToNepheControllerRulesByAppliedToSGName
        ((written allows).map (·.returned)) group.vpc = some byGroup ∧
      ∀ direction name, byGroup.rules direction name =
        (if name = group.name then allows direction
          else if name = appliedToSecurityGroupNamePerVnet then [vnetToVnetDenyRule direction]
          else []).map fun rule => readAs group.vpc rule.returned := by
  have each (direction : SecurityRuleDirection) (rule : SecurityRule)
      (member : rule ∈ allows direction ++ [vnetToVnetDenyRule direction]) : ∃ description,
      rule.returned.description = some description ∧
      isNepheControllerCreatedSG description = (sgNameOf rule.returned, false, true) ∧
      convertFromAzureSecurityRule rule.returned group.vpc =
        some (.ok (readAs group.vpc rule.returned)) := by
    rcases List.mem_append.mp member with allow | last
    · have described : rule.returned.description = some (group.getCloudName false) :=
        (owned direction rule allow).2
      obtain ⟨part, read⟩ := reads direction rule allow
      refine ⟨_, described, ?_, by rw [read, readAs_eq read]⟩
      rw [sgNameOf, described, Option.getD_some, group.isNephe_getCloudName_false]
    · rw [List.mem_singleton.mp last]
      have read := convertFromAzureSecurityRule_deny direction group.vpc
      refine ⟨vnetToVnetDenyRuleDescription, rfl, ?_, by rw [read, readAs_eq read]⟩
      cases direction <;> decide
  have readable : ∀ rule ∈ (written allows).map (·.returned), ∃ description,
      rule.description = some description ∧
      isNepheControllerCreatedSG description = (sgNameOf rule, false, true) ∧
      convertFromAzureSecurityRule rule group.vpc = some (.ok (readAs group.vpc rule)) := by
    intro rule member
    obtain ⟨original, listed, rfl⟩ := List.mem_map.mp member
    rcases List.mem_append.mp listed with inbound | outbound
    · exact each .inbound original inbound
    · exact each .outbound original outbound
  obtain ⟨byGroup, finished, holds⟩ := foldlM_read readable {}
  refine ⟨byGroup, finished, fun direction name => ?_⟩
  have empty : ({} : RulesByGroup).rules direction name = [] := by cases direction <;> rfl
  rw [holds, empty, List.nil_append, List.filter_map, ← filter_written ordinary owned,
    List.map_map]
  rfl

end Written

section Group

variable {group : CloudResourceID} {asgs : List ApplicationSecurityGroup}
  {rules : SecurityRuleDirection → List Rule}

/-- The rules of a group are converted, and each part of each of them is read back. -/
theorem exists_converted (rules : SecurityRuleDirection → List Rule)
    (named : ∀ asg ∈ asgs, nameInID asg.id = some (toLower asg.name))
    (own : ((getNepheControllerCreatedAsgByName asgs).2.get? (toLower group.name)).isSome)
    (direction : SecurityRuleDirection)
    (expressible : ∀ rule ∈ rules direction,
      Expressible group.vpc (getNepheControllerCreatedAsgByName asgs).1 rule) :
    ∃ allows, convertToAzureNsgSecurityRules direction group (rules direction)
        (getNepheControllerCreatedAsgByName asgs).1 (getNepheControllerCreatedAsgByName asgs).2 =
          .ok (allows ++ [vnetToVnetDenyRule direction]) ∧
      (∀ rule ∈ allows, rule.direction = direction ∧
        rule.description = some (group.getCloudName false)) ∧
      (∀ azureRule ∈ allows, ∃ rule ∈ rules direction, ∃ part, IsPart rule part ∧
        convertFromAzureSecurityRule azureRule.returned group.vpc = some (.ok part)) ∧
      ∀ rule ∈ rules direction, ∀ part, IsPart rule part → ∃ azureRule ∈ allows,
        convertFromAzureSecurityRule azureRule.returned group.vpc = some (.ok part) := by
  obtain ⟨asg, found⟩ := Option.isSome_iff_exists.mp own
  obtain ⟨allows, finished⟩ := exists_convertRules direction
    { applicationSecurityGroups := some [asg] } (group.getCloudName false)
    (fun rule => addressPeers rule ++ groupPeers (getNepheControllerCreatedAsgByName asgs).1 rule)
    ruleStartPriority fun rule member =>
      exists_protocolName_iff.mpr (expressible rule member).protocol
  obtain ⟨sources, images⟩ := mem_convertRules finished
  refine ⟨allows, ?_, ?_, ?_, ?_⟩
  · simp only [convertToAzureNsgSecurityRules, found, finished]
    rfl
  · intro azureRule member
    obtain ⟨_, _, _, _, _, _, _, rfl⟩ := sources azureRule member
    exact ⟨rfl, rfl⟩
  · intro azureRule member
    obtain ⟨rule, listed, protoName, proto, peer, isPeer, given, rfl⟩ := sources azureRule member
    obtain ⟨part, isPart, reads⟩ := (read_peers named (expressible rule listed) proto direction
      _ _).1 peer isPeer
    exact ⟨rule, listed, part, isPart, reads given⟩
  · intro rule listed part isPart
    obtain ⟨protoName, proto, made⟩ := images rule listed
    obtain ⟨peer, isPeer, reads⟩ := (read_peers named (expressible rule listed) proto direction
      _ _).2 part isPart
    obtain ⟨given, member⟩ := made peer isPeer
    exact ⟨_, member, reads given⟩

end Group

/--
The rules of an appliedTo group survive the way through an NSG: they come back with the same
meaning, and nothing else comes back except the two rules that deny.
-/
theorem azure_rules_survive (group : CloudResourceID) (asgs : List ApplicationSecurityGroup)
    (rules : SecurityRuleDirection → List Rule) (ordinary : Ordinary group)
    (named : ∀ asg ∈ asgs, nameInID asg.id = some (toLower asg.name))
    (own : ((getNepheControllerCreatedAsgByName asgs).2.get? (toLower group.name)).isSome)
    (expressible : ∀ direction, ∀ rule ∈ rules direction,
      Expressible group.vpc (getNepheControllerCreatedAsgByName asgs).1 rule) :
    Survives group asgs rules := by
  choose allows converts owned sources images using fun direction =>
    exists_converted rules named own direction (expressible direction)
  have reads (direction : SecurityRuleDirection) (rule : SecurityRule)
      (member : rule ∈ allows direction) : ∃ part,
      convertFromAzureSecurityRule rule.returned group.vpc = some (.ok part) := by
    obtain ⟨_, _, part, _, read⟩ := sources direction rule member
    exact ⟨part, read⟩
  obtain ⟨byGroup, finished, attributed⟩ := exists_read ordinary owned reads
  refine ⟨_, _, byGroup, converts .inbound, converts .outbound, finished,
    fun direction => ⟨fun admission => ?_, ?_, ?_⟩⟩
  · rw [attributed, if_pos rfl]
    constructor
    · rintro ⟨_, member, admitted⟩
      obtain ⟨azureRule, listed, rfl⟩ := List.mem_map.mp member
      obtain ⟨rule, source, part, isPart, read⟩ := sources direction azureRule listed
      rw [readAs_eq read] at admitted
      exact ⟨rule, source, (admissions_parts _ _).mp ⟨part, isPart, admitted⟩⟩
    · rintro ⟨rule, source, admitted⟩
      obtain ⟨part, isPart, admitted⟩ := (admissions_parts _ _).mpr admitted
      obtain ⟨azureRule, listed, read⟩ := images direction rule source part isPart
      refine ⟨part, List.mem_map.mpr ⟨azureRule, listed, readAs_eq read⟩, admitted⟩
  · rw [attributed, if_neg ordinary.other.symm, if_pos rfl, List.map_singleton,
      readAs_eq (convertFromAzureSecurityRule_deny direction group.vpc)]
  · intro other notGroup notDefault
    rw [attributed, if_neg notGroup, if_neg notDefault, List.map_nil]

/-- The ASGs of an appliedTo group and of an address group. -/
def roundTripAsgs : List ApplicationSecurityGroup :=
  [⟨"/subscriptions/s/resourceGroups/rg/providers/m/asgs/nephe-at-web", "nephe-at-web"⟩,
    ⟨"/subscriptions/s/resourceGroups/rg/providers/m/asgs/nephe-ag-db", "nephe-ag-db"⟩]

/-- An ingress rule with a block and a group, and an egress rule with a group. -/
def roundTripRules : SecurityRuleDirection → List Rule
  | .inbound => [⟨some 443, [⟨0x0a000000#32, 8⟩], [⟨"db", "vnet"⟩], some 6⟩]
  | .outbound => [⟨none, [], [⟨"db", "vnet"⟩], some 17⟩]

/-- Rules with a port, with a block and with groups survive. -/
theorem https_rules_survive :
    Survives ⟨"web", "vnet"⟩ roundTripAsgs roundTripRules := by
  refine azure_rules_survive ⟨"web", "vnet"⟩ roundTripAsgs roundTripRules
    ⟨by decide, by decide⟩ (by decide +kernel) (by decide +kernel) fun direction rule member => ?_
  have known : ∀ group ∈ [(⟨"db", "vnet"⟩ : CloudResourceID)], group.vpc = "vnet" ∧
      ((getNepheControllerCreatedAsgByName roundTripAsgs).1.get? (toLower group.name)).isSome := by
    decide +kernel
  cases direction with
  | inbound =>
    rw [List.mem_singleton.mp member]
    exact ⟨by simp, by simp, .inl (List.cons_ne_nil _ _),
      List.forall_mem_singleton.mpr (by decide), known, by decide⟩
  | outbound =>
    rw [List.mem_singleton.mp member]
    exact ⟨by simp, by simp, .inr (List.cons_ne_nil _ _), List.forall_mem_nil _, known, by decide⟩

end Nephe.Azure
