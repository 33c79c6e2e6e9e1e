import Nephe.Azure.Resources
import Nephe.Library.Results
import Nephe.SecurityGroup.Cidr

/-!
# Rules of groups as rules of an NSG

The rules of all appliedTo groups of a virtual network are kept in one NSG
(`azure_nsg_rules.go`).  A rule of a group becomes up to two rules of the NSG, one
for its address blocks and one for its groups; the description of a rule says which
group it belongs to.  The converters for ingress and egress differ in which end of a
rule the group itself is.
-/

namespace Nephe.Azure

open Library

/-! ## Writing -/

def ruleStartPriority : Nat := 100
def vnetToVnetDenyRulePriority : Nat := 4096
def vnetToVnetDenyRuleDescription : String := "nephe-at-" ++ appliedToSecurityGroupNamePerVnet
def emptyPort : String := "*"
def virtualnetworkAddressPrefix : String := "VirtualNetwork"

/-- `convertToAzureProtocolName`. -/
def convertToAzureProtocolName : Option Nat → Except String SecurityRuleProtocol
  | none => .ok .asterisk
  | some 1 => .ok .icmp
  | some 6 => .ok .tcp
  | some 17 => .ok .udp
  | some protoNum => .error ("unsupported protocol number " ++ toString protoNum)

/-- `convertToAzurePortRange`. -/
def convertToAzurePortRange : Option Int → String
  | none => emptyPort
  | some port => toString port

/-- `convertToAzureAddressPrefix`: one of the two fields is set. -/
def convertToAzureAddressPrefix (ruleIPs : List IPNet) : Endpoint :=
  if ruleIPs.isEmpty then { addressPrefix := some emptyPort }
  else { addressPrefixes := some (ruleIPs.map IPNet.string) }

/-- `convertToAzureApplicationSecurityGroups`; groups without an ASG are left out. -/
def convertToAzureApplicationSecurityGroups (securityGroups : List CloudResourceID)
    (asgByNepheControllerName : GoMap String ApplicationSecurityGroup) :
    List ApplicationSecurityGroup :=
  securityGroups.filterMap fun securityGroup =>
    asgByNepheControllerName.get? (toLower securityGroup.name)

/-- The name of a rule. -/
def ruleName (priority : Nat) (direction : SecurityRuleDirection) : String :=
  toString priority ++ "-" ++ direction.string

/--
`buildSecurityRule` and `buildPeerSecurityRule`, which only differ in what they log.  The
ends are given as the group's own and its peer's.
-/
def buildSecurityRule (protoName : SecurityRuleProtocol) (direction : SecurityRuleDirection)
    (own peer : Endpoint) (dstPort description : String) (access : SecurityRuleAccess)
    (rulePriority : Nat) : SecurityRule where
  name := ruleName rulePriority direction
  protocol := protoName
  sourcePortRange := some emptyPort
  source := match direction with
    | .inbound => peer
    | .outbound => own
  destinationPortRange := some dstPort
  destination := match direction with
    | .inbound => own
    | .outbound => peer
  access := access
  priority := rulePriority
  direction := direction
  description := some description

/-- The rule that denies what no other rule allows, within the virtual network. -/
def vnetToVnetDenyRule (direction : SecurityRuleDirection) : SecurityRule :=
  buildSecurityRule .asterisk direction { addressPrefix := some virtualnetworkAddressPrefix }
    { addressPrefix := some virtualnetworkAddressPrefix } emptyPort vnetToVnetDenyRuleDescription
    .deny vnetToVnetDenyRulePriority

/-- Rules that wait for their priorities get them in order. -/
def number (rulePriority : Nat) : List (Nat → SecurityRule) → List SecurityRule
  | [] => []
  | rule :: rest => rule rulePriority :: number (rulePriority + 1) rest

/--
The loop of the four converters: every rule is converted for each of its peers, in the
order of the rules, and a protocol that is not supported ends the loop.
-/
def convertRules (direction : SecurityRuleDirection) (own : Endpoint) (description : String)
    (peers : Rule → List Endpoint) (rulePriority : Nat) :
    List Rule → Except String (List SecurityRule)
  | [] => .ok []
  | rule :: rest => do
      let protoName ← convertToAzureProtocolName rule.protocol
      let port := convertToAzurePortRange rule.port
      let here := number rulePriority ((peers rule).map fun peer =>
        buildSecurityRule protoName direction own peer port description .allow)
      let later ← convertRules direction own description peers (rulePriority + here.length) rest
      return here ++ later

/-- The part of a rule that is about addresses; without addresses and groups it means any. -/
def addressPeers (rule : Rule) : List Endpoint :=
  if !rule.ips.isEmpty || rule.securityGroups.isEmpty then
    [convertToAzureAddressPrefix rule.ips]
  else []

/-- The part of a rule that is about groups. -/
def groupPeers (agAsgMap : GoMap String ApplicationSecurityGroup) (rule : Rule) : List Endpoint :=
  let asgs := convertToAzureApplicationSecurityGroups rule.securityGroups agAsgMap
  if asgs.isEmpty then [] else [{ applicationSecurityGroups := some asgs }]

/-- The two converters for a virtual network without peers. -/
def convertToAzureNsgSecurityRules (direction : SecurityRuleDirection)
    (appliedToGroupID : CloudResourceID) (rules : List Rule)
    (agAsgMap atAsgMap : GoMap String ApplicationSecurityGroup) :
    Except String (List SecurityRule) :=
  match atAsgMap.get? (toLower appliedToGroupID.name) with
  | none => .error ("asg not found for applied to SG " ++ appliedToGroupID.name)
  | some asg => do
      let allows ← convertRules direction { applicationSecurityGroups := some [asg] }
        (appliedToGroupID.getCloudName false)
        (fun rule => addressPeers rule ++ groupPeers agAsgMap rule) ruleStartPriority rules
      return allows ++ [vnetToVnetDenyRule direction]

def convertIngressToAzureNsgSecurityRules :
    CloudResourceID → List IngressRule → GoMap String ApplicationSecurityGroup →
      GoMap String ApplicationSecurityGroup → Except String (List SecurityRule) :=
  convertToAzureNsgSecurityRules .inbound

def convertEgressToAzureNsgSecurityRules :
    CloudResourceID → List EgressRule → GoMap String ApplicationSecurityGroup →
      GoMap String ApplicationSecurityGroup → Except String (List SecurityRule) :=
  convertToAzureNsgSecurityRules .outbound

/--
The part of a rule that is about groups, in a virtual network with peers: the groups when
one of them is in the network of the appliedTo group and some ASG is found, and otherwise,
also for a rule without groups, the given address.
-/
def peeredGroupPeers (appliedToGroupID : CloudResourceID)
    (agAsgMap : GoMap String ApplicationSecurityGroup) (ruleIP : Option String) (rule : Rule) :
    List Endpoint :=
  let asgs := convertToAzureApplicationSecurityGroups rule.securityGroups agAsgMap
  if rule.securityGroups.any (fun group => group.vpc == appliedToGroupID.vpc) && !asgs.isEmpty then
    [{ applicationSecurityGroups := some asgs }]
  else [{ addressPrefix := ruleIP }]

/-- The two converters for a virtual network with peers. -/
def convertToAzurePeerNsgSecurityRules (direction : SecurityRuleDirection)
    (appliedToGroupID : CloudResourceID) (rules : List Rule)
    (agAsgMap : GoMap String ApplicationSecurityGroup) (ruleIP : Option String) :
    Except String (List SecurityRule) := do
  let allows ← convertRules direction { addressPrefix := some emptyPort }
    (appliedToGroupID.getCloudName false)
    (fun rule => addressPeers rule ++ peeredGroupPeers appliedToGroupID agAsgMap ruleIP rule)
    ruleStartPriority rules
  return allows ++ [vnetToVnetDenyRule direction]

def convertIngressToAzurePeerNsgSecurityRules :
    CloudResourceID → List IngressRule → GoMap String ApplicationSecurityGroup →
      Option String → Except String (List SecurityRule) :=
  convertToAzurePeerNsgSecurityRules .inbound

def convertEgressToAzurePeerNsgSecurityRules :
    CloudResourceID → List EgressRule → GoMap String ApplicationSecurityGroup →
      Option String → Except String (List SecurityRule) :=
  convertToAzurePeerNsgSecurityRules .outbound

/-! ## What the converters make -/

theorem length_number (priority : Nat) (rules : List (Nat → SecurityRule)) :
    (number priority rules).length = rules.length := by
  induction rules generalizing priority with
  | nil => rfl
  | cons rule rest induction => simp [number, induction]

theorem mem_number {priority : Nat} {rules : List (Nat → SecurityRule)} {rule : SecurityRule}
    (member : rule ∈ number priority rules) :
    ∃ original ∈ rules, ∃ given, rule = original given ∧ priority ≤ given ∧
      given < priority + rules.length := by
  induction rules generalizing priority with
  | nil => cases member
  | cons first rest induction =>
    rcases List.mem_cons.mp member with rfl | later
    · exact ⟨first, List.mem_cons_self, priority, rfl, le_rfl, by simp⟩
    · obtain ⟨original, listed, given, same, low, high⟩ := induction later
      refine ⟨original, List.mem_cons_of_mem _ listed, given, same, by omega, ?_⟩
      simp only [List.length_cons]
      omega

theorem mem_number_of_mem (priority : Nat) {rules : List (Nat → SecurityRule)}
    {rule : Nat → SecurityRule} (member : rule ∈ rules) :
    ∃ given, rule given ∈ number priority rules := by
  induction rules generalizing priority with
  | nil => cases member
  | cons first rest induction =>
    rcases List.mem_cons.mp member with rfl | later
    · exact ⟨priority, List.mem_cons_self⟩
    · obtain ⟨given, numbered⟩ := induction (priority + 1) later
      exact ⟨given, List.mem_cons_of_mem _ numbered⟩

section Converters

variable {direction : SecurityRuleDirection} {own : Endpoint} {description : String}
  {peers : Rule → List Endpoint}

variable {priority : Nat} {converted : List SecurityRule} {rules : List Rule}

theorem convertRules_cons {rule : Rule} {rest : List Rule} :
    convertRules direction own description peers priority (rule :: rest) = .ok converted ↔
      ∃ protoName, convertToAzureProtocolName rule.protocol = .ok protoName ∧ ∃ later,
        convertRules direction own description peers (priority + (peers rule).length) rest =
            .ok later ∧
          converted = number priority ((peers rule).map fun peer =>
            buildSecurityRule protoName direction own peer (convertToAzurePortRange rule.port)
              description .allow) ++ later := by
  simp only [convertRules, bind_eq_ok, pure_eq_ok, length_number, List.length_map,
    @eq_comm _ converted]

/-- The rules made by the loop: one for each rule and each of its peers. -/
theorem mem_convertRules
    (finished : convertRules direction own description peers priority rules = .ok converted) :
    (∀ azureRule ∈ converted, ∃ rule ∈ rules, ∃ protoName,
      convertToAzureProtocolName rule.protocol = .ok protoName ∧ ∃ peer ∈ peers rule, ∃ given,
        azureRule = buildSecurityRule protoName direction own peer
          (convertToAzurePortRange rule.port) description .allow given) ∧
    ∀ rule ∈ rules, ∃ protoName, convertToAzureProtocolName rule.protocol = .ok protoName ∧
      ∀ peer ∈ peers rule, ∃ given, buildSecurityRule protoName direction own peer
        (convertToAzurePortRange rule.port) description .allow given ∈ converted := by
  induction rules generalizing priority converted with
  | nil =>
    simp only [convertRules, Except.ok.injEq] at finished
    subst finished
    exact ⟨List.forall_mem_nil _, List.forall_mem_nil _⟩
  | cons first rest induction =>
    obtain ⟨protoName, proto, later, remaining, rfl⟩ := convertRules_cons.mp finished
    obtain ⟨sources, images⟩ := induction remaining
    constructor
    · intro azureRule member
      rcases List.mem_append.mp member with here | there
      · obtain ⟨_, listed, given, rfl, _⟩ := mem_number here
        obtain ⟨peer, isPeer, rfl⟩ := List.mem_map.mp listed
        exact ⟨first, List.mem_cons_self, protoName, proto, peer, isPeer, given, rfl⟩
      · obtain ⟨rule, listed, rest⟩ := sources azureRule there
        exact ⟨rule, List.mem_cons_of_mem _ listed, rest⟩
    · intro rule member
      rcases List.mem_cons.mp member with rfl | other
      · refine ⟨protoName, proto, fun peer isPeer => ?_⟩
        obtain ⟨given, numbered⟩ := mem_number_of_mem priority (List.mem_map_of_mem isPeer)
        exact ⟨given, List.mem_append_left _ numbered⟩
      · obtain ⟨protoName, proto, made⟩ := images rule other
        refine ⟨protoName, proto, fun peer isPeer => ?_⟩
        obtain ⟨given, numbered⟩ := made peer isPeer
        exact ⟨given, List.mem_append_right _ numbered⟩

theorem exists_protocolName_iff {protocol : Option Nat} :
    (∃ protoName, convertToAzureProtocolName protocol = .ok protoName) ↔
      protocol ∈ [none, some 1, some 6, some 17] := by
  constructor
  · rintro ⟨protoName, named⟩
    unfold convertToAzureProtocolName at named
    split at named <;> cases named <;> simp
  · intro supported
    simp only [List.mem_cons, List.not_mem_nil, or_false] at supported
    rcases supported with rfl | rfl | rfl | rfl <;> exact ⟨_, rfl⟩

/-- The loop ends well when all protocols are supported. -/
theorem exists_convertRules (direction : SecurityRuleDirection) (own : Endpoint)
    (description : String) (peers : Rule → List Endpoint) (priority : Nat)
    (supported : ∀ rule ∈ rules, ∃ protoName,
      convertToAzureProtocolName rule.protocol = .ok protoName) :
    ∃ converted, convertRules direction own description peers priority rules = .ok converted := by
  induction rules generalizing priority with
  | nil => exact ⟨[], rfl⟩
  | cons first rest induction =>
    obtain ⟨protoName, proto⟩ := supported first List.mem_cons_self
    obtain ⟨later, finished⟩ := induction (priority + (peers first).length)
      (fun rule member => supported rule (List.mem_cons_of_mem _ member))
    exact ⟨_, convertRules_cons.mpr ⟨protoName, proto, later, finished, rfl⟩⟩

end Converters

/-! ## Merging -/

/-- A rule with another priority, and the name that goes with it. -/
def SecurityRule.renumbered (rule : SecurityRule) (rulePriority : Nat) : SecurityRule :=
  { rule with name := ruleName rulePriority rule.direction, priority := rulePriority }

/-- The state of `updateSecurityRuleNameAndPriority`. -/
structure Renumbering where
  rules : List SecurityRule := []
  defaultRulesByName : GoMap String SecurityRule := ∅
  rulePriority : Nat := ruleStartPriority

/-- One turn of its loops. -/
def Renumbering.add (state : Renumbering) (rule : SecurityRule) : Renumbering :=
  if rule.priority = vnetToVnetDenyRulePriority then
    { state with defaultRulesByName := state.defaultRulesByName.set rule.name rule }
  else
    { state with
      rules := state.rules ++ [rule.renumbered state.rulePriority]
      rulePriority := state.rulePriority + 1 }

/-- `updateSecurityRuleNameAndPriority`; the code orders the loop over the default rules. -/
def updateSecurityRuleNameAndPriority (code : Nat) (existingRules newRules : List SecurityRule) :
    List SecurityRule :=
  let state := newRules.foldl Renumbering.add (existingRules.foldl Renumbering.add {})
  state.rules ++ arrange code state.defaultRulesByName.values

/-! ## Reading -/

/-- `strconv.ParseInt(s, 10, 32)`. -/
def parseInt32 (s : String) : Option Int :=
  let number (digits : List Char) : Option Nat :=
    if digits ≠ [] ∧ digits.all Char.isDigit then some (Nat.ofDigitChars 10 digits 0) else none
  match s.toList with
  | '-' :: digits => do
      let value ← number digits
      if value ≤ 2 ^ 31 then some (-(value : Int)) else none
  | '+' :: digits => do
      let value ← number digits
      if value < 2 ^ 31 then some value else none
  | digits => do
      let value ← number digits
      if value < 2 ^ 31 then some value else none

/-- `convertFromAzurePortToNepheControllerPort`. -/
def convertFromAzurePortToNepheControllerPort : Option String → Option Int
  | none => none
  | some port => if port = emptyPort then none else parseInt32 port

/--
`convertFromAzurePrefixesToNepheControllerIPs`; the list of prefixes must be there unless
the prefix means any.
-/
def convertFromAzurePrefixesToNepheControllerIPs (peer : Endpoint) : Option (List IPNet) :=
  if peer.addressPrefix = some emptyPort then some []
  else peer.addressPrefixes.map fun prefixes =>
    (peer.addressPrefix.bind parseCIDR).toList ++ prefixes.filterMap parseCIDR

/-- `convertFromAzureASGsToNepheControllerSecurityGroups`. -/
def convertFromAzureASGsToNepheControllerSecurityGroups
    (asgs : Option (List ApplicationSecurityGroup)) (vnetID : String) : List CloudResourceID :=
  (asgs.getD []).filterMap fun asg =>
    (nameInID asg.id).bind fun asgName =>
      let (sgName, isAG, _) := isNepheControllerCreatedSG asgName
      if isAG then some ⟨sgName, vnetID⟩ else none

/-- `convertFromAzureProtocolToNepheControllerProtocol`. -/
def convertFromAzureProtocolToNepheControllerProtocol :
    SecurityRuleProtocol → Except String (Option Nat)
  | .asterisk => .ok none
  | .icmp => .ok (some 1)
  | .tcp => .ok (some 6)
  | .udp => .ok (some 17)
  | .ah => .error "unsupported azure protocol Ah"
  | .esp => .error "unsupported azure protocol Esp"

/--
`convertFromAzureSecurityRuleToNepheControllerIngressRule` and its twin for egress, which
read the ports of the destination and the end that is not the group's own.  None is the end
of the program.
-/
def convertFromAzureSecurityRule (rule : SecurityRule) (vnetID : String) :
    Option (Except String Rule) :=
  (convertFromAzurePrefixesToNepheControllerIPs rule.peer).map fun ips => do
    let protoNum ← convertFromAzureProtocolToNepheControllerProtocol rule.protocol
    return {
      port := convertFromAzurePortToNepheControllerPort rule.destinationPortRange
      ips := ips
      securityGroups := convertFromAzureASGsToNepheControllerSecurityGroups
        rule.peer.applicationSecurityGroups vnetID
      protocol := protoNum }

/-- The rules of the groups by their names, for ingress and for egress. -/
structure RulesByGroup where
  ingress : GoMap String (List IngressRule) := ∅
  egress : GoMap String (List EgressRule) := ∅

/-- Append a rule to those of a group. -/
def RulesByGroup.append (sgName : String) (direction : SecurityRuleDirection) (rule : Rule)
    (byGroup : RulesByGroup) : RulesByGroup :=
  match direction with
  | .inbound => { byGroup with
      ingress := byGroup.ingress.set sgName ((byGroup.ingress.get? sgName).getD [] ++ [rule]) }
  | .outbound => { byGroup with
      egress := byGroup.egress.set sgName ((byGroup.egress.get? sgName).getD [] ++ [rule]) }

/-- One turn of the loop of `convertToNepheControllerRulesByAppliedToSGName`. -/
def RulesByGroup.read (vnetID : String) (byGroup : RulesByGroup) (rule : SecurityRule) :
    Option RulesByGroup :=
  rule.description.bind fun description =>
    let (sgName, _, isATSg) := isNepheControllerCreatedSG description
    if isATSg then
      (convertFromAzureSecurityRule rule vnetID).map fun
        | .error _ => byGroup
        | .ok converted => byGroup.append sgName rule.direction converted
    else some byGroup

/-- `convertToNepheControllerRulesByAppliedToSGName`; none is the end of the program. -/
def convertToNepheControllerRulesByAppliedToSGName (azureSecurityRules : List SecurityRule)
    (vnetID : String) : Option RulesByGroup :=
  azureSecurityRules.foldlM (RulesByGroup.read vnetID) {}

end Nephe.Azure
