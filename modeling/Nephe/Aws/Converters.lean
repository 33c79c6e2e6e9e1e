import Nephe.Aws.Ec2
import Nephe.SecurityGroup.Cidr

/-!
# Rules as EC2 permissions

A rule of a security group is kept in EC2 as an `ec2.IpPermission`
(`aws_converters.go`).  Writing uses the numbers of protocols and the ids of
groups; reading goes back from the names EC2 gives to some protocols, and from
the ids to the names of the groups.
-/

namespace Nephe.Aws

open Library

/-! ## Writing -/

def awsAnyProtocolValue : String := "-1"

/-- `convertToIPPermissionProtocol`. -/
def convertToIPPermissionProtocol : Option Nat → String
  | none => awsAnyProtocolValue
  | some protocol => toString protocol

/-- `convertToIPPermissionPort`; TCP and UDP want their ports spelt out. -/
def convertToIPPermissionPort (port : Option Int) (protocol : Option Nat) :
    Option Int × Option Int :=
  match port with
  | none => if protocol = some 6 ∨ protocol = some 17 then (some 0, some 65535) else (none, none)
  | some port => (some port, some port)

/-- `convertToEc2IpRanges`. -/
def convertToEc2IpRanges (ips : List IPNet) (ruleHasGroups : Bool) : List String :=
  if ips.isEmpty && !ruleHasGroups then ["0.0.0.0/0"] else ips.map IPNet.string

/-- `buildEc2UserIDGroupPairs`; a group that is missing from the map ends the program. -/
def buildEc2UserIDGroupPairs (addressGroupIdentifiers : List CloudResourceID)
    (cloudSGNameToObj : GoMap String SecurityGroup) : Option (List String) :=
  addressGroupIdentifiers.mapM fun identifier =>
    (cloudSGNameToObj.get? (identifier.getCloudName true)).map (·.groupId)

/-- The permission that `realizeIngressIPPermissions` and its twin build for a rule. -/
def ipPermissionOf (rule : Rule) (idGroupPairs : List String) : IpPermission where
  fromPort := (convertToIPPermissionPort rule.port rule.protocol).1
  toPort := (convertToIPPermissionPort rule.port rule.protocol).2
  ipProtocol := convertToIPPermissionProtocol rule.protocol
  ipRanges := convertToEc2IpRanges rule.ips !rule.securityGroups.isEmpty
  userIdGroupPairs := idGroupPairs

/-- The permission of a rule whose groups are looked up in a map. -/
def ipPermission (cloudSGNameToObj : GoMap String SecurityGroup) (rule : Rule) :
    Option IpPermission :=
  (buildEc2UserIDGroupPairs rule.securityGroups cloudSGNameToObj).map (ipPermissionOf rule)

/-! ## Reading -/

/-- `convertFromIPRange`. -/
def convertFromIPRange (ipRanges : List String) : List IPNet :=
  ipRanges.filterMap parseCIDR

/-- `convertFromSecurityGroupPair`. -/
def convertFromSecurityGroupPair (cloudGroups : List String)
    (managedSGs unmanagedSGs : GoMap String SecurityGroup) : List CloudResourceID :=
  cloudGroups.map fun groupId =>
    match unmanagedSGs.get? groupId, managedSGs.get? groupId with
    | some group, _ => ⟨group.groupName, group.vpcId⟩
    | none, some group => ⟨(isNepheControllerCreatedSG group.groupName).1, group.vpcId⟩
    | none, none => ⟨"", ""⟩

/-- `convertFromIPPermissionPort`. -/
def convertFromIPPermissionPort (startPort endPort : Option Int) : Option Int :=
  match startPort, endPort with
  | none, _ => none
  | some startPort, none => some startPort
  | some startPort, some endPort =>
    if startPort = -1 then none
    else if startPort = endPort then some startPort
    else none

/-- `ProtocolNameNumMap`. -/
def protocolNameNumMap : List (String × Nat) :=
  [("icmp", 1), ("igmp", 2), ("tcp", 6), ("udp", 17), ("icmpv6", 58)]

/-- `convertFromIPPermissionProtocol`; a name that is not in the map gives 0. -/
def convertFromIPPermissionProtocol (proto : String) : Option Nat :=
  if proto = awsAnyProtocolValue then none
  else some ((protocolNameNumMap.lookup (toLower proto)).getD 0)

/-- The loops of `convertFromIPPermissionToIngressRule` and its twin. -/
def convertFromIPPermissions (ipPermissions : List IpPermission)
    (managedSGs unmanagedSGs : GoMap String SecurityGroup) : List Rule :=
  ipPermissions.map fun ipPermission =>
    { port := convertFromIPPermissionPort ipPermission.fromPort ipPermission.toPort
      ips := convertFromIPRange ipPermission.ipRanges
      securityGroups := convertFromSecurityGroupPair ipPermission.userIdGroupPairs managedSGs
        unmanagedSGs
      protocol := convertFromIPPermissionProtocol ipPermission.ipProtocol }

/-- `convertFromIPPermissionToIngressRule`. -/
def convertFromIPPermissionToIngressRule (ipPermissions : List IpPermission)
    (managedSGs unmanagedSGs : GoMap String SecurityGroup) : List IngressRule :=
  convertFromIPPermissions ipPermissions managedSGs unmanagedSGs

/-- `convertFromIPPermissionToEgressRule`. -/
def convertFromIPPermissionToEgressRule (ipPermissions : List IpPermission)
    (managedSGs unmanagedSGs : GoMap String SecurityGroup) : List EgressRule :=
  convertFromIPPermissions ipPermissions managedSGs unmanagedSGs

/-- `getCloudSecurityGroupsByType`: the groups of the controller and the others, by their ids. -/
def getCloudSecurityGroupsByType (cloudSecurityGroups : List SecurityGroup) :
    GoMap String SecurityGroup × GoMap String SecurityGroup :=
  ((cloudSecurityGroups.filter fun group => isNepheName group.groupName).foldl
      (fun map group => map.set group.groupId group) ∅,
    (cloudSecurityGroups.filter fun group => !isNepheName group.groupName).foldl
      (fun map group => map.set group.groupId group) ∅)

/-- A protocol as EC2 returns it: four of them come back under their names. -/
def returnedProtocol (ipProtocol : String) : String :=
  if ipProtocol = "1" then "icmp"
  else if ipProtocol = "6" then "tcp"
  else if ipProtocol = "17" then "udp"
  else if ipProtocol = "58" then "icmpv6"
  else ipProtocol

/-- A permission as EC2 returns it. -/
def IpPermission.returned (permission : IpPermission) : IpPermission :=
  { permission with ipProtocol := returnedProtocol permission.ipProtocol }

/-! ## The round trip of each field -/

theorem convertFromIPRange_convertTo {ips : List IPNet} {ruleHasGroups : Bool}
    (peers : ips ≠ [] ∨ ruleHasGroups = true) (canonical : ∀ block ∈ ips, block.Canonical) :
    convertFromIPRange (convertToEc2IpRanges ips ruleHasGroups) = ips := by
  have given : (ips.isEmpty && !ruleHasGroups) = false := by
    rcases peers with some | groups
    · simp [some]
    · simp [groups]
  rw [convertToEc2IpRanges, given, if_neg Bool.false_ne_true, convertFromIPRange,
    List.filterMap_map]
  have read : ∀ block ∈ ips, (parseCIDR ∘ IPNet.string) block = some block :=
    fun block member => parseCIDR_string (canonical block member)
  rw [List.filterMap_congr read, List.filterMap_some]

theorem convertFromIPPermissionPort_convertTo {port : Option Int} (protocol : Option Nat)
    (positive : ∀ number, port = some number → 1 ≤ number) :
    convertFromIPPermissionPort (convertToIPPermissionPort port protocol).1
      (convertToIPPermissionPort port protocol).2 = port := by
  cases port with
  | none =>
    by_cases spelt : protocol = some 6 ∨ protocol = some 17
    · simp [convertToIPPermissionPort, convertFromIPPermissionPort, spelt]
    · simp [convertToIPPermissionPort, convertFromIPPermissionPort, spelt]
  | some number =>
    have bound := positive number rfl
    have other : number ≠ -1 := by omega
    simp [convertToIPPermissionPort, convertFromIPPermissionPort, other]

/-- Of the protocols the controller uses, SCTP comes back as protocol 0. -/
theorem convertFromIPPermissionProtocol_returned {protocol : Option Nat}
    (used : protocol = none ∨ protocol = some 6 ∨ protocol = some 17 ∨ protocol = some 132) :
    convertFromIPPermissionProtocol (returnedProtocol (convertToIPPermissionProtocol protocol)) =
      if protocol = some 132 then some 0 else protocol := by
  rcases used with rfl | rfl | rfl | rfl <;> decide

variable {directory : Directory} {cloudSGNameToObj : GoMap String SecurityGroup}

/-- A managed group is found under its id, and only among the managed ones. -/
theorem get?_byType {group : SecurityGroup} (member : group ∈ directory.groups)
    (nephe : isNepheName group.groupName = true) :
    (getCloudSecurityGroupsByType directory.groups).1.get? group.groupId = some group ∧
      (getCloudSecurityGroupsByType directory.groups).2.get? group.groupId = none := by
  constructor
  · have managed : group ∈ directory.groups.filter fun group => isNepheName group.groupName :=
      List.mem_filter.mpr ⟨member, nephe⟩
    obtain ⟨other, listed, same, found⟩ := GoMap.get?_foldl_set_of_mem
      (fun group : SecurityGroup => group.groupId) (fun group => group)
      (List.mem_map_of_mem managed)
    rw [Directory.eq_of_groupId (List.mem_filter.mp listed).1 member same] at found
    exact found
  · refine (GoMap.get?_foldl_set_of_not_mem (fun group : SecurityGroup => group.groupId)
      (fun group => group) ?_).trans rfl
    intro there
    obtain ⟨other, listed, same⟩ := List.mem_map.mp there
    obtain ⟨member', foreign⟩ := List.mem_filter.mp listed
    rw [Directory.eq_of_groupId member' member same, nephe] at foreign
    cases foreign

/-- The map leads from the names of address groups to the groups of their VPCs. -/
def Resolves (directory : Directory) (cloudSGNameToObj : GoMap String SecurityGroup)
    (identifier : CloudResourceID) : Prop :=
  ∃ group ∈ directory.groups,
    cloudSGNameToObj.get? (identifier.getCloudName true) = some group ∧
    group.groupName = identifier.getCloudName true ∧ group.vpcId = identifier.vpc

theorem convertFromSecurityGroupPair_build {identifiers : List CloudResourceID}
    (resolves : ∀ identifier ∈ identifiers, Resolves directory cloudSGNameToObj identifier)
    (lower : ∀ identifier ∈ identifiers, toLower identifier.name = identifier.name) :
    ∃ pairs, buildEc2UserIDGroupPairs identifiers cloudSGNameToObj = some pairs ∧
      convertFromSecurityGroupPair pairs (getCloudSecurityGroupsByType directory.groups).1
        (getCloudSecurityGroupsByType directory.groups).2 = identifiers := by
  induction identifiers with
  | nil => exact ⟨[], rfl, rfl⟩
  | cons identifier rest induction =>
    obtain ⟨pairs, built, read⟩ := induction
      (fun other member => resolves other (List.mem_cons_of_mem _ member))
      (fun other member => lower other (List.mem_cons_of_mem _ member))
    obtain ⟨group, member, found, named, vpc⟩ := resolves identifier List.mem_cons_self
    have nephe : isNepheName group.groupName = true := by
      rw [named, CloudResourceID.isNephe_getCloudName]
    obtain ⟨managed, unmanaged⟩ := get?_byType member nephe
    refine ⟨group.groupId :: pairs, ?_, ?_⟩
    · unfold buildEc2UserIDGroupPairs at built ⊢
      rw [List.mapM_cons, found, built]
      rfl
    · have name : (isNepheControllerCreatedSG group.groupName).1 = identifier.name := by
        rw [named, CloudResourceID.isNephe_getCloudName_true, lower identifier List.mem_cons_self]
      unfold convertFromSecurityGroupPair at read ⊢
      rw [List.map_cons, read, managed, unmanaged]
      simp only [name, vpc]

/-! ## The round trip of a rule -/

/-- The rules the controller emits. -/
structure Emitted (rule : Rule) : Prop where
  protocol : rule.protocol = none ∨ rule.protocol = some 6 ∨ rule.protocol = some 17 ∨
    rule.protocol = some 132
  port : ∀ number, rule.port = some number →
    1 ≤ number ∧ number ≤ 65535 ∧ rule.protocol.isSome = true
  peers : rule.ips ≠ [] ∨ rule.securityGroups ≠ []
  blocks : ∀ block ∈ rule.ips, block.Canonical
  names : ∀ identifier ∈ rule.securityGroups, toLower identifier.name = identifier.name

theorem convertFromIPPermissions_returned {rule : Rule} (emitted : Emitted rule)
    (resolves : ∀ identifier ∈ rule.securityGroups,
      Resolves directory cloudSGNameToObj identifier) :
    ∃ permission, ipPermission cloudSGNameToObj rule = some permission ∧
      convertFromIPPermissions [permission.returned]
          (getCloudSecurityGroupsByType directory.groups).1
          (getCloudSecurityGroupsByType directory.groups).2 =
        [{ rule with protocol := if rule.protocol = some 132 then some 0 else rule.protocol }] := by
  obtain ⟨pairs, built, read⟩ := convertFromSecurityGroupPair_build resolves emitted.names
  have peers : rule.ips ≠ [] ∨ (!rule.securityGroups.isEmpty) = true := by
    simpa using emitted.peers
  refine ⟨_, by rw [ipPermission, built]; rfl, ?_⟩
  simp only [convertFromIPPermissions, List.map_cons, List.map_nil, IpPermission.returned,
    ipPermissionOf, convertFromIPPermissionProtocol_returned emitted.protocol,
    convertFromIPRange_convertTo peers emitted.blocks, read,
    convertFromIPPermissionPort_convertTo rule.protocol fun number given =>
      (emitted.port number given).1]

/--
An emitted rule, of either direction, comes back from EC2 as it was written
exactly when its protocol is not SCTP.
-/
theorem rules_survive_the_round_trip {rule : Rule} (emitted : Emitted rule)
    {directory : Directory} {cloudSGNameToObj : GoMap String SecurityGroup}
    (resolves : ∀ identifier ∈ rule.securityGroups,
      Resolves directory cloudSGNameToObj identifier) :
    (∃ permission, ipPermission cloudSGNameToObj rule = some permission ∧
      convertFromIPPermissionToIngressRule [permission.returned]
        (getCloudSecurityGroupsByType directory.groups).1
        (getCloudSecurityGroupsByType directory.groups).2 = [rule] ∧
      convertFromIPPermissionToEgressRule [permission.returned]
        (getCloudSecurityGroupsByType directory.groups).1
        (getCloudSecurityGroupsByType directory.groups).2 = [rule]) ↔
      rule.protocol ≠ some 132 := by
  obtain ⟨permission, written, read⟩ := convertFromIPPermissions_returned emitted resolves
  constructor
  · rintro ⟨permission', written', ingress, -⟩ sctp
    cases written.symm.trans written'
    have changed := congrArg (List.map Rule.protocol) (read.symm.trans ingress)
    simp [sctp] at changed
  · intro other
    rw [if_neg other] at read
    exact ⟨permission, written, read, read⟩

/-- A rule for SCTP traffic from one block. -/
def sctpRule : Rule := ⟨some 5000, [⟨0x0a000000#32, 8⟩], [], some 132⟩

theorem sctp_rule_comes_back_as_protocol_zero :
    Emitted sctpRule ∧ ∃ permission, ipPermission ∅ sctpRule = some permission ∧
      convertFromIPPermissionToIngressRule [permission.returned] ∅ ∅ =
        [{ sctpRule with protocol := some 0 }] ∧
      convertFromIPPermissionToEgressRule [permission.returned] ∅ ∅ =
        [{ sctpRule with protocol := some 0 }] := by
  refine ⟨⟨by decide, fun number given => ?_, by decide, by decide, by decide⟩,
    ⟨some 5000, some 5000, "132", ["10.0.0.0/8"], []⟩, by decide, by decide, by decide⟩
  cases given
  decide

/-- A rule for TCP traffic from one block and one address group. -/
def tcpRule : Rule := ⟨none, [⟨0x0a000000#32, 8⟩], [⟨"db", "vpc-1"⟩], some 6⟩

/-- The address group of the rule. -/
def dbGroup : SecurityGroup := ⟨"sg-2", "nephe-ag-db", "vpc-1", [], []⟩

theorem tcp_rule_survives_the_round_trip :
    ∃ permission,
      ipPermission ((∅ : GoMap String SecurityGroup).set "nephe-ag-db" dbGroup) tcpRule =
        some permission ∧
      convertFromIPPermissionToIngressRule [permission.returned]
        (getCloudSecurityGroupsByType [dbGroup]).1
        (getCloudSecurityGroupsByType [dbGroup]).2 = [tcpRule] := by
  have emitted : Emitted tcpRule := ⟨by decide, by rintro _ ⟨⟩, by decide, by decide, by decide⟩
  have resolves : ∀ identifier ∈ tcpRule.securityGroups,
      Resolves ⟨[dbGroup], by decide, by decide⟩
        ((∅ : GoMap String SecurityGroup).set "nephe-ag-db" dbGroup) identifier := by
    intro identifier member
    rw [List.mem_singleton.mp member]
    exact ⟨dbGroup, by decide, by decide, by decide, by decide⟩
  obtain ⟨permission, written, ingress, -⟩ :=
    (rules_survive_the_round_trip emitted resolves).mpr (by decide)
  exact ⟨permission, written, ingress⟩

end Nephe.Aws
