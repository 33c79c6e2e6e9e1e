import Nephe.Azure.SecurityRules
import Nephe.Library.Fields

/-!
# Rules in a virtual network with peers

Azure does not accept the ASG of one virtual network in the rules of another.  For a
virtual network with peers the converters therefore put a single address, that of some
machine, in the place of groups of other networks.  What the rules they make admit is
compared here with what the given rules admit, packet by packet.
-/

namespace Nephe.Azure

open Library

/-! ## Packets and the rules of a policy -/

/--
What a packet shows to a rule: its protocol, the port it goes to, and of the other end its
address and the address groups it is a member of.
-/
structure Packet where
  protocol : Nat
  port : Int
  ip : BitVec 32
  groups : List CloudResourceID
deriving DecidableEq, Repr

namespace Packet

/-- The other end is in the group; names are compared as Azure compares them. -/
def MemberOf (packet : Packet) (group : CloudResourceID) : Prop :=
  ∃ own ∈ packet.groups, own.vpc = group.vpc ∧ toLower own.name = toLower group.name

/-- The packet has the protocol and the port of the rule, where the rule has them. -/
def Fits (packet : Packet) (rule : Rule) : Prop :=
  (∀ protocol ∈ rule.protocol, packet.protocol = protocol) ∧
    ∀ port ∈ rule.port, packet.port = port

/-- Some rule admits the packet: it fits, and the other end is in a block or in a group. -/
def AdmittedBy (packet : Packet) (rules : List Rule) : Prop :=
  ∃ rule ∈ rules, packet.Fits rule ∧
    ((∃ block ∈ rule.ips, block.contains packet.ip = true) ∨
      ∃ group ∈ rule.securityGroups, packet.MemberOf group)

instance (packet : Packet) (group : CloudResourceID) : Decidable (packet.MemberOf group) :=
  inferInstanceAs (Decidable (∃ own ∈ packet.groups, _))

instance (packet : Packet) (rule : Rule) : Decidable (packet.Fits rule) :=
  inferInstanceAs (Decidable (_ ∧ _))

instance (packet : Packet) (rules : List Rule) : Decidable (packet.AdmittedBy rules) :=
  inferInstanceAs (Decidable (∃ rule ∈ rules, _))

end Packet

/-! ## What Azure admits -/

/-- The number of a protocol; the asterisk stands for all of them. -/
def SecurityRuleProtocol.number : SecurityRuleProtocol → Option Nat
  | .ah => some 51
  | .asterisk => none
  | .esp => some 50
  | .icmp => some 1
  | .tcp => some 6
  | .udp => some 17

/-- The range is a single port, or stands for all of them. -/
def PortRangeAdmits (range : Option String) (port : Int) : Prop :=
  range = some emptyPort ∨ range = some (toString port)

/-- An address prefix is a block or a single address, or stands for all addresses. -/
def addressPrefixAdmits (addressPrefix : String) (ip : BitVec 32) : Bool :=
  addressPrefix == emptyPort ||
    match parseCIDR addressPrefix with
    | some block => block.contains ip
    | none => (parseCIDR (addressPrefix ++ "/32")).any (·.contains ip)

section Admission

variable (vnetID : String) (agAsgMap : GoMap String ApplicationSecurityGroup)

/--
The other end is in the ASG.  An ASG has the members of the address group that it was made
for, which is a group of its own virtual network.
-/
def Packet.InAsg (packet : Packet) (asg : ApplicationSecurityGroup) : Prop :=
  ∃ own ∈ packet.groups, own.vpc = vnetID ∧ agAsgMap.get? (toLower own.name) = some asg

/-- The endpoint of a rule takes in the other end of the packet. -/
def Endpoint.Admits (endpoint : Endpoint) (packet : Packet) : Prop :=
  (∃ single ∈ endpoint.addressPrefix, addressPrefixAdmits single packet.ip = true) ∨
    (∃ single ∈ endpoint.addressPrefixes.getD [], addressPrefixAdmits single packet.ip = true) ∨
    ∃ asg ∈ endpoint.applicationSecurityGroups.getD [], packet.InAsg vnetID agAsgMap asg

/-- The rule of an NSG allows the packet. -/
def SecurityRule.Admits (rule : SecurityRule) (packet : Packet) : Prop :=
  rule.access = .allow ∧ (∀ number ∈ rule.protocol.number, packet.protocol = number) ∧
    PortRangeAdmits rule.destinationPortRange packet.port ∧
    rule.peer.Admits vnetID agAsgMap packet

end Admission

/-! ## The parts of a rule -/

theorem number_convertToAzureProtocolName {protocol : Option Nat}
    {protoName : SecurityRuleProtocol}
    (supported : convertToAzureProtocolName protocol = .ok protoName) :
    protoName.number = protocol := by
  unfold convertToAzureProtocolName at supported
  split at supported <;> cases supported <;> rfl

theorem portRangeAdmits_convert (range : Option Int) (port : Int) :
    PortRangeAdmits (some (convertToAzurePortRange range)) port ↔
      ∀ value ∈ range, port = value := by
  cases range with
  | none => simp [PortRangeAdmits, convertToAzurePortRange]
  | some value =>
    have given : toString value ≠ emptyPort :=
      toString_ne_of_mem (c := '*') (by decide) (by decide) _ (by decide)
    simp only [PortRangeAdmits, convertToAzurePortRange, Option.some.injEq, given, false_or,
      Option.mem_def, forall_eq']
    exact ⟨fun same => (toString_int_inj same).symm, fun same => by rw [same]⟩

theorem addressPrefixAdmits_string (block : IPNet) (ip : BitVec 32) :
    addressPrefixAdmits block.string ip = block.contains ip := by
  have given : block.string ≠ emptyPort := by
    intro same
    have unreadable : parseCIDR emptyPort = none := by decide
    rw [← same, parseCIDR_string_mask] at unreadable
    cases unreadable
  simp [addressPrefixAdmits, given, parseCIDR_string_mask, IPNet.contains_mask]

section Parts

variable {vnetID : String} {asgs : List ApplicationSecurityGroup} {packet : Packet}

variable {agAsgMap : GoMap String ApplicationSecurityGroup}

theorem admits_addresses {ips : List IPNet} :
    (convertToAzureAddressPrefix ips).Admits vnetID agAsgMap packet ↔
      ips = [] ∨ ∃ block ∈ ips, block.contains packet.ip = true := by
  cases ips with
  | nil => simp [convertToAzureAddressPrefix, Endpoint.Admits, addressPrefixAdmits]
  | cons first rest =>
    simp [convertToAzureAddressPrefix, Endpoint.Admits, addressPrefixAdmits_string]

theorem admits_address {ruleIP : Option String} :
    Endpoint.Admits vnetID agAsgMap { addressPrefix := ruleIP } packet ↔
      ∃ single ∈ ruleIP, addressPrefixAdmits single packet.ip = true := by
  simp [Endpoint.Admits]

/-- The ASGs of groups take in the members of the groups of these names in their own network. -/
theorem admits_groups {groups : List CloudResourceID} :
    Endpoint.Admits vnetID (getNepheControllerCreatedAsgByName asgs).1
        { applicationSecurityGroups := some (convertToAzureApplicationSecurityGroups groups
          (getNepheControllerCreatedAsgByName asgs).1) } packet ↔
      ∃ group ∈ groups, ((getNepheControllerCreatedAsgByName asgs).1.get?
        (toLower group.name)).isSome ∧ packet.MemberOf ⟨group.name, vnetID⟩ := by
  have unfolded {map : GoMap String ApplicationSecurityGroup}
      {list : List ApplicationSecurityGroup} :
      Endpoint.Admits vnetID map { applicationSecurityGroups := some list } packet ↔
        ∃ asg ∈ list, packet.InAsg vnetID map asg := by
    simp [Endpoint.Admits]
  rw [unfolded]
  constructor
  · rintro ⟨asg, member, own, ofPacket, sameNetwork, ownAsg⟩
    obtain ⟨group, listed, found⟩ := List.mem_filterMap.mp member
    -- The name of an ASG says which group it was made for.
    obtain ⟨_, sgName, _, made, ownKey⟩ := mem_of_get?_ag ownAsg
    obtain ⟨_, sgName', _, made', key⟩ := mem_of_get?_ag found
    obtain ⟨rfl, _⟩ := Prod.mk.inj (made.symm.trans made')
    exact ⟨group, listed, by rw [found]; rfl, own, ofPacket, sameNetwork, ownKey.symm.trans key⟩
  · rintro ⟨group, listed, found, own, ofPacket, sameNetwork, sameName⟩
    obtain ⟨asg, found⟩ := Option.isSome_iff_exists.mp found
    exact ⟨asg, List.mem_filterMap.mpr ⟨group, listed, found⟩, own, ofPacket, sameNetwork,
      by rw [sameName]; exact found⟩

end Parts

/-! ## What is admitted beyond the rules -/

/-- The rule is converted to one about its groups: one is local, and some ASG is found. -/
def NamesGroups (appliedToGroupID : CloudResourceID)
    (agAsgMap : GoMap String ApplicationSecurityGroup) (rule : Rule) : Prop :=
  (∃ group ∈ rule.securityGroups, group.vpc = appliedToGroupID.vpc) ∧
    ∃ group ∈ rule.securityGroups, (agAsgMap.get? (toLower group.name)).isSome

/-- The other rule is at least as wide: it has no port or the same, and likewise the protocol. -/
def WiderRule (other rule : Rule) : Prop :=
  Wider other.port rule.port ∧ Wider other.protocol rule.protocol

/-- The address is in a block of a rule that is at least as wide. -/
def InWiderBlock (rules : List Rule) (rule : Rule) (ip : BitVec 32) : Prop :=
  ∃ other ∈ rules, WiderRule other rule ∧ ∃ block ∈ other.ips, block.contains ip = true

/--
The rules make up for what the converted rules admit beyond them.

For a rule without blocks and groups any address is admitted.  A rule that is converted to
ASGs admits the members of a local group that has the name of a remote group of the rule.
Any other rule admits the given address.
-/
structure Covered (appliedToGroupID : CloudResourceID)
    (agAsgMap : GoMap String ApplicationSecurityGroup) (ruleIP : Option String)
    (rules : List Rule) : Prop where
  any : ∀ rule ∈ rules, rule.ips = [] → rule.securityGroups = [] →
    ∀ ip, InWiderBlock rules rule ip
  namesakes : ∀ rule ∈ rules, NamesGroups appliedToGroupID agAsgMap rule →
    ∀ group ∈ rule.securityGroups, group.vpc ≠ appliedToGroupID.vpc →
      (agAsgMap.get? (toLower group.name)).isSome →
      (∃ other ∈ rules, WiderRule other rule ∧ ∃ own ∈ other.securityGroups,
        own.vpc = appliedToGroupID.vpc ∧ toLower own.name = toLower group.name) ∨
      ∀ ip, InWiderBlock rules rule ip
  address : ∀ rule ∈ rules, ¬NamesGroups appliedToGroupID agAsgMap rule →
    ∀ single ∈ ruleIP, ∀ ip, addressPrefixAdmits single ip = true → InWiderBlock rules rule ip

section Wider

variable {rules : List Rule} {rule : Rule} {packet : Packet}

theorem WiderRule.fits {other : Rule} (wider : WiderRule other rule) (fits : packet.Fits rule) :
    packet.Fits other :=
  ⟨wider.2.matches fits.1, wider.1.matches fits.2⟩

theorem InWiderBlock.admitted (inside : InWiderBlock rules rule packet.ip)
    (fits : packet.Fits rule) : packet.AdmittedBy rules := by
  obtain ⟨other, listed, wider, contains⟩ := inside
  exact ⟨other, listed, wider.fits fits, .inl contains⟩

/-- If the packets of a rule from one end are admitted, then the wider rules list this end. -/
theorem exists_wider {ip : BitVec 32} {groups : List CloudResourceID}
    (admitted : ∀ protocol port, Packet.Fits ⟨protocol, port, ip, groups⟩ rule →
      Packet.AdmittedBy ⟨protocol, port, ip, groups⟩ rules) :
    InWiderBlock rules rule ip ∨ ∃ other ∈ rules, WiderRule other rule ∧
      ∃ group ∈ other.securityGroups, ∃ own ∈ groups, own.vpc = group.vpc ∧
        toLower own.name = toLower group.name := by
  -- A packet with a port and a protocol that no rule has, unless the rule itself has them.
  obtain ⟨port, ofRule, tellsPort⟩ := exists_telling rule.port (rules.map Rule.port)
  obtain ⟨protocol, ofRule', tellsProtocol⟩ :=
    exists_telling rule.protocol (rules.map Rule.protocol)
  obtain ⟨other, listed, ⟨fitsProtocol, fitsPort⟩, peer⟩ :=
    admitted protocol port ⟨ofRule', ofRule⟩
  have wider : WiderRule other rule := ⟨tellsPort _ (List.mem_map_of_mem listed) fitsPort,
    tellsProtocol _ (List.mem_map_of_mem listed) fitsProtocol⟩
  rcases peer with inside | member
  · exact .inl ⟨other, listed, wider, inside⟩
  · exact .inr ⟨other, listed, wider, member⟩

/-- The packets of a rule without memberships are admitted only by blocks. -/
theorem inWiderBlock_of_admitted {ip : BitVec 32}
    (admitted : ∀ protocol port, Packet.Fits ⟨protocol, port, ip, []⟩ rule →
      Packet.AdmittedBy ⟨protocol, port, ip, []⟩ rules) : InWiderBlock rules rule ip := by
  rcases exists_wider admitted with inside | ⟨_, _, _, _, _, _, none_, _⟩
  · exact inside
  · cases none_

end Wider

section Comparison

variable {direction : SecurityRuleDirection} {appliedToGroupID : CloudResourceID}
  {rules : List Rule} {asgs : List ApplicationSecurityGroup} {ruleIP : Option String}

theorem peer_buildSecurityRule (protoName : SecurityRuleProtocol)
    (direction : SecurityRuleDirection) (own peer : Endpoint) (dstPort description : String)
    (access : SecurityRuleAccess) (priority : Nat) :
    (buildSecurityRule protoName direction own peer dstPort description access priority).peer =
      peer := by
  cases direction <;> rfl

section Peers

variable {agAsgMap : GoMap String ApplicationSecurityGroup} {rule : Rule}

theorem namesGroups_iff : NamesGroups appliedToGroupID agAsgMap rule ↔
    (rule.securityGroups.any (fun group => group.vpc == appliedToGroupID.vpc) &&
      !(convertToAzureApplicationSecurityGroups rule.securityGroups agAsgMap).isEmpty) = true := by
  simp [NamesGroups, convertToAzureApplicationSecurityGroups, Option.isSome_iff_ne_none]

theorem peeredGroupPeers_of_names (named : NamesGroups appliedToGroupID agAsgMap rule) :
    peeredGroupPeers appliedToGroupID agAsgMap ruleIP rule =
      [{ applicationSecurityGroups :=
          some (convertToAzureApplicationSecurityGroups rule.securityGroups agAsgMap) }] :=
  if_pos (namesGroups_iff.mp named)

theorem peeredGroupPeers_of_not (unnamed : ¬NamesGroups appliedToGroupID agAsgMap rule) :
    peeredGroupPeers appliedToGroupID agAsgMap ruleIP rule = [{ addressPrefix := ruleIP }] :=
  if_neg fun uses => unnamed (namesGroups_iff.mpr uses)

end Peers

/-- What the converted rules admit, in terms of the given ones. -/
theorem admits_converted {agAsgMap : GoMap String ApplicationSecurityGroup}
    {emitted : List SecurityRule}
    (converted : convertToAzurePeerNsgSecurityRules direction appliedToGroupID rules
      agAsgMap ruleIP = .ok emitted) (packet : Packet) :
    (∃ azureRule ∈ emitted, azureRule.Admits appliedToGroupID.vpc
        agAsgMap packet) ↔
      ∃ rule ∈ rules, packet.Fits rule ∧ ∃ peer ∈ addressPeers rule ++ peeredGroupPeers
          appliedToGroupID agAsgMap ruleIP rule,
        peer.Admits appliedToGroupID.vpc agAsgMap packet := by
  obtain ⟨allows, finished, rfl⟩ : ∃ allows, convertRules direction
      { addressPrefix := some emptyPort } (appliedToGroupID.getCloudName false)
      (fun rule => addressPeers rule ++ peeredGroupPeers appliedToGroupID
        agAsgMap ruleIP rule) ruleStartPriority rules =
        .ok allows ∧ allows ++ [vnetToVnetDenyRule direction] = emitted := by
    simpa only [convertToAzurePeerNsgSecurityRules, bind_eq_ok, pure_eq_ok] using converted
  obtain ⟨sources, images⟩ := mem_convertRules finished
  -- A converted rule fits the packets of the rule, and its peer is the given one.
  have admits_iff {rule : Rule} {protoName : SecurityRuleProtocol}
      (supported : convertToAzureProtocolName rule.protocol = .ok protoName) (peer : Endpoint)
      (priority : Nat) :
      (buildSecurityRule protoName direction { addressPrefix := some emptyPort } peer
        (convertToAzurePortRange rule.port) (appliedToGroupID.getCloudName false) .allow
        priority).Admits appliedToGroupID.vpc agAsgMap packet ↔
      packet.Fits rule ∧
        peer.Admits appliedToGroupID.vpc agAsgMap packet := by
    rw [SecurityRule.Admits, peer_buildSecurityRule, Packet.Fits,
      ← number_convertToAzureProtocolName supported, ← portRangeAdmits_convert, and_assoc]
    exact and_iff_right rfl
  constructor
  · rintro ⟨azureRule, member, admits⟩
    rcases List.mem_append.mp member with allowed | denied
    · obtain ⟨rule, listed, protoName, supported, peer, isPeer, priority, rfl⟩ :=
        sources azureRule allowed
      obtain ⟨fits, admits⟩ := (admits_iff supported peer priority).mp admits
      exact ⟨rule, listed, fits, peer, isPeer, admits⟩
    · cases List.mem_singleton.mp denied
      cases admits.1
  · rintro ⟨rule, listed, fits, peer, isPeer, admits⟩
    obtain ⟨protoName, supported, made⟩ := images rule listed
    obtain ⟨priority, member⟩ := made peer isPeer
    exact ⟨_, List.mem_append_left _ member, (admits_iff supported peer priority).mpr
      ⟨fits, admits⟩⟩

/-- If nothing more is admitted, then every end that is admitted beyond a rule is covered. -/
theorem covered_of_sound (sound : ∀ packet : Packet, (∃ rule ∈ rules, packet.Fits rule ∧
      ∃ peer ∈ addressPeers rule ++ peeredGroupPeers appliedToGroupID
          (getNepheControllerCreatedAsgByName asgs).1 ruleIP rule,
        peer.Admits appliedToGroupID.vpc (getNepheControllerCreatedAsgByName asgs).1 packet) →
      packet.AdmittedBy rules) :
    Covered appliedToGroupID (getNepheControllerCreatedAsgByName asgs).1 ruleIP rules := by
  refine ⟨?_, ?_, ?_⟩
  · intro rule listed noBlocks noGroups ip
    refine inWiderBlock_of_admitted fun protocol port fits => ?_
    refine sound _ ⟨rule, listed, fits, _, List.mem_append_left _ ?_,
      admits_addresses.mpr (.inl noBlocks)⟩
    simp [addressPeers, noGroups]
  · intro rule listed named group among _ found
    refine or_iff_not_imp_left.mpr fun unlisted ip => ?_
    have admitted (protocol : Nat) (port : Int)
        (fits : Packet.Fits ⟨protocol, port, ip, [⟨group.name, appliedToGroupID.vpc⟩]⟩ rule) :
        Packet.AdmittedBy ⟨protocol, port, ip, [⟨group.name, appliedToGroupID.vpc⟩]⟩ rules := by
      refine sound _ ⟨rule, listed, fits, _, List.mem_append_right _ ?_, admits_groups.mpr
        ⟨group, among, found, _, List.mem_singleton_self _, rfl, rfl⟩⟩
      rw [peeredGroupPeers_of_names named]
      exact List.mem_singleton_self _
    rcases exists_wider admitted with inside | ⟨other, inRules, wider, own, ofOther, same⟩
    · exact inside
    · obtain ⟨_, only, sameNetwork, sameName⟩ := same
      cases List.mem_singleton.mp only
      exact absurd ⟨other, inRules, wider, own, ofOther, sameNetwork.symm, sameName.symm⟩ unlisted
  · intro rule listed unnamed single given ip inside
    refine inWiderBlock_of_admitted fun protocol port fits => ?_
    refine sound _ ⟨rule, listed, fits, _, List.mem_append_right _ ?_,
      admits_address.mpr ⟨single, given, inside⟩⟩
    rw [peeredGroupPeers_of_not unnamed]
    exact List.mem_singleton_self _

theorem Covered.admitted
    (covered : Covered appliedToGroupID (getNepheControllerCreatedAsgByName asgs).1 ruleIP rules)
    {rule : Rule} (listed : rule ∈ rules) {packet : Packet} (fits : packet.Fits rule)
    {peer : Endpoint} (isPeer : peer ∈ addressPeers rule ++ peeredGroupPeers appliedToGroupID
      (getNepheControllerCreatedAsgByName asgs).1 ruleIP rule)
    (admits : peer.Admits appliedToGroupID.vpc (getNepheControllerCreatedAsgByName asgs).1
      packet) : packet.AdmittedBy rules := by
  rcases List.mem_append.mp isPeer with addresses | groups
  · obtain ⟨some_, rfl⟩ : (rule.ips ≠ [] ∨ rule.securityGroups = []) ∧
        peer = convertToAzureAddressPrefix rule.ips := by
      simpa [addressPeers] using addresses
    rcases admits_addresses.mp admits with noBlocks | inside
    · have noGroups := some_.resolve_left (not_not_intro noBlocks)
      exact (covered.any rule listed noBlocks noGroups packet.ip).admitted fits
    · exact ⟨rule, listed, fits, .inl inside⟩
  · by_cases named : NamesGroups appliedToGroupID (getNepheControllerCreatedAsgByName asgs).1 rule
    · rw [peeredGroupPeers_of_names named, List.mem_singleton] at groups
      subst groups
      obtain ⟨group, among, found, member⟩ := admits_groups.mp admits
      by_cases here : group.vpc = appliedToGroupID.vpc
      · exact ⟨rule, listed, fits, .inr ⟨group, among, by rw [← here] at member; exact member⟩⟩
      rcases covered.namesakes rule listed named group among here found with namesake | inside
      · obtain ⟨other, inRules, wider, own, ofOther, inNetwork, sameName⟩ := namesake
        obtain ⟨known, ofPacket, sameNetwork, sameName'⟩ := member
        exact ⟨other, inRules, wider.fits fits, .inr ⟨own, ofOther, known, ofPacket,
          sameNetwork.trans inNetwork.symm, sameName'.trans sameName.symm⟩⟩
      · exact (inside packet.ip).admitted fits
    · rw [peeredGroupPeers_of_not named, List.mem_singleton] at groups
      subst groups
      obtain ⟨single, given, inside⟩ := admits_address.mp admits
      exact (covered.address rule listed named single given packet.ip inside).admitted fits

/--
The converted rules admit no packet that the given rules do not admit, exactly when what
they admit beyond a rule is covered by the others.
-/
theorem peer_rules_admit_no_more (direction : SecurityRuleDirection)
    (appliedToGroupID : CloudResourceID) (rules : List Rule)
    (asgs : List ApplicationSecurityGroup) (ruleIP : Option String) (emitted : List SecurityRule)
    (converted : convertToAzurePeerNsgSecurityRules direction appliedToGroupID rules
      (getNepheControllerCreatedAsgByName asgs).1 ruleIP = .ok emitted) :
    (∀ packet : Packet,
      (∃ azureRule ∈ emitted, azureRule.Admits appliedToGroupID.vpc
        (getNepheControllerCreatedAsgByName asgs).1 packet) → packet.AdmittedBy rules) ↔
    Covered appliedToGroupID (getNepheControllerCreatedAsgByName asgs).1 ruleIP rules := by
  simp only [admits_converted converted]
  refine ⟨covered_of_sound, ?_⟩
  rintro covered packet ⟨rule, listed, fits, peer, isPeer, admits⟩
  exact covered.admitted listed fits isPeer admits

end Comparison

/-! ## Sample rules -/

/-- The rule for HTTPS, from a group or from a block. -/
def httpsFrom (ips : List IPNet) (groups : List CloudResourceID) : Rule :=
  ⟨some 443, ips, groups, some 6⟩

/-- The ASG of the address group `db`. -/
def peeredAsgs : List ApplicationSecurityGroup := [⟨"/asgs/nephe-ag-db", "nephe-ag-db"⟩]

theorem local_group_admits_no_more :
    ∃ emitted, convertIngressToAzurePeerNsgSecurityRules ⟨"web", "vnet-1"⟩
        [httpsFrom [⟨0x0a000000#32, 8⟩] [⟨"db", "vnet-1"⟩]]
        (getNepheControllerCreatedAsgByName peeredAsgs).1 (some "192.168.0.4") = .ok emitted ∧
      ∀ packet : Packet, (∃ azureRule ∈ emitted, azureRule.Admits "vnet-1"
          (getNepheControllerCreatedAsgByName peeredAsgs).1 packet) →
        packet.AdmittedBy [httpsFrom [⟨0x0a000000#32, 8⟩] [⟨"db", "vnet-1"⟩]] := by
  refine ⟨_, rfl, (peer_rules_admit_no_more .inbound ⟨"web", "vnet-1"⟩ _ peeredAsgs
    (some "192.168.0.4") _ rfl).mpr ⟨?_, ?_, ?_⟩⟩
  · simp [httpsFrom]
  · simp [httpsFrom]
  · have named : NamesGroups ⟨"web", "vnet-1"⟩ (getNepheControllerCreatedAsgByName peeredAsgs).1
        (httpsFrom [⟨0x0a000000#32, 8⟩] [⟨"db", "vnet-1"⟩]) :=
      ⟨⟨_, List.mem_singleton_self _, rfl⟩, _, List.mem_singleton_self _, by decide⟩
    simp [named]

/--
A rule about a block only is converted to two: the second one admits packets from the given
address, which is not in the block.
-/
theorem given_address_is_admitted :
    ∃ emitted, convertIngressToAzurePeerNsgSecurityRules ⟨"web", "vnet-1"⟩
        [httpsFrom [⟨0x0a000000#32, 8⟩] []] (getNepheControllerCreatedAsgByName []).1
        (some "192.168.0.4") = .ok emitted ∧
      (∃ azureRule ∈ emitted, azureRule.Admits "vnet-1" (getNepheControllerCreatedAsgByName []).1
        ⟨6, 443, 0xc0a80004#32, []⟩) ∧
      ¬Packet.AdmittedBy ⟨6, 443, 0xc0a80004#32, []⟩ [httpsFrom [⟨0x0a000000#32, 8⟩] []] := by
  obtain ⟨emitted, converted⟩ : ∃ emitted, convertToAzurePeerNsgSecurityRules .inbound
      ⟨"web", "vnet-1"⟩ [httpsFrom [⟨0x0a000000#32, 8⟩] []]
      (getNepheControllerCreatedAsgByName []).1 (some "192.168.0.4") = .ok emitted := ⟨_, rfl⟩
  refine ⟨emitted, converted, (admits_converted converted _).mpr ?_, by decide⟩
  exact ⟨_, List.mem_singleton_self _, by decide, { addressPrefix := some "192.168.0.4" },
    by decide, admits_address.mpr ⟨_, rfl, by decide⟩⟩

end Nephe.Azure
