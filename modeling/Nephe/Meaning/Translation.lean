import Nephe.Meaning.Rules

/-!
# From policy rules to cloud rules

What an Antrea rule admits, and what the cloud rules made from it admit.  The
cloud rules keep the peers and the services apart, so they admit the product of
the two, and they admit too much exactly when one of the two has grown: blocks
lose their exceptions, a port given by name becomes port zero, and a protocol
other than TCP, UDP and SCTP becomes any protocol.
-/

namespace Nephe

open Library

/-! ## What an Antrea rule admits -/

/-- What the names in services stand for. -/
structure Resolution where
  /-- The number of a protocol other than TCP, UDP and SCTP. -/
  protocol : String → Nat
  /-- The ports with a name on the machines that the rule applies to. -/
  port : String → Int → Prop

/-- The number of a protocol. -/
def Protocol.number (resolution : Resolution) : Protocol → Nat
  | .tcp => 6
  | .udp => 17
  | .sctp => 132
  | .other name => resolution.protocol name

/-- The service is for the protocol and the port; without a protocol it is for TCP. -/
def Service.Admits (resolution : Resolution) (service : Service) (protocol : Nat)
    (port : Int) : Prop :=
  protocol = (service.protocol.getD .tcp).number resolution ∧
    match service.port with
    | none => True
    | some (.int value) => port = value ∨ ∃ last ∈ service.endPort, value ≤ port ∧ port ≤ last
    | some (.string name) => resolution.port name port

/--
The peer lists the address or the group.

A block does not list the addresses that it excepts.  An address group lists
the blocks and the security groups that are known for it.
-/
def NetworkPolicyPeer.Reaches (core : Core) (peer : NetworkPolicyPeer) : Peer → Prop
  | .address ip =>
    (∃ block ∈ peer.ipBlocks, block.cidr.contains ip = true ∧
        ∀ excepted ∈ block.except, excepted.contains ip = false) ∨
      ∃ name ∈ peer.addressGroups, ∃ sg ∈ core.groupsByName true name,
        ∃ block ∈ (core.objects sg).ipBlocks, block.contains ip = true
  | .group id =>
    ∃ name ∈ peer.addressGroups, ∃ sg ∈ core.groupsByName true name,
      (core.objects sg).id = id ∧ id.vpc ≠ ""

/-- The services admit the protocol and the port; no services stand for all. -/
def ServicesAdmit (resolution : Resolution) (services : Option (List Service)) (protocol : Nat)
    (port : Int) : Prop :=
  ∀ list ∈ services, ∃ service ∈ list, service.Admits resolution protocol port

/-- The Antrea rule admits the traffic of its direction. -/
def NetworkPolicyRule.Admits (core : Core) (resolution : Resolution) (rule : NetworkPolicyRule)
    (traffic : Traffic) : Prop :=
  rule.action.all (· == .allow) = true ∧ rule.peer.Reaches core traffic.peer ∧
    ServicesAdmit resolution rule.services traffic.protocol traffic.port

/-! ## What its cloud rules admit -/

/-- The cloud rule of a service is for the protocol and the port. -/
def Service.Fits (service : Service) (protocol : Nat) (port : Int) : Prop :=
  (∀ number ∈ service.protocol.bind antreaProtocolMap, protocol = number) ∧
    ∀ value ∈ service.port, port = value.intVal

theorem fits_forService {rule : Rule} (port : rule.port = none) (protocol : rule.protocol = none)
    (service : Service) (traffic : Traffic) :
    traffic.Fits (rule.forService service).port (rule.forService service).protocol ↔
      service.Fits traffic.protocol traffic.port := by
  rw [Traffic.Fits, Service.Fits, and_comm]
  refine and_congr ?_ ?_
  · simp only [Rule.forService, protocol]
    cases service.protocol.bind antreaProtocolMap <;> rfl
  · simp only [Rule.forService, port]
    cases service.port <;> simp

/-- The cloud rules of some services are for the protocol and the port. -/
def ServicesFit (services : Option (List Service)) (protocol : Nat) (port : Int) : Prop :=
  ∀ list ∈ services, ∃ service ∈ list, service.Fits protocol port

/-- The cloud rules of a peer list the address or the group. -/
def NetworkPolicyPeer.Lists (core : Core) (peer : NetworkPolicyPeer) : Peer → Prop
  | .address ip =>
    (∃ block ∈ peer.ipBlocks, block.cidr.contains ip = true) ∨
      ∃ name ∈ peer.addressGroups, ∃ sg ∈ core.groupsByName true name,
        ∃ block ∈ (core.objects sg).ipBlocks, block.contains ip = true
  | .group id =>
    ∃ name ∈ peer.addressGroups, ∃ sg ∈ core.groupsByName true name,
      (core.objects sg).id = id ∧ id.vpc ≠ ""

/-- The cloud rules of a peer admit the product of its peers and its services. -/
theorem admits_peerRules {core : Core} {supply : Supply} {peer : NetworkPolicyPeer}
    {services : Option (List Service)} {rules : List Rule}
    (produced : peerRules core supply peer services = some rules) (traffic : Traffic) :
    Nephe.Admits rules traffic ↔
      peer.Lists core traffic.peer ∧ ServicesFit services traffic.protocol traffic.port := by
  obtain ⟨peers, known, members⟩ := mem_peerRules produced
  have among (given : Peer) : given.Among (peerRule peer peers).ips
      (peerRule peer peers).securityGroups ↔ peer.Lists core given := by
    obtain ⟨blocks, groups⟩ := mem_addressGroupPeers known
    cases given with
    | address ip =>
      simp only [Peer.Among, peerRule, List.mem_append, List.mem_map, blocks,
        NetworkPolicyPeer.Lists]
      constructor
      · rintro ⟨_, ⟨block, member, rfl⟩ | ⟨name, inNames, sg, inGroup, inBlocks⟩, contains⟩
        · exact .inl ⟨block, member, contains⟩
        · exact .inr ⟨name, inNames, sg, inGroup, _, inBlocks, contains⟩
      · rintro (⟨block, member, contains⟩ | ⟨name, inNames, sg, inGroup, block, inBlocks, contains⟩)
        · exact ⟨_, .inl ⟨block, member, rfl⟩, contains⟩
        · exact ⟨block, .inr ⟨name, inNames, sg, inGroup, inBlocks⟩, contains⟩
    | group id => exact groups id
  constructor
  · rintro ⟨rule, member, fits, inPeers⟩
    rcases ((members rule).mp member).2 with ⟨rfl, rfl⟩ | ⟨list, rfl, service, inList, rfl⟩
    · exact ⟨(among _).mp inPeers, by rintro _ ⟨⟩⟩
    · refine ⟨(among _).mp inPeers, fun list' same => ?_⟩
      cases same
      exact ⟨service, inList, (fits_forService rfl rfl service traffic).mp fits⟩
  · rintro ⟨lists, fit⟩
    have inPeers := (among traffic.peer).mpr lists
    have present : ¬ ((peerRule peer peers).securityGroups = [] ∧
        (peerRule peer peers).ips = []) := by
      rintro ⟨noGroups, noBlocks⟩
      rw [noGroups, noBlocks] at inPeers
      cases given : traffic.peer with
      | address ip =>
        rw [given] at inPeers
        obtain ⟨_, member, _⟩ := inPeers
        cases member
      | group id =>
        rw [given] at inPeers
        cases inPeers
    cases services with
    | none =>
      exact ⟨peerRule peer peers, (members _).mpr ⟨present, .inl ⟨rfl, rfl⟩⟩,
        ⟨by rintro _ ⟨⟩, by rintro _ ⟨⟩⟩, inPeers⟩
    | some list =>
      obtain ⟨service, inList, fits⟩ := fit list rfl
      exact ⟨_, (members _).mpr ⟨present, .inr ⟨list, rfl, service, inList, rfl⟩⟩,
        (fits_forService rfl rfl service traffic).mpr fits, inPeers⟩

/-! ## When the translation admits too much -/

/-- The peer has neither a block nor a security group. -/
def NetworkPolicyPeer.Empty (core : Core) (peer : NetworkPolicyPeer) : Prop :=
  peer.ipBlocks = [] ∧ ∀ name ∈ peer.addressGroups, ∀ sg ∈ core.groupsByName true name,
    (core.objects sg).ipBlocks = [] ∧ (core.objects sg).id.vpc = ""

/-- An address that one block excepts is listed by another block or a group of the peer. -/
def NetworkPolicyPeer.ExceptionsCovered (core : Core) (peer : NetworkPolicyPeer) : Prop :=
  ∀ block ∈ peer.ipBlocks, ∀ ip, block.cidr.contains ip = true →
    (∃ excepted ∈ block.except, excepted.contains ip = true) → peer.Reaches core (.address ip)

/--
Every service is for TCP, UDP or SCTP, and if its port is given by name, then
some service is for port zero of the protocol.
-/
def ServicesNumbered (resolution : Resolution) (services : Option (List Service)) : Prop :=
  ∀ list ∈ services, ∀ service ∈ list,
    ∃ number, service.protocol.bind antreaProtocolMap = some number ∧
      ∀ name, service.port = some (.string name) →
        ∃ other ∈ list, other.Admits resolution number 0

/-- The rule gives no cloud rules, or nothing is lost in them. -/
def NetworkPolicyRule.Translatable (core : Core) (resolution : Resolution)
    (rule : NetworkPolicyRule) : Prop :=
  rule.peer.Empty core ∨ rule.services = some [] ∨
    (rule.peer.ExceptionsCovered core ∧ ServicesNumbered resolution rule.services)

section

variable {core : Core} {peer : NetworkPolicyPeer} {resolution : Resolution}
  {services : Option (List Service)}

/-- The cloud rules of a peer list something, unless the peer is empty. -/
theorem empty_iff : peer.Empty core ↔ ∀ given, ¬ peer.Lists core given := by
  constructor
  · rintro ⟨noBlocks, noGroups⟩ given lists
    cases given with
    | address ip =>
      rcases lists with ⟨block, member, _⟩ | ⟨name, inNames, sg, inGroup, block, member, _⟩
      · rw [noBlocks] at member
        cases member
      · rw [(noGroups name inNames sg inGroup).1] at member
        cases member
    | group id =>
      obtain ⟨name, inNames, sg, inGroup, rfl, vpc⟩ := lists
      exact vpc (noGroups name inNames sg inGroup).2
  · intro nothing
    refine ⟨List.eq_nil_iff_forall_not_mem.mpr fun block member => ?_,
      fun name inNames sg inGroup =>
        ⟨List.eq_nil_iff_forall_not_mem.mpr fun block member => ?_, ?_⟩⟩
    · exact nothing (.address block.cidr.ip) (.inl ⟨block, member, block.cidr.contains_self⟩)
    · exact nothing (.address block.ip)
        (.inr ⟨name, inNames, sg, inGroup, block, member, block.contains_self⟩)
    · by_contra vpc
      exact nothing (.group (core.objects sg).id) ⟨name, inNames, sg, inGroup, rfl, vpc⟩

/-- The cloud rules of a peer list too much when exceptions are not covered. -/
theorem exceptionsCovered_iff :
    peer.ExceptionsCovered core ↔ ∀ given, peer.Lists core given → peer.Reaches core given := by
  constructor
  · intro covered given lists
    cases given with
    | address ip =>
      rcases lists with ⟨block, member, contains⟩ | byGroup
      · by_cases excepted : ∃ excepted ∈ block.except, excepted.contains ip = true
        · exact covered block member ip contains excepted
        · refine .inl ⟨block, member, contains, fun other inList => ?_⟩
          by_contra inside
          exact excepted ⟨other, inList, by simpa using inside⟩
      · exact .inr byGroup
    | group id => exact lists
  · intro reaches block member ip contains _
    exact reaches (.address ip) (.inl ⟨block, member, contains⟩)

theorem Service.exists_fits (service : Service) : ∃ protocol port, service.Fits protocol port := by
  refine ⟨(service.protocol.bind antreaProtocolMap).getD 0,
    (service.port.map IntOrString.intVal).getD 0, fun number mapped => ?_, fun value given => ?_⟩
  · rw [Option.mem_def.mp mapped, Option.getD_some]
  · rw [Option.mem_def.mp given, Option.map_some, Option.getD_some]

/-- The number of a protocol in the table is the one that the table gives. -/
theorem Protocol.number_of_mapped {protocol : Protocol} {number : Nat}
    (mapped : antreaProtocolMap protocol = some number) :
    protocol.number resolution = number := by
  cases protocol with
  | other name => cases mapped
  | _ =>
    cases mapped
    rfl

/-- The cloud rules are for too much when a service is not numbered. -/
theorem servicesNumbered_iff :
    ServicesNumbered resolution services ↔
      ∀ protocol port, ServicesFit services protocol port →
        ServicesAdmit resolution services protocol port := by
  constructor
  · intro numbered protocol port fit list isList
    obtain ⟨service, inList, fits⟩ := fit list isList
    obtain ⟨number, mapped, named⟩ := numbered list isList service inList
    obtain ⟨given, isGiven, inTable⟩ := Option.bind_eq_some_iff.mp mapped
    have sameProtocol : protocol = number := fits.1 number mapped
    have own : protocol = (service.protocol.getD .tcp).number resolution := by
      rw [isGiven, Option.getD_some, Protocol.number_of_mapped inTable, sameProtocol]
    cases isPort : service.port with
    | none => exact ⟨service, inList, own, by rw [isPort]; trivial⟩
    | some value =>
      have samePort : port = value.intVal := fits.2 value isPort
      cases value with
      | int value => exact ⟨service, inList, own, by rw [isPort]; exact .inl samePort⟩
      | string name =>
        obtain ⟨other, inList, admits⟩ := named name isPort
        rw [sameProtocol, samePort]
        exact ⟨other, inList, admits⟩
  · intro admits list isList service inList
    -- A protocol that is not in the table fits any number, but some number is of no service.
    have inTable : ∃ number, service.protocol.bind antreaProtocolMap = some number := by
      by_contra outside
      have unmapped : service.protocol.bind antreaProtocolMap = none :=
        Option.eq_none_iff_forall_ne_some.mpr fun number mapped => outside ⟨number, mapped⟩
      obtain ⟨fresh, isFresh⟩ := Infinite.exists_notMem_finset
        (list.map fun service => (service.protocol.getD .tcp).number resolution).toFinset
      obtain ⟨_, port, _, fitsPort⟩ := service.exists_fits
      obtain ⟨other, inList', same, _⟩ := admits fresh port (fun list' isList' => by
        cases Option.some.inj (isList.symm.trans isList')
        refine ⟨service, inList, ?_, fitsPort⟩
        rw [unmapped]
        simp) list isList
      exact isFresh (List.mem_toFinset.mpr (List.mem_map.mpr ⟨other, inList', same.symm⟩))
    obtain ⟨number, mapped⟩ := inTable
    refine ⟨number, mapped, fun name isPort => ?_⟩
    refine admits number 0 (fun list' isList' => ?_) list isList
    cases Option.some.inj (isList.symm.trans isList')
    refine ⟨service, inList, fun other isOther => ?_, fun value isValue => ?_⟩
    · exact Option.some.inj (mapped.symm.trans isOther)
    · cases Option.some.inj (isPort.symm.trans isValue)
      rfl

/-- The cloud rules of a service list fit something, unless the list is empty. -/
theorem exists_servicesFit (some_ : services ≠ some []) :
    ∃ protocol port, ServicesFit services protocol port := by
  cases services with
  | none => exact ⟨0, 0, by rintro _ ⟨⟩⟩
  | some list =>
    cases list with
    | nil => exact absurd rfl some_
    | cons service rest =>
      obtain ⟨protocol, port, fits⟩ := service.exists_fits
      refine ⟨protocol, port, fun list isList => ?_⟩
      cases isList
      exact ⟨service, List.mem_cons_self, fits⟩

end

/-- The ingress and egress rules made from a rule admit only what the rule admits. -/
def NeverWidens (core : Core) (resolution : Resolution) (rule : NetworkPolicyRule)
    (lists : List IngressRule × List EgressRule) : Prop :=
  (∀ traffic, Nephe.Admits lists.1 traffic →
      rule.direction = .in ∧ rule.Admits core resolution traffic) ∧
    ∀ traffic, Nephe.Admits lists.2 traffic →
      rule.direction = .out ∧ rule.Admits core resolution traffic

/-- The rules of one direction decide the question, because the others are empty. -/
theorem neverWidens_iff {core : Core} {supply : Supply} {resolution : Resolution}
    {rule : NetworkPolicyRule} {lists : List IngressRule × List EgressRule}
    (ready : rule.cloudRules core supply = some lists) :
    NeverWidens core resolution rule lists ↔
      ∀ traffic : Traffic, rule.peer.Lists core traffic.peer →
        ServicesFit rule.services traffic.protocol traffic.port →
        rule.Admits core resolution traffic := by
  obtain ⟨rules, produced, inDirection⟩ := cloudRules_eq ready
  have nothing (traffic : Traffic) : ¬ Nephe.Admits [] traffic :=
    fun admits => absurd admits.choose_spec.1 List.not_mem_nil
  have product := admits_peerRules produced
  rcases inDirection with ⟨direction, rfl⟩ | ⟨direction, rfl⟩
  · constructor
    · rintro ⟨ingress, _⟩ traffic lists fit
      exact (ingress traffic ((product traffic).mpr ⟨lists, fit⟩)).2
    · refine fun only => ⟨fun traffic admits => ?_, fun traffic admits => absurd admits (nothing _)⟩
      obtain ⟨lists, fit⟩ := (product traffic).mp admits
      exact ⟨direction, only traffic lists fit⟩
  · constructor
    · rintro ⟨_, egress⟩ traffic lists fit
      exact (egress traffic ((product traffic).mpr ⟨lists, fit⟩)).2
    · refine fun only => ⟨fun traffic admits => absurd admits (nothing _), fun traffic admits => ?_⟩
      obtain ⟨lists, fit⟩ := (product traffic).mp admits
      exact ⟨direction, only traffic lists fit⟩

/-- The translation of a rule of a supported policy admits too much unless nothing is lost. -/
theorem translation_never_widens (core : Core) (supply : Supply) (resolution : Resolution)
    (anp : AntreaNetworkPolicy) (supported : Reconciler.isNetworkPolicySupported anp = true)
    (rule : NetworkPolicyRule) (member : rule ∈ anp.rules)
    (lists : List IngressRule × List EgressRule)
    (ready : rule.cloudRules core supply = some lists) :
    NeverWidens core resolution rule lists ↔ rule.Translatable core resolution := by
  have allowed : rule.action.all (· == .allow) = true := by
    unfold Reconciler.isNetworkPolicySupported at supported
    split at supported
    · cases supported
    · rw [Bool.and_eq_true] at supported
      exact List.all_eq_true.mp supported.2 rule member
  rw [neverWidens_iff ready]
  constructor
  · intro only
    by_cases empty : rule.peer.Empty core
    · exact .inl empty
    by_cases none_ : rule.services = some []
    · exact .inr (.inl none_)
    -- Some peer is listed and some service fits, so each factor can be varied alone.
    obtain ⟨given, lists⟩ : ∃ given, rule.peer.Lists core given := by
      by_contra nothing
      exact empty (empty_iff.mpr fun given lists => nothing ⟨given, lists⟩)
    obtain ⟨protocol, port, fit⟩ := exists_servicesFit none_
    refine .inr (.inr ⟨exceptionsCovered_iff.mpr fun other listed => ?_,
      servicesNumbered_iff.mpr fun protocol port fit => ?_⟩)
    · exact (only ⟨protocol, port, other⟩ listed fit).2.1
    · exact (only ⟨protocol, port, given⟩ lists fit).2.2
  · rintro translatable traffic lists fit
    rcases translatable with empty | none_ | ⟨covered, numbered⟩
    · exact absurd lists (empty_iff.mp empty _)
    · obtain ⟨_, inNone, _⟩ := fit [] (by rw [none_]; rfl)
      cases inNone
    · exact ⟨allowed, exceptionsCovered_iff.mp covered _ lists,
        servicesNumbered_iff.mp numbered _ _ fit⟩

namespace Sample

/-- A policy with one rule. -/
def policyOf (rule : NetworkPolicyRule) : AntreaNetworkPolicy where
  name := "p"
  «namespace» := "n"
  sourceRef := some ⟨.antreaNetworkPolicy, "n", "p"⟩
  rules := [rule]
  appliedToGroups := ["web"]

/-- Ingress from 10.0.0.0/8 except 10.1.0.0/16. -/
def exceptRule : NetworkPolicyRule :=
  { portRule (.int 80) with fromPeer := ⟨[], [⟨block, [⟨0x0a010000#32, 16⟩]⟩]⟩ }

/-- No port has a name, and there are no other protocols. -/
def resolution : Resolution where
  protocol _ := 0
  port _ _ := False

end Sample

/-- The translation of a rule for one port of a block admits what the rule admits. -/
theorem translation_of_port_rule_never_widens :
    NeverWidens Reconciler.setup.toCore Sample.resolution (Sample.portRule (.int 80))
      ([Sample.portCloudRule 80], []) := by
  refine (translation_never_widens _ (fun _ => 0) _ (Sample.policyOf (Sample.portRule (.int 80)))
    (by decide) _ (List.mem_singleton.mpr rfl) _ rfl).mpr (.inr (.inr ⟨?_, ?_⟩))
  · rintro block member ip _ ⟨excepted, inExcept, _⟩
    rw [List.mem_singleton.mp member] at inExcept
    cases inExcept
  · rintro list isList service inList
    cases isList
    rw [List.mem_singleton.mp inList]
    exact ⟨6, rfl, by simp⟩

/-- The cloud rule admits an address that the rule excepts. -/
theorem translation_widens_excepted_block :
    Reconciler.isNetworkPolicySupported (Sample.policyOf Sample.exceptRule) = true ∧
      Sample.exceptRule.cloudRules Reconciler.setup.toCore (fun _ => 0) =
        some ([Sample.portCloudRule 80], []) ∧
      ¬ NeverWidens Reconciler.setup.toCore Sample.resolution Sample.exceptRule
        ([Sample.portCloudRule 80], []) := by
  refine ⟨by decide, rfl, fun never => ?_⟩
  obtain ⟨_, _, reaches, _⟩ := never.1 ⟨6, 80, .address 0x0a010001#32⟩ (by decide)
  rcases reaches with ⟨block, member, _, outside⟩ | ⟨name, inNames, _⟩
  · rw [List.mem_singleton.mp member] at outside
    exact absurd (outside _ (List.mem_singleton.mpr rfl)) (by decide)
  · cases inNames

end Nephe
