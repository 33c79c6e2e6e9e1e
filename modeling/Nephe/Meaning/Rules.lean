import Nephe.SecurityGroup.Blocks
import Nephe.SecurityGroup.Names
import Nephe.Controller.Policies
import Nephe.Library.Fields

/-!
# What rules admit

A rule of a cloud security group admits traffic by its protocol, its port and
its peer, which is an address or a security group.  An absent protocol or port
stands for all of them.

Merging the rules of several policies keeps what they admit, as long as no rule
has a port that the merging takes for an absent one.
-/

namespace Nephe

open Library

/-! ## Traffic -/

/-- The other end of a connection: an address, or a member of a security group. -/
inductive Peer where
  | address (ip : BitVec 32)
  | group (id : CloudResourceID)
deriving DecidableEq, Repr

/-- What a rule decides about. -/
structure Traffic where
  protocol : Nat
  port : Int
  peer : Peer
deriving DecidableEq, Repr

/-- The peer is in one of the blocks, or is one of the groups. -/
def Peer.Among (ips : List IPNet) (groups : List CloudResourceID) : Peer → Prop
  | .address ip => ∃ block ∈ ips, block.contains ip = true
  | .group id => id ∈ groups

instance (ips : List IPNet) (groups : List CloudResourceID) :
    DecidablePred (Peer.Among ips groups)
  | .address _ => inferInstanceAs (Decidable (∃ block ∈ ips, _))
  | .group _ => inferInstanceAs (Decidable (_ ∈ groups))

/-- The traffic has the protocol and the port, if there are any. -/
def Traffic.Fits (traffic : Traffic) (port : Option Int) (protocol : Option Nat) : Prop :=
  (∀ value ∈ port, traffic.port = value) ∧ ∀ value ∈ protocol, traffic.protocol = value

instance (traffic : Traffic) (port : Option Int) (protocol : Option Nat) :
    Decidable (traffic.Fits port protocol) :=
  inferInstanceAs (Decidable (_ ∧ _))

/-- The rule admits the traffic. -/
def Rule.Admits (rule : Rule) (traffic : Traffic) : Prop :=
  traffic.Fits rule.port rule.protocol ∧ traffic.peer.Among rule.ips rule.securityGroups

instance (rule : Rule) (traffic : Traffic) : Decidable (rule.Admits traffic) :=
  inferInstanceAs (Decidable (_ ∧ _))

/-- Some rule of the list admits the traffic. -/
def Admits (rules : List Rule) (traffic : Traffic) : Prop :=
  ∃ rule ∈ rules, rule.Admits traffic

instance (rules : List Rule) (traffic : Traffic) : Decidable (Admits rules traffic) :=
  inferInstanceAs (Decidable (∃ rule ∈ rules, _))

/-! ## Security groups -/

/-- The loop of `deduplicateSG` keeps one group for every text. -/
theorem deduplicateSG_loop (list seen : List CloudResourceID) (existing : GoMap String Unit)
    (distinct : (seen.map CloudResourceID.string).Nodup)
    (stored : ∀ text, (existing.get? text).isSome = true ↔ ∃ id ∈ seen, id.string = text) :
    let output := (list.foldl
      (fun (state : List CloudResourceID × GoMap String Unit) sg =>
        if (state.2.get? sg.string).isSome then state
        else (state.1 ++ [sg], state.2.set sg.string ())) (seen, existing)).1
    (∀ id, id ∈ seen ∨ id ∈ list → ∃ kept ∈ output, kept.string = id.string) ∧
      (output.map CloudResourceID.string).Nodup ∧
      (((seen ++ list).map CloudResourceID.string).Nodup → output = seen ++ list) := by
  induction list generalizing seen existing with
  | nil =>
    exact ⟨fun id member => ⟨id, member.resolve_right List.not_mem_nil, rfl⟩, distinct,
      fun _ => by simp⟩
  | cons head tail induction =>
    simp only [List.foldl_cons]
    by_cases old : (existing.get? head.string).isSome = true
    · obtain ⟨covers, distinct', unchanged⟩ := induction seen existing distinct stored
      rw [if_pos old]
      obtain ⟨earlier, inSeen, sameText⟩ := (stored head.string).mp old
      refine ⟨fun id member => ?_, distinct', fun nodup => ?_⟩
      · rcases member with inSeen' | inList
        · exact covers id (.inl inSeen')
        · rcases List.mem_cons.mp inList with rfl | inTail
          · obtain ⟨kept, inOutput, same⟩ := covers earlier (.inl inSeen)
            exact ⟨kept, inOutput, same.trans sameText⟩
          · exact covers id (.inr inTail)
      · rw [List.map_append, List.map_cons] at nodup
        exact absurd sameText ((List.nodup_append.mp nodup).2.2 _
          (List.mem_map_of_mem inSeen) _ List.mem_cons_self)
    · rw [if_neg old]
      have fresh : head.string ∉ seen.map CloudResourceID.string := by
        intro inTexts
        obtain ⟨id, inSeen, sameText⟩ := List.mem_map.mp inTexts
        exact old ((stored head.string).mpr ⟨id, inSeen, sameText⟩)
      obtain ⟨covers, distinct', unchanged⟩ := induction (seen ++ [head])
        (existing.set head.string ())
        (by
          rw [List.map_append, List.map_singleton, ← List.concat_eq_append]
          exact (List.nodup_concat _ _).mpr ⟨fresh, distinct⟩)
        (fun text => by
          rw [GoMap.get?_set]
          split
          next same => simp [same]
          next other =>
            rw [stored text]
            have other : head.string ≠ text := fun same => other same.symm
            simp [List.mem_append, or_and_right, exists_or, other])
      refine ⟨fun id member => covers id ?_, distinct', fun nodup => ?_⟩
      · rcases member with inSeen | inList
        · exact .inl (List.mem_append_left _ inSeen)
        · rcases List.mem_cons.mp inList with rfl | inTail
          · exact .inl (List.mem_append_right _ (List.mem_singleton.mpr rfl))
          · exact .inr inTail
      · rw [unchanged (by simpa using nodup)]
        simp

variable {inputSG : List CloudResourceID} {rules : List Rule} {key : DeduplicateKey} {rule : Rule}
  {supply : Supply} {core : Core}

theorem exists_deduplicateSG {id : CloudResourceID} (member : id ∈ inputSG) :
    ∃ kept ∈ deduplicateSG inputSG, kept.string = id.string :=
  (deduplicateSG_loop inputSG [] ∅ List.nodup_nil (fun text => by simp)).1 id (.inr member)

theorem nodup_deduplicateSG (inputSG : List CloudResourceID) :
    ((deduplicateSG inputSG).map CloudResourceID.string).Nodup :=
  (deduplicateSG_loop inputSG [] ∅ List.nodup_nil (fun text => by simp)).2.1

theorem deduplicateSG_of_nodup (distinct : (inputSG.map CloudResourceID.string).Nodup) :
    deduplicateSG inputSG = inputSG :=
  (deduplicateSG_loop inputSG [] ∅ List.nodup_nil (fun text => by simp)).2.2 distinct

/-- Groups that their texts tell apart are all kept. -/
theorem mem_deduplicateSG_iff
    (told : ∀ id ∈ inputSG, ∀ id' ∈ inputSG, id.string = id'.string → id = id')
    (id : CloudResourceID) : id ∈ deduplicateSG inputSG ↔ id ∈ inputSG := by
  refine ⟨mem_deduplicateSG, fun member => ?_⟩
  obtain ⟨kept, inOutput, sameText⟩ := exists_deduplicateSG member
  rw [← told kept (mem_deduplicateSG inOutput) id member sameText]
  exact inOutput

/-! ## Merged rules -/

/-- The rules that are merged under a key. -/
def rulesOf (rules : List Rule) (key : DeduplicateKey) : List Rule :=
  rules.filter fun rule => rule.deduplicateKey = key

theorem mem_rulesOf : rule ∈ rulesOf rules key ↔ rule ∈ rules ∧ rule.deduplicateKey = key := by
  simp [rulesOf]

/-- The two maps of the first loop hold the blocks and the groups of every key. -/
theorem get?_collectByKey (rules : List Rule) (key : DeduplicateKey) :
    (collectByKey rules).1.get? key =
        (if rulesOf rules key = [] then none else some ((rulesOf rules key).flatMap Rule.ips)) ∧
      (collectByKey rules).2.get? key =
        (if rulesOf rules key = [] then none
          else some ((rulesOf rules key).flatMap Rule.securityGroups)) := by
  induction rules using List.reverseRecOn with
  | nil => exact ⟨rfl, rfl⟩
  | append_singleton rules rule induction =>
    have last : collectByKey (rules ++ [rule]) =
        ((collectByKey rules).1.set rule.deduplicateKey
            (((collectByKey rules).1.get? rule.deduplicateKey).getD [] ++ rule.ips),
          (collectByKey rules).2.set rule.deduplicateKey
            (((collectByKey rules).2.get? rule.deduplicateKey).getD [] ++
              rule.securityGroups)) := by
      simp only [collectByKey, List.foldl_append, List.foldl_cons, List.foldl_nil]
    rw [last, GoMap.get?_set, GoMap.get?_set]
    by_cases same : key = rule.deduplicateKey
    · subst same
      have more : rulesOf (rules ++ [rule]) rule.deduplicateKey =
          rulesOf rules rule.deduplicateKey ++ [rule] := by simp [rulesOf]
      rw [induction.1, induction.2, more]
      by_cases empty : rulesOf rules rule.deduplicateKey = []
      · simp [empty]
      · simp [empty]
    · have others : rulesOf (rules ++ [rule]) key = rulesOf rules key := by
        have different : rule.deduplicateKey ≠ key := fun equal => same equal.symm
        simp [rulesOf, different]
      rw [if_neg same, if_neg same, others]
      exact induction

/-- The port and the protocol that a key stands for. -/
def DeduplicateKey.decode (key : DeduplicateKey) : Option Int × Option Nat :=
  (if key.port = 0 then none else some key.port,
    if key.protocol = 0 then none else some key.protocol)

theorem DeduplicateKey.decode_injective : Function.Injective DeduplicateKey.decode := by
  rintro ⟨port, protocol⟩ ⟨port', protocol'⟩ same
  simp only [decode, Prod.mk.injEq] at same
  obtain ⟨samePort, sameProtocol⟩ := same
  congr 1
  · split at samePort <;> split at samePort <;> simp_all
  · split at sameProtocol <;> split at sameProtocol <;> simp_all

/-- The rule is the result of merging the rules with the key. -/
structure MergedRule (rules : List Rule) (key : DeduplicateKey) (rule : Rule) : Prop where
  present : rulesOf rules key ≠ []
  decoded : (rule.port, rule.protocol) = key.decode
  ips : ∃ code, rule.ips = deduplicateIP code ((rulesOf rules key).flatMap Rule.ips)
  groups : rule.securityGroups =
    deduplicateSG ((rulesOf rules key).flatMap Rule.securityGroups)

/-- The merged rule of a key, with the order of its address blocks. -/
def mergeRules (rules : List Rule) (key : DeduplicateKey) (code : Nat) : Rule where
  port := key.decode.1
  ips := deduplicateIP code ((rulesOf rules key).flatMap Rule.ips)
  securityGroups := deduplicateSG ((rulesOf rules key).flatMap Rule.securityGroups)
  protocol := key.decode.2

theorem mergedRule_mergeRules (present : rulesOf rules key ≠ []) (code : Nat) :
    MergedRule rules key (mergeRules rules key code) :=
  ⟨present, rfl, ⟨code, rfl⟩, rfl⟩

/-- The keys in the order in which their rules are returned. -/
def mergedKeys (supply : Supply) (rules : List Rule) : List DeduplicateKey :=
  (arrange (supply 0) (collectByKey rules).1.bindings).map (·.1)

theorem mem_mergedKeys : key ∈ mergedKeys supply rules ↔ rulesOf rules key ≠ [] := by
  simp only [mergedKeys, List.mem_map, mem_arrange, Prod.exists, GoMap.mem_bindings,
    exists_and_right, exists_eq_right, (get?_collectByKey rules _).1]
  by_cases empty : rulesOf rules key = [] <;> simp [empty]

theorem nodup_mergedKeys (supply : Supply) (rules : List Rule) :
    (mergedKeys supply rules).Nodup :=
  ((arrange_perm _ _).map _).nodup_iff.mpr (GoMap.nodup_bindings _)

/-- The rules that merging returns, one for each key. -/
theorem deduplicateRules_eq (supply : Supply) (rules : List Rule) :
    deduplicateRules supply rules =
      (mergedKeys supply rules).mapIdx fun position key =>
        mergeRules rules key (supply (position + 1)) := by
  refine List.ext_getElem (by simp [deduplicateRules, mergedKeys]) fun position bound _ => ?_
  have bound : position < (arrange (supply 0) (collectByKey rules).1.bindings).length := by
    simpa [deduplicateRules] using bound
  simp only [deduplicateRules, mergedKeys, List.getElem_mapIdx, List.getElem_map]
  have member : (arrange (supply 0) (collectByKey rules).1.bindings)[position] ∈
      (collectByKey rules).1.bindings := (mem_arrange _ _ _).mp (List.getElem_mem bound)
  generalize (arrange (supply 0) (collectByKey rules).1.bindings)[position] = entry at member ⊢
  obtain ⟨key, ips⟩ := entry
  have found := (GoMap.mem_bindings _ key ips).mp member
  rw [(get?_collectByKey rules key).1] at found
  split at found
  next => cases found
  next present =>
    cases found
    simp only [(get?_collectByKey rules key).2, if_neg present, Option.getD_some]
    rfl

theorem mem_deduplicateRules (member : rule ∈ deduplicateRules supply rules) :
    ∃ key, MergedRule rules key rule := by
  rw [deduplicateRules_eq, List.mem_mapIdx] at member
  obtain ⟨position, bound, rfl⟩ := member
  exact ⟨_, mergedRule_mergeRules (mem_mergedKeys.mp (List.getElem_mem bound)) _⟩

theorem exists_deduplicateRules (present : rulesOf rules key ≠ []) :
    ∃ rule ∈ deduplicateRules supply rules, MergedRule rules key rule := by
  have member : key ∈ mergedKeys supply rules := mem_mergedKeys.mpr present
  obtain ⟨position, bound, here⟩ := List.getElem_of_mem member
  refine ⟨mergeRules rules key (supply (position + 1)), ?_, mergedRule_mergeRules present _⟩
  rw [deduplicateRules_eq, List.mem_mapIdx]
  exact ⟨position, bound, by rw [here]⟩

/-! ## The rules of a policy rule -/

/-- What the address groups of a peer contribute. -/
theorem mem_addressGroupPeers {names : List String} {peers : List IPNet × List CloudResourceID}
    (known : addressGroupPeers core supply names = some peers) :
    (∀ block, block ∈ peers.1 ↔
        ∃ name ∈ names, ∃ sg ∈ core.groupsByName true name, block ∈ (core.objects sg).ipBlocks) ∧
      ∀ id, id ∈ peers.2 ↔
        ∃ name ∈ names, ∃ sg ∈ core.groupsByName true name,
          (core.objects sg).id = id ∧ id.vpc ≠ "" := by
  induction names generalizing supply peers with
  | nil =>
    cases known
    simp
  | cons name rest induction =>
    simp only [addressGroupPeers] at known
    split at known
    next => cases known
    next =>
      obtain ⟨others, knownRest, rfl⟩ := Option.map_eq_some_iff.mp known
      obtain ⟨blocks, groups⟩ := induction knownRest
      refine ⟨fun block => ?_, fun id => ?_⟩
      · simp only [List.mem_append, List.mem_flatMap, mem_arrange, blocks block, List.mem_cons,
          exists_eq_or_imp]
      · simp only [List.mem_append, List.mem_filter, List.mem_map, mem_arrange, groups id,
          decide_eq_true_eq, List.mem_cons, exists_eq_or_imp]
        refine or_congr_left ⟨?_, ?_⟩
        · rintro ⟨⟨sg, there, same⟩, vpc⟩
          exact ⟨sg, there, same, vpc⟩
        · rintro ⟨sg, there, same, vpc⟩
          exact ⟨⟨sg, there, same⟩, vpc⟩

/-- The rule without a service from which the rules of a peer are made. -/
def peerRule (peer : NetworkPolicyPeer) (peers : List IPNet × List CloudResourceID) : Rule where
  port := none
  ips := peer.ipBlocks.map IPBlock.cidr ++ peers.1
  securityGroups := peers.2
  protocol := none

/-- A rule of a peer is its rule without a service, or the copy for a service. -/
theorem mem_peerRules {peer : NetworkPolicyPeer} {services : Option (List Service)}
    (produced : peerRules core supply peer services = some rules) :
    ∃ peers, addressGroupPeers core supply peer.addressGroups = some peers ∧
      ∀ rule, rule ∈ rules ↔
        ¬ ((peerRule peer peers).securityGroups = [] ∧ (peerRule peer peers).ips = []) ∧
          ((services = none ∧ rule = peerRule peer peers) ∨
            ∃ list, services = some list ∧ ∃ service ∈ list,
              rule = (peerRule peer peers).forService service) := by
  obtain ⟨peers, known, rfl⟩ := Option.map_eq_some_iff.mp produced
  refine ⟨peers, known, fun rule => ?_⟩
  simp only
  split
  next empty => simp [peerRule, empty]
  next present =>
    cases services with
    | none =>
      have present : ¬ ((peerRule peer peers).securityGroups = [] ∧
        (peerRule peer peers).ips = []) := present
      simp only [present, not_false_eq_true, List.mem_singleton, true_and, reduceCtorEq,
        false_and, exists_false, or_false]
      rfl
    | some list =>
      constructor
      · intro member
        obtain ⟨service, inList, rfl⟩ := List.mem_map.mp member
        exact ⟨present, .inr ⟨list, rfl, service, inList, rfl⟩⟩
      · rintro ⟨_, ⟨absent, _⟩ | ⟨_, same, service, inList, rfl⟩⟩
        · cases absent
        · cases same
          exact List.mem_map.mpr ⟨service, inList, rfl⟩

/-- The peer of a rule that its direction selects. -/
def NetworkPolicyRule.peer (rule : NetworkPolicyRule) : NetworkPolicyPeer :=
  match rule.direction with
  | .in => rule.fromPeer
  | .out => rule.toPeer

/-- All rules of a policy rule are in its direction. -/
theorem cloudRules_eq {rule : NetworkPolicyRule} {lists : List IngressRule × List EgressRule}
    (produced : rule.cloudRules core supply = some lists) :
    ∃ rules, peerRules core supply rule.peer rule.services = some rules ∧
      ((rule.direction = .in ∧ lists = (rules, [])) ∨
        (rule.direction = .out ∧ lists = ([], rules))) := by
  unfold NetworkPolicyRule.cloudRules at produced
  unfold NetworkPolicyRule.peer
  cases direction : rule.direction with
  | «in» =>
    simp only [direction] at produced ⊢
    obtain ⟨rules, known, rfl⟩ := Option.map_eq_some_iff.mp produced
    exact ⟨rules, known, .inl ⟨trivial, rfl⟩⟩
  | out =>
    simp only [direction] at produced ⊢
    obtain ⟨rules, known, rfl⟩ := Option.map_eq_some_iff.mp produced
    exact ⟨rules, known, .inr ⟨trivial, rfl⟩⟩

/-- The rule is one that `networkPolicyRule.rules` can return. -/
def Rule.Producible (rule : Rule) : Prop :=
  ∃ (core : Core) (supply : Supply) (policyRule : NetworkPolicyRule)
    (lists : List IngressRule × List EgressRule),
    (∀ c ∈ core.addrSGIndexer.values, PlainName (core.objects c).id.name) ∧
      policyRule.cloudRules core supply = some lists ∧ rule ∈ lists.1 ++ lists.2

namespace Rule.Producible

variable {rule : Rule}

theorem made (producible : rule.Producible) :
    ∃ (core : Core) (supply : Supply) (peer : NetworkPolicyPeer)
      (peers : List IPNet × List CloudResourceID),
      (∀ c ∈ core.addrSGIndexer.values, PlainName (core.objects c).id.name) ∧
        addressGroupPeers core supply peer.addressGroups = some peers ∧
        (rule = peerRule peer peers ∨
          ∃ service, rule = (peerRule peer peers).forService service) := by
  obtain ⟨core, supply, policyRule, lists, plain, produced, member⟩ := producible
  obtain ⟨rules, ofPeer, inDirection⟩ := cloudRules_eq produced
  obtain ⟨peers, known, members⟩ := mem_peerRules ofPeer
  have member : rule ∈ rules := by
    rcases inDirection with ⟨_, rfl⟩ | ⟨_, rfl⟩
    · simpa using member
    · simpa using member
  refine ⟨core, supply, policyRule.peer, peers, plain, known, ?_⟩
  rcases ((members rule).mp member).2 with ⟨_, same⟩ | ⟨_, _, service, _, same⟩
  · exact .inl same
  · exact .inr ⟨service, same⟩

/-- A protocol of a rule is TCP, UDP or SCTP. -/
theorem protocol_ne (producible : rule.Producible) : rule.protocol ≠ some 0 := by
  obtain ⟨core, supply, peer, peers, _, _, rfl | ⟨service, rfl⟩⟩ := producible.made
  · simp [peerRule]
  · cases given : service.protocol.bind antreaProtocolMap with
    | none =>
      simp [forService, given, peerRule]
    | some number =>
      obtain ⟨protocol, _, mapped⟩ := Option.bind_eq_some_iff.mp given
      simp only [forService, given]
      rintro same
      cases same
      cases protocol <;> cases mapped

theorem plain (producible : rule.Producible) :
    ∀ id ∈ rule.securityGroups, PlainName id.name := by
  obtain ⟨core, supply, peer, peers, plain, known, made⟩ := producible.made
  have groups : rule.securityGroups = peers.2 := by
    rcases made with rfl | ⟨service, rfl⟩ <;> rfl
  intro id member
  rw [groups] at member
  obtain ⟨name, _, sg, there, rfl, _⟩ := ((mem_addressGroupPeers known).2 id).mp member
  exact plain sg (List.mem_filter.mp there).1

end Rule.Producible

/-! ## What merging admits -/

/-- The port and the protocol of a rule, as far as its key remembers them. -/
theorem Rule.decode_deduplicateKey (protocol : rule.protocol ≠ some 0) :
    rule.deduplicateKey.decode =
      (if rule.port = some 0 then none else rule.port, rule.protocol) := by
  obtain ⟨port, ips, groups, number⟩ := rule
  simp only [deduplicateKey, DeduplicateKey.decode, Prod.mk.injEq]
  constructor
  · cases port with
    | none => rfl
    | some value => by_cases zero : value = 0 <;> simp [zero]
  · cases number with
    | none => rfl
    | some value =>
      have nonzero : value ≠ 0 := fun zero => protocol (congrArg some zero)
      simp [nonzero]

/-- A merged rule has the peers of the rules that it is made of. -/
theorem MergedRule.among (merged : MergedRule rules key rule)
    (plain : ∀ given ∈ rules, ∀ id ∈ given.securityGroups, PlainName id.name) (peer : Peer) :
    peer.Among rule.ips rule.securityGroups ↔
      ∃ given ∈ rulesOf rules key, peer.Among given.ips given.securityGroups := by
  cases peer with
  | address ip =>
    obtain ⟨code, ips⟩ := merged.ips
    rw [Peer.Among, ips, contains_deduplicateIP]
    simp only [Peer.Among, List.mem_flatMap]
    constructor
    · rintro ⟨block, ⟨given, inRules, inBlocks⟩, contains⟩
      exact ⟨given, inRules, block, inBlocks, contains⟩
    · rintro ⟨given, inRules, block, inBlocks, contains⟩
      exact ⟨block, ⟨given, inRules, inBlocks⟩, contains⟩
  | group id =>
    rw [Peer.Among, merged.groups, mem_deduplicateSG_iff, List.mem_flatMap]
    · rfl
    · intro id member id' member' sameText
      obtain ⟨given, inRules, inGroups⟩ := List.mem_flatMap.mp member
      obtain ⟨given', inRules', inGroups'⟩ := List.mem_flatMap.mp member'
      exact CloudResourceID.string_inj (plain given (mem_rulesOf.mp inRules).1 id inGroups)
        (plain given' (mem_rulesOf.mp inRules').1 id' inGroups') sameText

/-- Merged rules admit what the given rules admit, with one rule for a port and a protocol. -/
def KeepsMeaning (merged rules : List Rule) : Prop :=
  (∀ traffic, Admits merged traffic ↔ Admits rules traffic) ∧
    (merged.map fun rule => (rule.port, rule.protocol)).Nodup

/--
Every peer of a rule with port zero also occurs in a rule without a port, and
without a protocol or with the same one.
-/
def ZeroPortsCovered (rules : List Rule) : Prop :=
  ∀ rule ∈ rules, rule.port = some 0 → ∀ peer : Peer, peer.Among rule.ips rule.securityGroups →
    ∃ other ∈ rules, other.port = none ∧
      (other.protocol = none ∨ other.protocol = rule.protocol) ∧
      peer.Among other.ips other.securityGroups

section

variable {supply : Supply} {rules : List Rule}

/-- No two merged rules are for the same port and protocol. -/
theorem nodup_deduplicateRules :
    ((deduplicateRules supply rules).map fun rule => (rule.port, rule.protocol)).Nodup := by
  have keys : ((deduplicateRules supply rules).map fun rule => (rule.port, rule.protocol)) =
      (mergedKeys supply rules).map DeduplicateKey.decode := by
    rw [deduplicateRules_eq]
    refine List.ext_getElem (by simp) fun position bound _ => ?_
    simp only [List.getElem_map, List.getElem_mapIdx]
    rfl
  rw [keys]
  exact (nodup_mergedKeys supply rules).map DeduplicateKey.decode_injective

variable (protocols : ∀ rule ∈ rules, rule.protocol ≠ some 0)
  (plain : ∀ rule ∈ rules, ∀ id ∈ rule.securityGroups, PlainName id.name)

include protocols plain

/-- A peer of a rule is admitted by the merged rule on the ports that the key remembers. -/
theorem admits_merged {rule : Rule} (member : rule ∈ rules) {traffic : Traffic}
    (fits : traffic.Fits (if rule.port = some 0 then none else rule.port) rule.protocol)
    (among : traffic.peer.Among rule.ips rule.securityGroups) :
    Admits (deduplicateRules supply rules) traffic := by
  have inKey : rule ∈ rulesOf rules rule.deduplicateKey := mem_rulesOf.mpr ⟨member, rfl⟩
  obtain ⟨merged, inMerged, isMerged⟩ : ∃ merged ∈ deduplicateRules supply rules,
      MergedRule rules rule.deduplicateKey merged :=
    exists_deduplicateRules (List.ne_nil_of_mem inKey)
  refine ⟨merged, inMerged, ?_, (isMerged.among plain _).mpr ⟨rule, inKey, among⟩⟩
  have decoded := isMerged.decoded.trans (rule.decode_deduplicateKey (protocols rule member))
  obtain ⟨samePort, sameProtocol⟩ := Prod.mk.inj decoded
  rw [samePort, sameProtocol]
  exact fits

/-- Merging loses nothing. -/
theorem admits_of_given {traffic : Traffic} (admits : Admits rules traffic) :
    Admits (deduplicateRules supply rules) traffic := by
  obtain ⟨rule, member, fits, among⟩ := admits
  refine admits_merged protocols plain member ⟨fun value inPort => ?_, fits.2⟩ among
  split at inPort
  next => cases inPort
  next => exact fits.1 value inPort

/-- Merging adds nothing to rules whose zero ports are covered. -/
theorem given_of_admits (covered : ZeroPortsCovered rules) {traffic : Traffic}
    (admits : Admits (deduplicateRules supply rules) traffic) : Admits rules traffic := by
  obtain ⟨merged, inMerged, fits, among⟩ := admits
  obtain ⟨key, isMerged⟩ := mem_deduplicateRules inMerged
  obtain ⟨rule, inKey, among⟩ := (isMerged.among plain _).mp among
  obtain ⟨member, rfl⟩ := mem_rulesOf.mp inKey
  have decoded := isMerged.decoded.trans (rule.decode_deduplicateKey (protocols rule member))
  obtain ⟨samePort, sameProtocol⟩ := Prod.mk.inj decoded
  rw [samePort, sameProtocol] at fits
  by_cases zero : rule.port = some 0
  · obtain ⟨other, inRules, portless, sameProtocol, among⟩ :=
      covered rule member zero traffic.peer among
    exact ⟨other, inRules, ⟨Wider.matches (.inl portless) fits.1,
      Wider.matches sameProtocol fits.2⟩, among⟩
  · rw [if_neg zero] at fits
    exact ⟨rule, member, fits, among⟩

/-- If merging adds nothing, then the zero ports are covered. -/
theorem covered_of_admits
    (admits : ∀ traffic, Admits (deduplicateRules supply rules) traffic → Admits rules traffic) :
    ZeroPortsCovered rules := by
  intro rule member zero peer among
  -- Only a rule without a port matches the port, and only a wider protocol the protocol.
  obtain ⟨port, _, tellsPort⟩ := exists_telling none (rules.map Rule.port)
  obtain ⟨protocol, fits, tellsProtocol⟩ :=
    exists_telling rule.protocol (rules.map Rule.protocol)
  have merged : Admits (deduplicateRules supply rules) ⟨protocol, port, peer⟩ := by
    refine admits_merged protocols plain member ⟨?_, fits⟩ among
    rw [if_pos zero]
    rintro _ ⟨⟩
  obtain ⟨other, inRules, fitsOther, among⟩ := admits _ merged
  have portless := tellsPort _ (List.mem_map_of_mem inRules) fitsOther.1
  exact ⟨other, inRules, or_self_iff.mp portless,
    tellsProtocol _ (List.mem_map_of_mem inRules) fitsOther.2, among⟩

end

/-- Merging keeps the meaning of rules exactly when their zero ports are covered. -/
theorem merging_keeps_meaning (supply : Supply) (rules : List Rule)
    (produced : ∀ rule ∈ rules, rule.Producible) :
    (KeepsMeaning (deduplicateIngressRules supply rules) rules ∧
        KeepsMeaning (deduplicateEgressRules supply rules) rules) ↔
      ZeroPortsCovered rules := by
  have protocols : ∀ rule ∈ rules, rule.protocol ≠ some 0 :=
    fun rule member => (produced rule member).protocol_ne
  have plain : ∀ rule ∈ rules, ∀ id ∈ rule.securityGroups, PlainName id.name :=
    fun rule member => (produced rule member).plain
  constructor
  · rintro ⟨⟨same, _⟩, _⟩
    exact covered_of_admits protocols plain fun traffic => (same traffic).mp
  · intro covered
    have kept : KeepsMeaning (deduplicateRules supply rules) rules :=
      ⟨fun traffic => ⟨given_of_admits protocols plain covered,
        admits_of_given protocols plain⟩, nodup_deduplicateRules⟩
    exact ⟨kept, kept⟩

namespace Sample

/-- The block 10.0.0.0/8. -/
def block : IPNet := ⟨0x0a000000#32, 8⟩

/-- The block 192.168.0.0/16. -/
def otherBlock : IPNet := ⟨0xc0a80000#32, 16⟩

/-- Ingress from a block to one TCP port. -/
def portRule (port : IntOrString) (source : IPNet := block) : NetworkPolicyRule where
  direction := .in
  fromPeer := ⟨[], [⟨source, []⟩]⟩
  toPeer := ⟨[], []⟩
  services := some [⟨some .tcp, some port, none⟩]
  action := some .allow
  name := ""
  priority := 0
  enableLogging := false

/-- The cloud rule for it. -/
def portCloudRule (port : Int) (source : IPNet := block) : Rule :=
  ⟨some port, [source], [], some 6⟩

theorem producible_portCloudRule (port : IntOrString) (source : IPNet) :
    (portCloudRule port.intVal source).Producible :=
  ⟨Reconciler.setup.toCore, fun _ => 0, portRule port source,
    ([portCloudRule port.intVal source], []),
    fun _ member => absurd member List.not_mem_nil, rfl, List.mem_singleton.mpr rfl⟩

/-- The rules for two blocks on one port. -/
def portCloudRules : List Rule := [portCloudRule 80, portCloudRule 80 otherBlock]

end Sample

/-- Two rules for one port are merged into one, and that keeps their meaning. -/
theorem merging_keeps_port_meaning :
    (deduplicateIngressRules (fun _ => 0) Sample.portCloudRules).length = 1 ∧
      KeepsMeaning (deduplicateIngressRules (fun _ => 0) Sample.portCloudRules)
        Sample.portCloudRules ∧
      KeepsMeaning (deduplicateEgressRules (fun _ => 0) Sample.portCloudRules)
        Sample.portCloudRules := by
  refine ⟨by decide, (merging_keeps_meaning (fun _ => 0) Sample.portCloudRules ?_).mpr ?_⟩
  · rintro rule member
    rcases List.mem_pair.mp member with rfl | rfl
    · exact Sample.producible_portCloudRule (.int 80) Sample.block
    · exact Sample.producible_portCloudRule (.int 80) Sample.otherBlock
  · intro rule member zero
    rcases List.mem_pair.mp member with rfl | rfl
    · exact absurd zero (by decide)
    · exact absurd zero (by decide)

/-- A rule for a port given by name is merged into a rule for all ports. -/
theorem merging_opens_named_port :
    (∀ rule ∈ [Sample.portCloudRule (IntOrString.string "http").intVal], rule.Producible) ∧
      ¬ KeepsMeaning
        (deduplicateIngressRules (fun _ => 0)
          [Sample.portCloudRule (IntOrString.string "http").intVal])
        [Sample.portCloudRule (IntOrString.string "http").intVal] := by
  refine ⟨fun rule member => ?_, fun kept => ?_⟩
  · rw [List.mem_singleton.mp member]
    exact Sample.producible_portCloudRule (.string "http") Sample.block
  · have admitted := (kept.1 ⟨6, 22, .address 0x0a000001#32⟩).mp (by decide)
    exact absurd admitted (by decide)

end Nephe
