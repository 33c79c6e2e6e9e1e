import Nephe.SecurityGroup.Types

/-!
# Merging members, addresses and rules

The pure helpers at the top of `pkg/controllers/cloud/networkpolicy.go`.  Each
of them ends in a range over a Go map, so each takes the code (or the supply
of codes) that fixes the order of its result.
-/

namespace Nephe

open Library

/-! ## Differences of group lists -/

/-- `temp[s]++` for every listed name. -/
def countUp (temp : GoMap String Int) (names : List String) : GoMap String Int :=
  names.foldl (fun temp name => temp.set name ((temp.get? name).getD 0 + 1)) temp

/-- `temp[s]--` for every listed name. -/
def countDown (temp : GoMap String Int) (names : List String) : GoMap String Int :=
  names.foldl (fun temp name => temp.set name ((temp.get? name).getD 0 - 1)) temp

/-- The names counted below zero (added) and above zero (removed). -/
def diffCounts (code : Nat) (temp : GoMap String Int) : List String × List String :=
  let entries := arrange code temp.bindings
  ((entries.filter fun entry => entry.2 < 0).map (·.1),
    (entries.filter fun entry => 0 < entry.2).map (·.1))

/-- `diffAppliedToGrp`: added and removed groups from `a` to `b`. -/
def diffAppliedToGrp (code : Nat) (a b : List String) : List String × List String :=
  diffCounts code (countDown (countUp ∅ a) b)

/-- The address groups of a rule, in the order `diffAddressGrp` counts them. -/
def NetworkPolicyRule.peerGroups (rule : NetworkPolicyRule) : List String :=
  rule.fromPeer.addressGroups ++ rule.toPeer.addressGroups

/-- `diffAddressGrp`: added and removed address groups from rules `a` to `b`. -/
def diffAddressGrp (code : Nat) (a b : List NetworkPolicyRule) :
    List String × List String :=
  diffCounts code
    (countDown
      (countUp ∅ (a.flatMap NetworkPolicyRule.peerGroups))
      (b.flatMap NetworkPolicyRule.peerGroups))

/-! ## Members -/

/-- `mergeCloudResources`: drop `removed` from `src`, then put `added`. -/
def mergeCloudResources
    (code : Nat) (src added removed : List CloudResource) : List CloudResource :=
  let srcMap : GoMap String CloudResource :=
    src.foldl (fun map s => map.set s.name.string s) ∅
  let srcMap := removed.foldl (fun map s => map.remove s.name.string) srcMap
  let srcMap := added.foldl (fun map s => map.set s.name.string s) srcMap
  arrange code srcMap.values

/-- `compareCloudResources`; only the length of the merged list is used. -/
def compareCloudResources (s1 s2 : List CloudResource) : Bool :=
  if s1.length ≠ s2.length then false
  else (mergeCloudResources 0 s1 [] s2).length == 0

/-! ## Address blocks -/

/-- `mergeIPs`; the text of an IPv4 block determines the block. -/
def mergeIPs (code : Nat) (src added removed : List IPNet) : List IPNet :=
  let srcMap : GoMap IPNet IPNet := src.foldl (fun map s => map.set s s) ∅
  let srcMap := removed.foldl (fun map s => map.remove s) srcMap
  let srcMap := added.foldl (fun map s => map.set s s) srcMap
  arrange code srcMap.values

/-- `overlap`: the smaller of two blocks one of which contains the other. -/
def overlap (ip1 ip2 : IPNet) : Option IPNet :=
  if ip1.ones < ip2.ones then
    if ip1.contains ip2.ip then some ip2 else none
  else
    if ip2.contains ip1.ip then some ip1 else none

/-- All pairs `(ipList[i], ipList[j])` with `i < j`, in loop order. -/
def pairsInOrder : List IPNet → List (IPNet × IPNet)
  | [] => []
  | head :: tail => tail.map (head, ·) ++ pairsInOrder tail

/-- `deduplicateIP`. -/
def deduplicateIP (code : Nat) (inputIP : List IPNet) : List IPNet :=
  let (ipList, existing) :=
    inputIP.foldl
      (fun (state : List IPNet × GoMap IPNet IPNet) ip =>
        if (state.2.get? ip).isSome then state
        else (state.1 ++ [ip], state.2.set ip ip))
      ([], ∅)
  let existing :=
    (pairsInOrder ipList).foldl
      (fun existing pair =>
        match overlap pair.1 pair.2 with
        | some smallerIP => existing.remove smallerIP
        | none => existing)
      existing
  arrange code existing.values

/-- `deduplicateSG`. -/
def deduplicateSG (inputSG : List CloudResourceID) : List CloudResourceID :=
  (inputSG.foldl
    (fun (state : List CloudResourceID × GoMap String Unit) sg =>
      if (state.2.get? sg.string).isSome then state
      else (state.1 ++ [sg], state.2.set sg.string ()))
    ([], ∅)).1

/-! ## Rules -/

/-- `deduplicateKey`. -/
structure DeduplicateKey where
  port : Int
  protocol : Nat
deriving DecidableEq, Repr

/-- The key under which a rule is merged; an absent field counts as zero. -/
def Rule.deduplicateKey (rule : Rule) : DeduplicateKey :=
  ⟨rule.port.getD 0, rule.protocol.getD 0⟩

/-- The two maps `inRuleIPSet` and `inRuleSGSet` after the first loop. -/
def collectByKey (rules : List Rule) :
    GoMap DeduplicateKey (List IPNet) × GoMap DeduplicateKey (List CloudResourceID) :=
  rules.foldl
    (fun sets rule =>
      let key := rule.deduplicateKey
      (sets.1.set key ((sets.1.get? key).getD [] ++ rule.ips),
        sets.2.set key ((sets.2.get? key).getD [] ++ rule.securityGroups)))
    (∅, ∅)

/--
The common body of `deduplicateIngressRules` and `deduplicateEgressRules`.

The supply gives the order of the merged rules and, for the rule at each
position, the order of its address blocks.
-/
def deduplicateRules (supply : Supply) (rules : List Rule) : List Rule :=
  let sets := collectByKey rules
  (arrange (supply 0) sets.1.bindings).mapIdx fun position (key, ips) =>
    { port := if key.port = 0 then none else some key.port
      ips := deduplicateIP (supply (position + 1)) ips
      securityGroups := deduplicateSG ((sets.2.get? key).getD [])
      protocol := if key.protocol = 0 then none else some key.protocol }

/-- `deduplicateIngressRules`. -/
def deduplicateIngressRules (supply : Supply) (rules : List IngressRule) :
    List IngressRule :=
  deduplicateRules supply rules

/-- `deduplicateEgressRules`. -/
def deduplicateEgressRules (supply : Supply) (rules : List EgressRule) :
    List EgressRule :=
  deduplicateRules supply rules

/-! ## What the merged rules name -/

variable {id : CloudResourceID} {rules : List Rule}

theorem mem_deduplicateSG {inputSG : List CloudResourceID} (member : id ∈ deduplicateSG inputSG) :
    id ∈ inputSG := by
  -- The accumulated list only ever holds elements of the input.
  have loop (list : List CloudResourceID) (state : List CloudResourceID × GoMap String Unit)
      (member : id ∈ (list.foldl
        (fun (state : List CloudResourceID × GoMap String Unit) sg =>
          if (state.2.get? sg.string).isSome then state
          else (state.1 ++ [sg], state.2.set sg.string ())) state).1) :
      id ∈ state.1 ∨ id ∈ list := by
    induction list generalizing state with
    | nil => exact .inl member
    | cons head tail induction =>
      rw [List.foldl_cons] at member
      rcases induction _ member with before | later
      · split at before
        · exact .inl before
        · rcases List.mem_append.mp before with old | here
          · exact .inl old
          · exact .inr (List.mem_singleton.mp here ▸ List.mem_cons_self)
      · exact .inr (List.mem_cons_of_mem _ later)
  exact (loop inputSG ([], ∅) member).resolve_left List.not_mem_nil

theorem mem_collectByKey {key : DeduplicateKey}
    (member : id ∈ ((collectByKey rules).2.get? key).getD []) :
    ∃ rule ∈ rules, id ∈ rule.securityGroups := by
  induction rules using List.reverseRecOn with
  | nil => exact absurd member List.not_mem_nil
  | append_singleton rules rule induction =>
    have last : (collectByKey (rules ++ [rule])).2 =
        (collectByKey rules).2.set rule.deduplicateKey
          (((collectByKey rules).2.get? rule.deduplicateKey).getD [] ++
            rule.securityGroups) := by
      simp only [collectByKey, List.foldl_append, List.foldl_cons, List.foldl_nil]
    have earlier (member : id ∈ ((collectByKey rules).2.get? key).getD []) :
        ∃ rule' ∈ rules ++ [rule], id ∈ rule'.securityGroups := by
      obtain ⟨found, there, names⟩ := induction member
      exact ⟨found, List.mem_append_left _ there, names⟩
    rw [last, GoMap.get?_set] at member
    split at member
    next equal =>
      rcases List.mem_append.mp member with old | here
      · exact earlier (equal ▸ old)
      · exact ⟨rule, List.mem_append_right _ List.mem_cons_self, here⟩
    next => exact earlier member

/-- Merging names no group that the given rules do not name. -/
theorem mem_securityGroups_deduplicateRules {supply : Supply} {rule : Rule}
    (member : rule ∈ deduplicateRules supply rules) (names : id ∈ rule.securityGroups) :
    ∃ given ∈ rules, id ∈ given.securityGroups := by
  simp only [deduplicateRules, List.mem_mapIdx] at member
  obtain ⟨_, _, rfl⟩ := member
  exact mem_collectByKey (mem_deduplicateSG names)

end Nephe
