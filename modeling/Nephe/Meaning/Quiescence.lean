import Nephe.SecurityGroup.Members
import Nephe.Meaning.Drift

/-!
# Syncs with a cloud that is up to date

The cloud holds merged rules, and a sync compares them with the rules of the
policies as they are.  The two have the same texts only when there has been
nothing to merge.
-/

namespace Nephe

open Library

/-! ## What merging drops -/

theorem subperm_deduplicateIP (code : Nat) (blocks : List IPNet) :
    (deduplicateIP code blocks).Subperm blocks := by
  obtain ⟨distinctBlocks, _, members, output, nodup, _⟩ := deduplicateIP_spec code blocks
  exact nodup.subperm fun block inOutput => (members block).mp ((output block).mp inOutput).1

/-- `deduplicateIP` drops nothing from blocks that do not overlap. -/
theorem deduplicateIP_perm_iff (code : Nat) (blocks : List IPNet) :
    (deduplicateIP code blocks).Perm blocks ↔
      blocks.Pairwise fun block other => overlap block other = none := by
  obtain ⟨distinctBlocks, _, _, output, nodup, unchanged⟩ := deduplicateIP_spec code blocks
  constructor
  · intro perm
    have same := unchanged (perm.nodup_iff.mp nodup)
    subst same
    refine pairwise_iff_pairsInOrder.mpr fun pair inPairs => ?_
    obtain ⟨inFirst, inSecond⟩ := mem_pairsInOrder inPairs
    cases found : overlap pair.1 pair.2 with
    | none => rfl
    | some smaller =>
      have inBlocks : smaller ∈ distinctBlocks := by
        rcases overlap_cases found with ⟨rfl, _⟩ | ⟨rfl, _⟩
        · exact inSecond
        · exact inFirst
      exact absurd found (((output smaller).mp (perm.mem_iff.mpr inBlocks)).2 pair inPairs)
  · intro apart
    have distinct : blocks.Nodup := apart.imp fun none_ same => by
      rw [same, overlap_self] at none_
      cases none_
    have same := unchanged distinct
    subst same
    refine (List.perm_ext_iff_of_nodup nodup distinct).mpr fun block => ?_
    refine (output block).trans (and_iff_left fun pair inPairs dropped => ?_)
    rw [pairwise_iff_pairsInOrder.mp apart pair inPairs] at dropped
    cases dropped

theorem subperm_deduplicateSG (groups : List CloudResourceID) :
    ((deduplicateSG groups).map CloudResourceID.string).Subperm
      (groups.map CloudResourceID.string) := by
  refine (nodup_deduplicateSG groups).subperm fun text member => ?_
  obtain ⟨id, inOutput, rfl⟩ := List.mem_map.mp member
  exact List.mem_map_of_mem (mem_deduplicateSG inOutput)

/-- `deduplicateSG` drops nothing from groups with different texts. -/
theorem deduplicateSG_perm_iff (groups : List CloudResourceID) :
    ((deduplicateSG groups).map CloudResourceID.string).Perm (groups.map CloudResourceID.string) ↔
      (groups.map CloudResourceID.string).Nodup := by
  constructor
  · exact fun perm => perm.nodup_iff.mp (nodup_deduplicateSG groups)
  · intro distinct
    rw [deduplicateSG_of_nodup distinct]

/-! ## The texts of merged rules -/

theorem portItem_congr {rule rule' : Rule} (same : rule.deduplicateKey = rule'.deduplicateKey) :
    rule.portItem = rule'.portItem := by
  simp only [Rule.deduplicateKey, DeduplicateKey.mk.injEq] at same
  rw [Rule.portItem, Rule.portItem, same.1, same.2]

theorem length_portItem_le (rule : Rule) : rule.portItem.length ≤ 1 := by
  simp only [Rule.portItem]
  split <;> simp

theorem deduplicateKey_mergeRules (rules : List Rule) (key : DeduplicateKey) (code : Nat) :
    (mergeRules rules key code).deduplicateKey = key := by
  simp only [mergeRules, Rule.deduplicateKey, DeduplicateKey.decode]
  congr 1
  · split <;> simp_all
  · split <;> simp_all

/-- The texts of rules: those of the ports, of the blocks and of the groups. -/
theorem flatMap_items_perm (rules : List Rule) :
    (rules.flatMap Rule.items).Perm
      (rules.flatMap Rule.portItem ++ (rules.flatMap Rule.ips).map IPNet.string ++
        (rules.flatMap Rule.securityGroups).map CloudResourceID.string) := by
  rw [List.map_flatMap, List.map_flatMap]
  exact ((rules.flatMap_append_perm _ _).symm.trans
    ((rules.flatMap_append_perm _ _).symm.append_right _))

/--
Merging leaves the texts of the rules as they are.

A rule with a port or a protocol is the only one for them, no two blocks for one
port and protocol overlap, and no group is listed twice for them.
-/
def AlreadyMerged (rules : List Rule) : Prop :=
  ∀ rule ∈ rules,
    (rule.portItem = [] ∨ (rulesOf rules rule.deduplicateKey).length = 1) ∧
      (((rulesOf rules rule.deduplicateKey).flatMap Rule.ips).Pairwise
        fun block other => overlap block other = none) ∧
      (((rulesOf rules rule.deduplicateKey).flatMap Rule.securityGroups).map
        CloudResourceID.string).Nodup

instance (rules : List Rule) : Decidable (AlreadyMerged rules) :=
  inferInstanceAs (Decidable (∀ rule ∈ rules, _ ∧ _ ∧ _))

section

variable {rules : List Rule} {rule : Rule} (member : rule ∈ rules) (code : Nat)

include member

theorem portItem_sublist :
    rule.portItem.Sublist ((rulesOf rules rule.deduplicateKey).flatMap Rule.portItem) := by
  rw [List.flatMap_def]
  exact List.sublist_flatten_of_mem (List.mem_map_of_mem (mem_rulesOf.mpr ⟨member, rfl⟩))

/-- One text for the port is all there are when there is none, or only one rule. -/
theorem portItem_perm_iff :
    rule.portItem.Perm ((rulesOf rules rule.deduplicateKey).flatMap Rule.portItem) ↔
      rule.portItem = [] ∨ (rulesOf rules rule.deduplicateKey).length = 1 := by
  have lengths : ((rulesOf rules rule.deduplicateKey).flatMap Rule.portItem).length =
      (rulesOf rules rule.deduplicateKey).length * rule.portItem.length := by
    rw [List.length_flatMap, List.map_congr_left (g := fun _ => rule.portItem.length)
      fun other inRules => by rw [portItem_congr (mem_rulesOf.mp inRules).2]]
    simp
  have small := length_portItem_le rule
  constructor
  · intro perm
    have equal := perm.length_eq
    rw [lengths] at equal
    rcases Nat.eq_zero_or_pos rule.portItem.length with zero | positive
    · exact .inl (List.length_eq_zero_iff.mp zero)
    · have one : rule.portItem.length = 1 := by omega
      rw [one] at equal
      exact .inr (by omega)
  · intro single
    refine (portItem_sublist member).subperm.perm_of_length_le ?_
    rw [lengths]
    rcases single with none_ | one
    · simp [none_]
    · simp [one]

/-- The texts of a merged rule are among those of the rules that it is made from. -/
theorem subperm_mergeRules :
    (mergeRules rules rule.deduplicateKey code).items.Subperm
      ((rulesOf rules rule.deduplicateKey).flatMap Rule.items) := by
  refine List.Subperm.trans ?_ (flatMap_items_perm _).symm.subperm
  rw [Rule.items, portItem_congr (deduplicateKey_mergeRules rules _ code)]
  exact subperm_append (subperm_append (portItem_sublist member).subperm
    (subperm_map _ (subperm_deduplicateIP _ _))) (subperm_deduplicateSG _)

/-- They are all of them when there is nothing to merge. -/
theorem mergeRules_perm_iff :
    (mergeRules rules rule.deduplicateKey code).items.Perm
        ((rulesOf rules rule.deduplicateKey).flatMap Rule.items) ↔
      (rule.portItem = [] ∨ (rulesOf rules rule.deduplicateKey).length = 1) ∧
        (((rulesOf rules rule.deduplicateKey).flatMap Rule.ips).Pairwise
          fun block other => overlap block other = none) ∧
        (((rulesOf rules rule.deduplicateKey).flatMap Rule.securityGroups).map
          CloudResourceID.string).Nodup := by
  rw [(flatMap_items_perm _).congr_right, Rule.items,
    portItem_congr (deduplicateKey_mergeRules rules _ code), ← portItem_perm_iff member,
    ← deduplicateIP_perm_iff code, ← deduplicateSG_perm_iff]
  constructor
  · intro perm
    obtain ⟨front, groups⟩ := perm_of_subperm_append
      (subperm_append (portItem_sublist member).subperm (subperm_map _ (subperm_deduplicateIP _ _)))
      (subperm_deduplicateSG _) perm
    obtain ⟨port, blocks⟩ := perm_of_subperm_append (portItem_sublist member).subperm
      (subperm_map _ (subperm_deduplicateIP _ _)) front
    refine ⟨port, (subperm_deduplicateIP _ _).perm_of_length_le ?_, groups⟩
    simpa using blocks.length_eq.ge
  · rintro ⟨port, blocks, groups⟩
    exact (port.append (blocks.map _)).append groups

end

section

variable (supply : Supply) (rules : List Rule)

/-- The merged rules, each with its key and the order of its blocks. -/
theorem flatMap_items_deduplicateRules :
    (deduplicateRules supply rules).flatMap Rule.items =
      (mergedKeys supply rules).zipIdx.flatMap fun entry =>
        (mergeRules rules entry.1 (supply (entry.2 + 1))).items := by
  rw [deduplicateRules_eq, List.mapIdx_eq_zipIdx_map, List.flatMap_map]

/-- The rules themselves, sorted by their keys. -/
theorem flatMap_items_perm_rulesOf :
    (rules.flatMap Rule.items).Perm
      ((mergedKeys supply rules).zipIdx.flatMap fun entry =>
        (rulesOf rules entry.1).flatMap Rule.items) := by
  have keys : (mergedKeys supply rules).zipIdx.map (·.1) = mergedKeys supply rules := by simp
  have covered : ∀ rule ∈ rules, rule.deduplicateKey ∈ mergedKeys supply rules :=
    fun rule member => mem_mergedKeys.mpr (List.ne_nil_of_mem (mem_rulesOf.mpr ⟨member, rfl⟩))
  have sorted := (flatMap_filter_perm Rule.deduplicateKey (nodup_mergedKeys supply rules)
    covered).symm.flatMap_right Rule.items
  rw [List.flatMap_assoc, ← keys, List.flatMap_map] at sorted
  exact sorted

variable {rules}

theorem exists_of_mem_mergedKeys {entry : DeduplicateKey × Nat}
    (member : entry ∈ (mergedKeys supply rules).zipIdx) :
    ∃ rule ∈ rules, rule.deduplicateKey = entry.1 := by
  have inKeys : entry.1 ∈ mergedKeys supply rules := List.fst_mem_of_mem_zipIdx member
  obtain ⟨rule, inRules⟩ := List.exists_mem_of_ne_nil _ (mem_mergedKeys.mp inKeys)
  exact ⟨rule, mem_rulesOf.mp inRules⟩

theorem subperm_deduplicateRules :
    ((deduplicateRules supply rules).flatMap Rule.items).Subperm (rules.flatMap Rule.items) := by
  rw [flatMap_items_deduplicateRules]
  refine (subperm_flatMap fun entry member => ?_).trans
    (flatMap_items_perm_rulesOf supply rules).symm.subperm
  obtain ⟨rule, inRules, same⟩ := exists_of_mem_mergedKeys supply member
  rw [← same]
  exact subperm_mergeRules inRules _

/-- Merging keeps the texts exactly when there is nothing to merge. -/
theorem deduplicateRules_perm_iff :
    ((deduplicateRules supply rules).flatMap Rule.items).Perm (rules.flatMap Rule.items) ↔
      AlreadyMerged rules := by
  rw [flatMap_items_deduplicateRules, (flatMap_items_perm_rulesOf supply rules).congr_right,
    perm_flatMap_iff fun entry member => ?_]
  · constructor
    · intro perms rule inRules
      have inKeys : rule.deduplicateKey ∈ mergedKeys supply rules :=
        mem_mergedKeys.mpr (List.ne_nil_of_mem (mem_rulesOf.mpr ⟨inRules, rfl⟩))
      obtain ⟨position, bound, here⟩ := List.getElem_of_mem inKeys
      have perm := perms (rule.deduplicateKey, position)
        (List.mem_zipIdx_iff_getElem?.mpr (by rw [List.getElem?_eq_getElem bound, here]))
      exact (mergeRules_perm_iff inRules _).mp perm
    · intro merged entry member
      obtain ⟨rule, inRules, same⟩ := exists_of_mem_mergedKeys supply member
      rw [← same]
      exact (mergeRules_perm_iff inRules _).mpr (merged rule inRules)
  · obtain ⟨rule, inRules, same⟩ := exists_of_mem_mergedKeys supply member
    rw [← same]
    exact subperm_mergeRules inRules _

end

/-! ## Members -/

/--
What a cloud reports that has the tracked members: the machines themselves, or their network
interfaces.
-/
structure ReportsMembers (interfaces : CloudResource → List CloudResource)
    (members reported : List CloudResource) : Prop where
  machines : ∀ machine ∈ members, machine.type = .virtualMachine
  nics : ∀ machine ∈ members, interfaces machine ≠ [] ∧
    ∀ nic ∈ interfaces machine, nic.type = .networkInterface
  reported : reported.Perm members ∨ reported.Perm (members.flatMap interfaces)

/--
A sync recognises the members: the machines are reported, or the interfaces that are found by
the names of the machines compare as equal to the reported ones.
-/
def RecognisesMembers (env : Env) (members reported : List CloudResource) : Prop :=
  reported.Perm members ∨
    compareCloudResources (getNICsOfCloudResources env members) reported = true

section

variable {interfaces : CloudResource → List CloudResource} {members : List CloudResource}
  {c : SynchronizationContent} {env : Env}

theorem sameMembership_iff (reports : ReportsMembers interfaces members c.members) :
    Reconciler.sameMembership env (some c) members = true ↔
      RecognisesMembers env members c.members := by
  by_cases perm : c.members.Perm members
  · refine iff_of_true ?_ (.inl perm)
    have same : compareCloudResources members c.members = true :=
      compareCloudResources_of_perm perm.symm
    cases listed : c.members with
    | nil => simpa [Reconciler.sameMembership, listed] using same
    | cons first rest =>
      obtain ⟨type, name⟩ := first
      cases reports.machines ⟨type, name⟩ (perm.subset (listed ▸ List.mem_cons_self))
      simpa [Reconciler.sameMembership, listed] using same
  · have nics := reports.reported.resolve_left perm
    cases listed : c.members with
    | nil =>
      -- A machine without interfaces would not be seen, but there is none.
      have none_ : members = [] := List.eq_nil_iff_forall_not_mem.mpr fun machine member => by
        rw [listed, List.nil_perm, List.flatMap_eq_nil_iff] at nics
        exact (reports.nics machine member).1 (nics machine member)
      exact absurd (by rw [listed, none_]) perm
    | cons first rest =>
      obtain ⟨machine, member, isNic⟩ := List.mem_flatMap.mp
        (nics.subset (listed ▸ List.mem_cons_self))
      obtain ⟨type, name⟩ := first
      cases (reports.nics machine member).2 ⟨type, name⟩ isNic
      rw [listed] at perm
      simp [Reconciler.sameMembership, listed, RecognisesMembers, perm]

/-- Without an index by cloud name the machines are taken for their interfaces. -/
theorem getNICsOfCloudResources_of_error
    (fails : ∀ name, ∃ err, env.listByCloudName name = .error err)
    (resources : List CloudResource) : getNICsOfCloudResources env resources = resources := by
  cases resources with
  | nil => rfl
  | cons first rest =>
    obtain ⟨err, failed⟩ := fails first.name.name
    simp [getNICsOfCloudResources, List.mapM_cons, failed, Except.map, bind, Except.bind]

/-- Without the index a report that does not name every machine is not recognised. -/
theorem not_recognisesMembers_of_error {reported : List CloudResource}
    (fails : ∀ name, ∃ err, env.listByCloudName name = .error err) {machine : CloudResource}
    (member : machine ∈ members) (unnamed : machine.name.string ∉ namesOf reported) :
    ¬ RecognisesMembers env members reported := by
  rintro (perm | same)
  · exact unnamed (List.mem_map_of_mem (perm.mem_iff.mpr member))
  · rw [getNICsOfCloudResources_of_error fails, compareCloudResources_iff] at same
    exact unnamed (same.2 (List.mem_map_of_mem member))

end

/-! ## What a sync sends -/

/-- A step sends operations unless the condition holds. -/
def SendsUnless (quiet : Prop) (r r' : Reconciler) : Prop :=
  ∃ sent, r'.inFlight = r.inFlight ++ sent ∧ (sent = [] ↔ quiet)

section

variable {first second : Prop} {r r' r'' : Reconciler}

theorem SendsUnless.trans (before : SendsUnless first r r') (after : SendsUnless second r' r'') :
    SendsUnless (first ∧ second) r r'' := by
  obtain ⟨sent, grown, nothing⟩ := before
  obtain ⟨sent', grown', nothing'⟩ := after
  exact ⟨sent ++ sent', by rw [grown', grown, List.append_assoc],
    by rw [List.append_eq_nil_iff, nothing, nothing']⟩

theorem SendsUnless.inFlight_iff (sends : SendsUnless first r r') :
    r'.inFlight = r.inFlight ↔ first := by
  obtain ⟨sent, grown, nothing⟩ := sends
  rw [grown, ← nothing]
  exact List.append_right_eq_self

theorem SendsUnless.of_eq (same : r'.inFlight = r.inFlight) (quiet : first) :
    SendsUnless first r r' :=
  ⟨[], by simpa using same, iff_of_true rfl quiet⟩

end

section

variable {a : Ref} {c : SynchronizationContent} {items : GoMap String Int} {r r' : Reconciler}
  {interfaces : CloudResource → List CloudResource}

/-- The first part of a sync sends the members that it does not recognise. -/
theorem sends_syncMembers (reports : ReportsMembers interfaces (r.objects a).members c.members) :
    SendsUnless ((r.objects a).retryOp.isSome = true ∨
        RecognisesMembers r.env (r.objects a).members c.members) r (r.syncMembers a (some c)) ∧
      ((r.syncMembers a (some c)).objects a).state = .created ∧
      ((r.syncMembers a (some c)).objects a).retryOp = (r.objects a).retryOp ∧
      ((r.syncMembers a (some c)).objects a).membershipOnly = (r.objects a).membershipOnly := by
  have noted : ((r.noteReported a (some c)).objects a) =
      { r.objects a with state := .created } := by
    simp [Reconciler.noteReported, Reconciler.assign]
  have env : (r.noteReported a (some c)).env = r.env := rfl
  by_cases same : Reconciler.sameMembership r.env (some c) (r.objects a).members = true
  · have impl : r.syncImpl a (some c) = (true, r.noteReported a (some c)) := by
      simp [Reconciler.syncImpl, noted, env, same]
    simp only [Reconciler.syncMembers, impl, Bool.true_and]
    split
    next =>
      exact ⟨.of_eq rfl (.inr ((sameMembership_iff reports).mp same)),
        by simp [Reconciler.assign, noted]⟩
    next =>
      exact ⟨.of_eq rfl (.inr ((sameMembership_iff reports).mp same)), by simp [noted]⟩
  · have unrecognised := mt (sameMembership_iff reports).mpr same
    have impl : r.syncMembers a (some c) = (r.noteReported a (some c)).updateImpl a [] [] := by
      simp [Reconciler.syncMembers, Reconciler.syncImpl, noted, env, same]
    have present : (r.objects a).members ≠ [] := fun none_ => unrecognised (.inl (by
      have listed := reports.reported
      simpa [none_] using listed))
    rw [impl]
    simp only [Reconciler.updateImpl, noted, List.length_nil, zero_add,
      List.length_eq_zero_iff, if_neg present, ne_eq, not_true_eq_false, if_false]
    split
    next retried =>
      exact ⟨.of_eq rfl (.inl retried), by simp [Reconciler.assign, Reconciler.advance, noted]⟩
    next idle =>
      refine ⟨⟨[_], rfl, iff_of_false (List.cons_ne_nil _ _) ?_⟩, ?_⟩
      · exact not_or.mpr ⟨idle, unrecognised⟩
      · simp [Reconciler.issue, Reconciler.observe, Reconciler.assign, Reconciler.advance, noted]

/-- `updateRules` of a group with ready policies sends rules unless a retry is pending. -/
theorem sends_updateRules (created : (r.objects a).state = .created)
    (kind : (r.objects a).membershipOnly = false) (present : r.appliedPolicies a ≠ [])
    (ready : ∀ entry ∈ r.appliedPolicies a, entry.2.rulesReady = true) :
    SendsUnless ((r.objects a).retryOp.isSome = true) r (r.updateRules a) := by
  have isReady : (r.objects a).isReady = true := by
    simp [SecurityGroup.isReady, kind, created]
  by_cases retried : (r.objects a).retryOp.isSome = true
  · exact .of_eq (by simp [Reconciler.updateRules, isReady, retried]) retried
  · have present : arrange (r.order 0) (r.policiesByAppliedToGrp (r.objects a).id.name) ≠ [] := by
      rw [ne_eq, arrange_eq_nil]
      exact present
    have allReady : ((arrange (r.order 0) (r.policiesByAppliedToGrp
        (r.objects a).id.name)).all fun np => np.2.rulesReady) = true := by
      rw [List.all_eq_true]
      exact fun entry member => ready entry ((mem_arrange _ _ _).mp member)
    have sent : ∃ call, (r.updateRules a).inFlight = r.inFlight ++ [call] := by
      simp only [Reconciler.updateRules, isReady, Bool.not_true, Bool.false_eq_true, if_false,
        retried, if_neg present, if_pos allReady]
      exact ⟨_, rfl⟩
    obtain ⟨call, grown⟩ := sent
    exact ⟨[call], grown, iff_of_false (List.cons_ne_nil _ _) retried⟩

/-- The cloud holds the rules that `updateRules` sends for the policies, in any order. -/
structure HoldsRules (c : SynchronizationContent) (policies : List (String × NetworkPolicy)) :
    Prop where
  ingress : ∃ supply, c.ingressRules.Perm
    (deduplicateIngressRules supply (ingressRulesOf policies))
  egress : ∃ supply, c.egressRules.Perm (deduplicateEgressRules supply (egressRulesOf policies))

/-- The texts of a right report are those of the policies when there is nothing to merge. -/
theorem HoldsRules.texts_perm_iff {policies : List (String × NetworkPolicy)}
    (holds : HoldsRules c policies) :
    (textsOf c.ingressRules c.egressRules).Perm
        (textsOf (ingressRulesOf policies) (egressRulesOf policies)) ↔
      AlreadyMerged (ingressRulesOf policies) ∧ AlreadyMerged (egressRulesOf policies) := by
  obtain ⟨⟨ingressSupply, ingress⟩, egressSupply, egress⟩ := holds
  have ingress := ingress.flatMap_right Rule.items
  have egress := egress.flatMap_right Rule.items
  rw [textsOf, textsOf, List.flatMap_append, List.flatMap_append,
    (ingress.append egress).congr_left, ← deduplicateRules_perm_iff ingressSupply,
    ← deduplicateRules_perm_iff egressSupply]
  exact ⟨perm_of_subperm_append (subperm_deduplicateRules _) (subperm_deduplicateRules _),
    fun both => both.1.append both.2⟩

theorem texts_perm {policies policies' : List (String × NetworkPolicy)}
    (perm : policies.Perm policies') :
    (textsOf (ingressRulesOf policies) (egressRulesOf policies)).Perm
      (textsOf (ingressRulesOf policies') (egressRulesOf policies')) :=
  ((perm.flatMap_right _).append (perm.flatMap_right _)).flatMap_right _

/-- The second part of a sync sends rules when there was something to merge. -/
theorem sends_syncRules {nps : List (String × NetworkPolicy)}
    (created : (r.objects a).state = .created) (kind : (r.objects a).membershipOnly = false)
    (counted : r.recount a = (some items, r')) (policies : nps.Perm (r'.appliedPolicies a))
    (rules : HoldsRules c nps) :
    SendsUnless ((r.objects a).retryOp.isSome = true ∨
        AlreadyMerged (ingressRulesOf nps) ∧ AlreadyMerged (egressRulesOf nps)) r
      (r.syncRules .updateRules a (some c)) := by
  obtain ⟨frame, ready, _⟩ := Reconciler.recount_spec counted
  have differs : (countDown items c.items).values.any (· ≠ 0) = true ↔
      ¬ (AlreadyMerged (ingressRulesOf nps) ∧ AlreadyMerged (egressRulesOf nps)) := by
    rw [Reconciler.any_countDown_iff counted, ← rules.texts_perm_iff,
      (texts_perm policies).congr_right]
  rw [Reconciler.syncRules_of_recount counted]
  by_cases unmerged : (countDown items c.items).values.any (· ≠ 0) = true
  · rw [if_pos unmerged]
    have present : r'.appliedPolicies a ≠ [] := by
      intro none_
      rw [none_, List.perm_nil] at policies
      rw [differs, policies] at unmerged
      exact unmerged ⟨by rintro _ ⟨⟩, by rintro _ ⟨⟩⟩
    obtain ⟨sent, grown, nothing⟩ := sends_updateRules (by rw [frame.objects]; exact created)
      (by rw [frame.objects]; exact kind) present (ready.mp rfl)
    refine ⟨sent, by rw [grown, frame.inFlight], ?_⟩
    rw [nothing, frame.objects]
    exact (or_iff_left (differs.mp unmerged)).symm
  · rw [if_neg unmerged]
    refine .of_eq ?_ (.inr (not_not.mp fun apart => unmerged (differs.mpr apart)))
    split
    next =>
      split
      next => exact frame.inFlight
      next =>
        obtain ⟨trackers, order, marked, _⟩ := Reconciler.quiet_markGroupDirty (r := r') a
        rw [marked]
        exact frame.inFlight
    next => exact frame.inFlight

/--
A sync with a cloud that is up to date sends nothing exactly when it does not compare, or has
to wait for a retry, or recognises the members and there was nothing to merge.

`nps` are the policies in the order in which `updateRules` reads them, and `interfaces` are
the network interfaces that the machines have in the cloud.
-/
theorem sync_is_quiescent {nps : List (String × NetworkPolicy)}
    (interfaces : CloudResource → List CloudResource)
    (kind : (r.objects a).membershipOnly = false)
    (ready : ∀ entry ∈ (r.sync a (some c)).appliedPolicies a, entry.2.rulesReady = true)
    (policies : nps.Perm ((r.sync a (some c)).appliedPolicies a)) (rules : HoldsRules c nps)
    (members : ReportsMembers interfaces (r.objects a).members c.members) :
    (r.sync a (some c)).inFlight = r.inFlight ↔
      (r.objects a).deletePending = true ∨ (r.objects a).retryOp.isSome = true ∨
        (RecognisesMembers r.env (r.objects a).members c.members ∧
          AlreadyMerged (ingressRulesOf nps) ∧ AlreadyMerged (egressRulesOf nps)) := by
  by_cases pending : (r.objects a).deletePending = true
  · simp [Reconciler.sync, Reconciler.syncWith, pending]
  have current : (r.objects a).deletePending = false := by simpa using pending
  obtain ⟨items, r', counted, same⟩ := Reconciler.exists_recount kind current ready
  rw [same] at policies
  obtain ⟨sends, created, retryOp, sameKind⟩ := sends_syncMembers members
  have sends' := sends_syncRules created (sameKind.trans kind) counted policies rules
  rw [retryOp] at sends'
  rw [Reconciler.sync, Reconciler.syncWith_appliedTo kind current,
    (sends.trans sends').inFlight_iff, ← or_and_left, or_iff_right pending]

end

namespace Sample

/-- A policy lets two blocks reach one port of a group, by two rules. -/
def sharedPort : Reconciler :=
  (after (bookmarks ++ [.appliedToGroup .added (.complete "h" [member "a"])] ++ callback 0 none ++
    [.networkPolicy .added
      { webPolicy with
        rules :=
          [portRule (.int 80), portRule (.int 80) otherBlock] }])).reconciler

/-- A report of the rule that they are merged into. -/
def sharedReport : SynchronizationContent :=
  { webReport block block with ingressRules := [⟨some 80, [otherBlock, block], [], some 6⟩] }

/-- The network interface of a machine. -/
def nicOf (machine : CloudResource) : List CloudResource :=
  [⟨.networkInterface, ⟨"nic-" ++ machine.name.name, machine.name.vpc⟩⟩]

/-- A report of the policy's own rules, from a cloud that reports network interfaces. -/
def nicReport : SynchronizationContent :=
  { webReport block otherBlock with members := nicOf ⟨.virtualMachine, ⟨"a", "v1"⟩⟩ }

/-- The index of machines by their names in the cloud is not there. -/
def webUnindexed : Reconciler :=
  { web with env := { web.env with listByCloudName := fun _ => .error .other } }

end Sample

/-- Two rules for different ports are left alone by a sync that finds them in the cloud. -/
theorem right_sync_is_quiescent :
    HoldsRules (Sample.webReport Sample.block Sample.otherBlock)
        ((Sample.web.sync 0 (some (Sample.webReport Sample.block
          Sample.otherBlock))).appliedPolicies 0) ∧
      (Sample.web.sync 0 (some (Sample.webReport Sample.block Sample.otherBlock))).inFlight =
        Sample.web.inFlight := by
  have holds : HoldsRules (Sample.webReport Sample.block Sample.otherBlock)
      ((Sample.web.sync 0 (some (Sample.webReport Sample.block
        Sample.otherBlock))).appliedPolicies 0) :=
    ⟨⟨fun _ => 0, by decide +kernel⟩, fun _ => 0, by decide +kernel⟩
  exact ⟨holds, (sync_is_quiescent Sample.nicOf (by decide +kernel) (by decide +kernel) (.refl _)
    holds ⟨by decide +kernel, by decide +kernel, .inl (by decide +kernel)⟩).mpr
      (.inr (.inr ⟨.inl (by decide +kernel), by decide +kernel⟩))⟩

/--
Two rules for the same port are sent again by every sync that finds them merged.  A report of
network interfaces has the members sent again, because the index that they are looked up in
is not there.
-/
theorem merged_sync_is_not_quiescent :
    (HoldsRules Sample.sharedReport
        ((Sample.sharedPort.sync 0 (some Sample.sharedReport)).appliedPolicies 0) ∧
      ReportsMembers Sample.nicOf (Sample.sharedPort.objects 0).members
        Sample.sharedReport.members ∧
      (Sample.sharedPort.sync 0 (some Sample.sharedReport)).inFlight ≠
        Sample.sharedPort.inFlight) ∧
    HoldsRules Sample.nicReport
        ((Sample.webUnindexed.sync 0 (some Sample.nicReport)).appliedPolicies 0) ∧
      ReportsMembers Sample.nicOf (Sample.webUnindexed.objects 0).members
        Sample.nicReport.members ∧
      (Sample.webUnindexed.sync 0 (some Sample.nicReport)).inFlight ≠
        Sample.webUnindexed.inFlight :=
  ⟨⟨⟨⟨fun _ => 0, by decide +kernel⟩, fun _ => 0, by decide +kernel⟩,
      ⟨by decide +kernel, by decide +kernel, .inl (by decide +kernel)⟩, by decide +kernel⟩,
    ⟨⟨fun _ => 0, by decide +kernel⟩, fun _ => 0, by decide +kernel⟩,
    ⟨by decide +kernel, by decide +kernel, .inr (by decide +kernel)⟩, by decide +kernel⟩

end Nephe
