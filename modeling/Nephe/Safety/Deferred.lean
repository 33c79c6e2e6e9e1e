import Nephe.SecurityGroup.Counts
import Nephe.Safety.Rules

/-!
# Deferred deletions

A group that is deleted while a policy refers to it is only marked.  The policy
event that takes away the last reference has to delete it.  Inside such an event
some marked groups are without a reference: the event still owes them a
notification.
-/

namespace Nephe

open Library

/-! ## References -/

/-- The groups of one kind that a policy refers to. -/
def NetworkPolicy.groups (policy : NetworkPolicy) (membershipOnly : Bool) : List String :=
  if membershipOnly then policy.addressGroups else policy.appliedToGroups

/-- Some policy refers to the group of the kind with the name. -/
def Core.Mentions (core : Core) (membershipOnly : Bool) (name : String) : Prop :=
  ∃ key policy, core.networkPolicyIndexer.get? key = some policy ∧
    name ∈ policy.groups membershipOnly

theorem Core.policiesOf_ne_nil {core : Core} {group : SecurityGroup} :
    core.policiesOf group ≠ [] ↔ core.Mentions group.membershipOnly group.id.name := by
  have filtered (refers : NetworkPolicy → Bool) :
      (core.networkPolicyIndexer.bindings.filter fun entry => refers entry.2) ≠ [] ↔
        ∃ key policy, core.networkPolicyIndexer.get? key = some policy ∧ refers policy = true := by
    simp only [ne_eq, List.filter_eq_nil_iff, not_forall]
    constructor
    · rintro ⟨⟨key, policy⟩, bound, refersTo⟩
      exact ⟨key, policy, (GoMap.mem_bindings _ _ _).mp bound, by simpa using refersTo⟩
    · rintro ⟨key, policy, found, refersTo⟩
      exact ⟨(key, policy), (GoMap.mem_bindings _ _ _).mpr found, by simpa using refersTo⟩
  unfold policiesOf Mentions NetworkPolicy.groups
  split
  · refine (filtered fun policy => policy.addressGroups.contains group.id.name).trans ?_
    simp only [List.contains_eq_mem, decide_eq_true_eq]
  · refine (filtered fun policy => policy.appliedToGroups.contains group.id.name).trans ?_
    simp only [List.contains_eq_mem, decide_eq_true_eq]

variable {o : Origin} {r r' : Reconciler} {older : List Observation} {x : Observation}

/-- Only policy events change what the policies refer to. -/
theorem Core.Mentions.effect {membershipOnly : Bool} {name : String}
    (mentions : r.Mentions membershipOnly name) (effect : Effect o r r')
    (other : o ≠ .policy none) :
    r'.Mentions membershipOnly name := by
  obtain ⟨key, policy, found, refers⟩ := mentions
  have same := effect.references other key
  rw [found, Option.map_some, Option.map_eq_some_iff] at same
  obtain ⟨policy', found', same⟩ := same
  have rules : policy'.rules = policy.rules := congrArg Prod.snd same
  have applied : policy'.appliedToGroups = policy.appliedToGroups := congrArg Prod.fst same
  refine ⟨key, policy', found', ?_⟩
  simpa only [NetworkPolicy.groups, NetworkPolicy.addressGroups, rules, applied] using refers

/-! ## Marked groups -/

/-- A group is marked for deletion when a policy refers to it. -/
theorem Effect.deletePending_source (effect : Effect o r r') {c : Ref} (allocated : c < r.nextRef)
    (marked : (r'.objects c).deletePending = true) :
    (r.objects c).deletePending = true ∨
      (Deletes o r.toCore c ∧ r.policiesOf (r.objects c) ≠ [] ∧ r.Untracked c ∧
        r' = r.markDeletePending c) := by
  rcases effect.objects c with same | rewritten
  · rw [same] at marked
    exact .inl marked
  · generalize r'.objects c = value at rewritten marked
    cases rewritten with
    | allocate group new => exact absurd allocated (new ▸ lt_irrefl _)
    | deletePending deletes networked alive referenced untracked after =>
      exact .inr ⟨deletes, referenced, untracked, after⟩
    | answerItem d op err =>
      rw [SecurityGroup.updatePendingItem_keeps (·.deletePending) op _ fun _ _ => rfl] at marked
      exact .inl marked
    | _ => exact .inl marked

/--
Every indexed group that is marked for deletion is referred to by a policy, or
is owed a notification.
-/
def PendingOwed (owed : Ref → Bool → String → Prop) (r : Reconciler) : Prop :=
  ∀ c, r.Indexed c → (r.objects c).deletePending = true →
    r.Mentions (r.objects c).membershipOnly (r.objects c).id.name ∨
      owed c (r.objects c).membershipOnly (r.objects c).id.name

namespace PendingOwed

variable {owed owed' : Ref → Bool → String → Prop} {o : Origin} {r r' : Reconciler}

theorem mono (pending : PendingOwed owed r)
    (included : ∀ c, r.Indexed c → owed c (r.objects c).membershipOnly (r.objects c).id.name →
      owed' c (r.objects c).membershipOnly (r.objects c).id.name) : PendingOwed owed' r :=
  fun c indexed marked => (pending c indexed marked).imp_right (included c indexed)

/-- Outside of the changes of policies, a marked group keeps its reference. -/
theorem effect (pending : PendingOwed owed r) (base : Base r.toCore) (noOrphans : NoOrphans r)
    (effect : Effect o r r') (other : o ≠ .policy none) : PendingOwed owed r' := by
  intro c indexed' marked'
  have before : r.Indexed c ∧ ((r.objects c).deletePending = true ∨
      r.policiesOf (r.objects c) ≠ []) := by
    rcases effect.indexed_source base indexed' with indexed | ⟨new, _, rfl⟩ |
        ⟨rfl, queued, retries⟩
    · exact ⟨indexed, (effect.deletePending_source (base.allocated indexed) marked').imp_right
        fun marks => marks.2.1⟩
    · rcases effect.deletePending_source new.allocated marked' with marked | ⟨deletes, _⟩
      · exact absurd (new.clean.deletePending.symm.trans marked) (by simp)
      · exact deletes.elim
    · have indexed := noOrphans c queued retries
      exact ⟨indexed, (effect.deletePending_source (base.allocated indexed) marked').imp_right
        fun marks => marks.2.1⟩
  obtain ⟨indexed, marked⟩ := before
  obtain ⟨sameKind, sameId⟩ := effect.static (base.allocated indexed)
  rw [sameKind, sameId]
  rcases marked with marked | referenced
  · exact (pending c indexed marked).imp_left fun mentions => mentions.effect effect other
  · exact .inl ((Core.policiesOf_ne_nil.mp referenced).effect effect other)

/-- The same along a sequence of effects, in which no orphan appears. -/
theorem effects {allowed : Origin → Prop} (pending : PendingOwed owed r) (base : Base r.toCore)
    (noOrphans : NoOrphans r) (effects : Effects allowed r r')
    (other : ∀ o, allowed o → o ≠ .policy none)
    (listed : ∀ o, allowed o → ∀ c message, o ≠ .response c .add (some message)) :
    NoOrphans r' ∧ PendingOwed owed r' := by
  refine effects.along (fun r => NoOrphans r ∧ PendingOwed owed r)
    (fun o before after chain permitted effect known => ?_) ⟨noOrphans, pending⟩
  have base' := base.effects chain
  exact ⟨known.1.effect base' effect fun c message origin =>
      absurd origin (listed o permitted c message),
    known.2.effect base' known.1 effect (other o permitted)⟩

theorem reorder (pending : PendingOwed owed r) (order : Supply) :
    PendingOwed owed { r with order } :=
  pending

variable {more : Ref → Bool → String → Prop}

theorem setPolicy (pending : PendingOwed owed r) {key : String} (policy' : NetworkPolicy)
    (lost : ∀ policy, r.networkPolicyIndexer.get? key = some policy → ∀ c membershipOnly name,
      name ∈ policy.groups membershipOnly →
        name ∈ policy'.groups membershipOnly ∨ more c membershipOnly name) :
    PendingOwed (fun c kind name => owed c kind name ∨ more c kind name)
      (r.setPolicy key policy') := by
  intro c indexed marked
  have written (other : String) : (r.setPolicy key policy').networkPolicyIndexer.get? other =
      if other = key then some policy' else r.networkPolicyIndexer.get? other :=
    GoMap.get?_set _ _ _ _
  rcases pending c indexed marked with ⟨other, policy, found, refers⟩ | due
  · by_cases same : other = key
    · subst same
      rcases lost policy found c _ _ refers with still | due
      · exact .inl ⟨other, policy', (written other).trans (if_pos rfl), still⟩
      · exact .inr (.inr due)
    · exact .inl ⟨other, policy, (written other).trans ((if_neg same).trans found), refers⟩
  · exact .inr (.inl due)

theorem removePolicy (pending : PendingOwed owed r) (key : String)
    (lost : ∀ policy, r.networkPolicyIndexer.get? key = some policy → ∀ c membershipOnly name,
      name ∈ policy.groups membershipOnly → more c membershipOnly name) :
    PendingOwed (fun c kind name => owed c kind name ∨ more c kind name)
      { r with networkPolicyIndexer := r.networkPolicyIndexer.remove key } := by
  intro c indexed marked
  rcases pending c indexed marked with ⟨other, policy, found, refers⟩ | due
  · by_cases same : other = key
    · subst same
      exact .inr (.inr (lost policy found c _ _ refers))
    · exact .inl ⟨other, policy, (GoMap.get?_remove _ _ _).trans ((if_neg same).trans found),
        refers⟩
  · exact .inr (.inl due)

end PendingOwed

/-! ## Notifications -/

namespace Reconciler

variable {r : Reconciler} {c : Ref}

variable {new : Ref → Prop} {lost : String → Prop} {r' : Reconciler}
  {owed : Ref → Bool → String → Prop} {key : String} {policy : NetworkPolicy}

/-- Trackers and iteration orders have no part in what the indexers and policies hold. -/
theorem policiesOf_of_quiet (quiet : Quiet new lost r r') :
    r'.objects = r.objects ∧ (∀ group, r'.policiesOf group = r.policiesOf group) := by
  obtain ⟨trackers, order, rfl, _⟩ := quiet
  exact ⟨rfl, fun _ => rfl⟩

theorem not_indexed_indexerDelete : ¬ (r.indexerDelete c).Indexed c := by
  intro indexed
  have gone := r.get?_indexerDelete c (r.objects c).membershipOnly (r.objects c).id.string
  rw [if_pos ⟨rfl, rfl⟩] at gone
  exact absurd (gone.symm.trans indexed) (by simp)

/-- `deleteImpl` takes a group without references out of its indexer. -/
theorem not_indexed_deleteImpl (base : Base r.toCore)
    (alive : (r.objects c).state ≠ .garbageCollectState)
    (unreferenced : r.policiesOf (r.objects c) = []) : ¬ (r.deleteImpl c).Indexed c := by
  rw [deleteImpl_of_alive base alive, if_neg (not_not.mpr unreferenced)]
  split
  · exact not_indexed_deleted (.inl rfl)
  · exact not_indexed_deleted (.inr rfl)

theorem not_indexed_delete (base : Base r.toCore)
    (alive : (r.objects c).state ≠ .garbageCollectState)
    (unreferenced : r.policiesOf (r.objects c) = []) : ¬ (r.delete c).Indexed c := by
  simp only [delete]
  split
  · split
    · exact not_indexed_indexerDelete
    · exact not_indexed_deleteImpl base alive unreferenced
  · split
    · have untracked := (untrack_spec (c := c) (r.objects c).members r).1
      have base' := base.effects
        (untracked.effects (.event "" false) (fun _ => False.elim) (.inl ⟨"", rfl⟩))
      obtain ⟨objects, policies⟩ := policiesOf_of_quiet untracked
      exact not_indexed_deleteImpl base' (by rw [objects]; exact alive)
        (by rw [objects, policies]; exact unreferenced)
    · exact not_indexed_deleteImpl base alive unreferenced

/-- `updateRules` does not mark a group. -/
theorem deletePending_updateRules (allocated : c < r.nextRef)
    (kind : (r.objects c).membershipOnly = false) (indexed : r.Indexed c)
    (current : (r.objects c).deletePending = false) :
    ((r.updateRules c).objects c).deletePending = false := by
  have effects : Effects (· = .policy (some c)) r (r.updateRules c) :=
    updateRules_effects allocated kind ⟨rfl, indexed⟩
  refine (effects.invariant
    (fun r => c < r.nextRef ∧ (r.objects c).deletePending = false) ?_ ⟨allocated, current⟩).2
  rintro _ before after rfl effect ⟨allocated, current⟩
  refine ⟨allocated.trans_le effect.nextRef_le, ?_⟩
  by_contra marked
  rcases effect.deletePending_source allocated (by simpa using marked) with old | ⟨deletes, _⟩
  · exact absurd (current.symm.trans old) (by simp)
  · exact absurd (current.symm.trans deletes.2.2) (by simp)

/-- After its notification a marked group is referred to, or is not indexed any more. -/
theorem mentions_notifyNetworkPolicyChange (base : Base r.toCore) (indexed : r.Indexed c)
    (indexed' : (r.notifyNetworkPolicyChange c).Indexed c)
    (marked : ((r.notifyNetworkPolicyChange c).objects c).deletePending = true) :
    (r.notifyNetworkPolicyChange c).Mentions
      ((r.notifyNetworkPolicyChange c).objects c).membershipOnly
      ((r.notifyNetworkPolicyChange c).objects c).id.name := by
  have alive := base.alive c indexed
  by_cases gone : r.policiesOf (r.objects c) = [] ∧ (r.objects c).deletePending = true
  · -- The notification deletes the group.
    have deleted : r.notifyNetworkPolicyChange c = r.delete c := by
      obtain ⟨unreferenced, pending⟩ := gone
      unfold Core.policiesOf at unreferenced
      unfold notifyNetworkPolicyChange
      split at unreferenced
      next kind => simp [kind, pending, unreferenced]
      next kind => simp [kind, pending, unreferenced]
    rw [deleted] at indexed'
    exact absurd indexed' (not_indexed_delete base alive gone.1)
  · by_cases pending : (r.objects c).deletePending = true
    · have referenced : r.policiesOf (r.objects c) ≠ [] := fun none_ => gone ⟨none_, pending⟩
      have same : r.notifyNetworkPolicyChange c = r := by
        have referenced' := referenced
        unfold Core.policiesOf at referenced'
        unfold notifyNetworkPolicyChange
        split at referenced'
        next kind => simp [kind, pending, referenced']
        next kind => simp [kind, pending, referenced']
      rw [same]
      exact Core.policiesOf_ne_nil.mp referenced
    · -- A group that is not marked is not marked by its notification.
      have current : (r.objects c).deletePending = false := by simpa using pending
      exfalso
      unfold notifyNetworkPolicyChange at marked
      cases kind : (r.objects c).membershipOnly with
      | true =>
        simp only [kind, current, Bool.not_false, if_true] at marked
        exact absurd marked (by simp)
      | false =>
        simp only [kind, current, Bool.not_false, Bool.false_eq_true, and_false, if_false,
          if_true] at marked
        rw [deletePending_updateRules (base.allocated indexed) kind indexed current] at marked
        cases marked

/-- Notifying objects settles what is owed to them. -/
theorem pendingOwed_notifyAll {list : List Ref} (base : Base r.toCore) (noOrphans : NoOrphans r)
    (distinct : list.Nodup) (indexed : ∀ c ∈ list, r.Indexed c)
    (pending : PendingOwed (fun c kind name => owed c kind name ∨ c ∈ list) r) :
    let r' := list.foldl (fun r c => r.notifyNetworkPolicyChange c) r
    Base r'.toCore ∧ NoOrphans r' ∧ PendingOwed owed r' := by
  induction list generalizing r with
  | nil =>
    refine ⟨base, noOrphans, pending.mono fun c _ due => ?_⟩
    exact due.resolve_right List.not_mem_nil
  | cons head tail induction =>
    obtain ⟨fresh, distinct⟩ := List.nodup_cons.mp distinct
    have here := indexed head List.mem_cons_self
    have effects := notifyNetworkPolicyChange_effects base here
    have base' := base.effects effects
    obtain ⟨noOrphans', pending'⟩ := pending.effects base noOrphans effects
      (by rintro _ rfl; simp) (by rintro _ rfl; simp)
    refine induction base' noOrphans' distinct (fun c inTail => ?_) fun c stays marked => ?_
    · refine base.indexed_effects effects (indexed c (List.mem_cons_of_mem _ inTail)) ?_
      rintro _ rfl
      exact ⟨fun same => fresh (Option.some.inj same ▸ inTail), by simp [Origin.IsRetry]⟩
    · rcases pending' c stays marked with mentions | due | inList
      · exact .inl mentions
      · exact .inr (.inl due)
      · rcases List.mem_cons.mp inList with rfl | inTail
        · exact .inl (mentions_notifyNetworkPolicyChange base here stays marked)
        · exact .inr (.inr inTail)

theorem mem_groupsByName (indexed : r.Indexed c) :
    c ∈ r.groupsByName (r.objects c).membershipOnly (r.objects c).id.name :=
  List.mem_filter.mpr ⟨(GoMap.mem_values _ _).mpr ⟨_, indexed⟩, by simp⟩

/-- Notifying the groups with the names settles what is owed to them. -/
theorem pendingOwed_notifyGroups (base : Base r.toCore) (noOrphans : NoOrphans r)
    (membershipOnly : Bool) (names : List String)
    (pending : PendingOwed (fun c kind name => owed c kind name ∨
      (kind = membershipOnly ∧ name ∈ names)) r) :
    NoOrphans (r.notifyGroups membershipOnly names) ∧
      PendingOwed owed (r.notifyGroups membershipOnly names) := by
  induction names generalizing r with
  | nil =>
    refine ⟨noOrphans, pending.mono fun c _ due => due.resolve_right ?_⟩
    exact fun none_ => absurd none_.2 List.not_mem_nil
  | cons name rest induction =>
    -- What is owed to the groups with the first name is owed to the objects visited.
    have visited : PendingOwed (fun c kind other => (owed c kind other ∨
        (kind = membershipOnly ∧ other ∈ rest)) ∨
          c ∈ arrange (r.order 0) (r.groupsByName membershipOnly name)) r.advance := by
      refine (pending.reorder r.order.tail).mono fun c indexed due => ?_
      rcases due with due | ⟨kind, inNames⟩
      · exact .inl (.inl due)
      · rcases List.mem_cons.mp inNames with same | inRest
        · refine .inr ((mem_arrange _ _ _).mpr ?_)
          rw [← kind, ← same]
          exact mem_groupsByName indexed
        · exact .inl (.inr ⟨kind, inRest⟩)
    have base' : Base r.advance.toCore := (Effect.order (o := .start) r.order.tail).base base
    obtain ⟨base', noOrphans', pending'⟩ := pendingOwed_notifyAll base' noOrphans
      ((arrange_perm _ _).nodup_iff.mpr (base.nodup_groupsByName membershipOnly name))
      (fun c member => (base.groupsByName ((mem_arrange _ _ _).mp member)).1) visited
    exact induction base' noOrphans' pending'

/-! ## Policy events -/

/-- The state in which nothing is owed. -/
def Settled (r : Reconciler) : Prop :=
  NoOrphans r ∧ PendingOwed (fun _ _ _ => False) r

theorem settled_of_quiet (settled : Settled r) (quiet : Quiet new lost r r') : Settled r' := by
  obtain ⟨trackers, order, rfl, _⟩ := quiet
  exact settled

/-- Once the groups of both kinds that have lost a reference are notified, nothing is owed. -/
theorem settled_notify {owed : Bool → String → Prop} (base : Base r.toCore)
    (noOrphans : NoOrphans r) (pending : PendingOwed (fun _ => owed) r) (first : Bool)
    {names others : List String} (here : ∀ name, owed first name → name ∈ names)
    (there : ∀ name, owed (!first) name → name ∈ others) :
    Settled ((r.notifyGroups first names).notifyGroups (!first) others) := by
  have both : PendingOwed (fun _ kind name => (False ∨ (kind = !first ∧ name ∈ others)) ∨
      (kind = first ∧ name ∈ names)) r := by
    refine pending.mono fun c _ due => ?_
    by_cases kind : (r.objects c).membershipOnly = first
    · exact .inr ⟨kind, here _ (kind ▸ due)⟩
    · have kind : (r.objects c).membershipOnly = !first := Bool.eq_not_of_ne kind
      exact .inl (.inr ⟨kind, there _ (kind ▸ due)⟩)
  obtain ⟨noOrphans', pending'⟩ := pendingOwed_notifyGroups base noOrphans first names both
  exact pendingOwed_notifyGroups (base.effects (notifyGroups_effects base first names))
    noOrphans' (!first) others pending'

theorem settled_notifyApplied (base : Base r.toCore) (settled : Settled r)
    (applied : List String) : Settled (r.notifyGroups false applied) :=
  pendingOwed_notifyGroups base settled.1 false applied
    (settled.2.mono fun _ _ => False.elim)

theorem groups_computeRules (policy : NetworkPolicy) (core : Core) (supply : Supply)
    (membershipOnly : Bool) :
    (policy.computeRules core supply).groups membershipOnly = policy.groups membershipOnly := by
  have same := policy.references_computeRules core supply
  have rules : (policy.computeRules core supply).rules = policy.rules := congrArg Prod.snd same
  have applied : (policy.computeRules core supply).appliedToGroups = policy.appliedToGroups :=
    congrArg Prod.fst same
  simp only [NetworkPolicy.groups, NetworkPolicy.addressGroups, rules, applied]

theorem settled_recomputePolicy (base : Base r.toCore) (settled : Settled r) (key : String) :
    Settled (r.recomputePolicy key) := by
  simp only [recomputePolicy]
  split
  · exact settled
  next policy found =>
    have pending : PendingOwed (fun _ _ _ => False ∨ False) (r.computePolicyRules key policy) :=
      (settled.2.reorder r.order.right).setPolicy (policy.computeRules r.toCore r.order.left)
        fun stored there c kind name refers => by
          cases found.symm.trans there
          rw [groups_computeRules]
          exact .inl refers
    have computed : Settled (r.computePolicyRules key policy) :=
      ⟨settled.1, pending.mono fun _ _ => or_self_iff.mp⟩
    have base' := base.effects (computePolicyRules_effects (o := .start) found)
    split
    · exact computed
    · split
      · exact settled_notifyApplied base' computed _
      · exact computed

theorem settled_markPolicyDirty (base : Base r.toCore) (settled : Settled r)
    (found : r.networkPolicyIndexer.get? key = some policy) {groups : List String} :
    Base (r.markPolicyDirty groups).toCore ∧ Settled (r.markPolicyDirty groups) ∧
      (r.markPolicyDirty groups).networkPolicyIndexer.get? key = some policy := by
  have dirty := quiet_markPolicyDirty (r := r) groups
  refine ⟨base.effects (dirty.mark_effects .start), settled_of_quiet settled dirty, ?_⟩
  obtain ⟨_, _, same, _⟩ := dirty
  rw [same]
  exact found

theorem settled_deletePolicy (base : Base r.toCore) (settled : Settled r)
    (found : r.networkPolicyIndexer.get? key = some policy) :
    Settled (r.deletePolicy key policy) := by
  obtain ⟨base₁, settled₁, found₁⟩ := settled_markPolicyDirty base settled found
  simp only [deletePolicy]
  generalize r.markPolicyDirty policy.appliedToGroups = r₁ at base₁ settled₁ found₁
  have removing : Effect (.policy none) r₁ _ := .removePolicy key
  have pending : PendingOwed (fun _ kind name => False ∨ name ∈ policy.groups kind) _ :=
    settled₁.2.removePolicy key fun stored there c kind name refers => by
      cases found₁.symm.trans there
      exact refers
  exact settled_notify (removing.base base₁) settled₁.1 pending false
    (fun _ refers => refers.resolve_left id) fun _ refers => refers.resolve_left id

/-- An address group that is in the old rules only is removed. -/
theorem mem_removed_of_lost {code : Nat} {rules : List NetworkPolicyRule} {name : String}
    (refers : name ∈ policy.groups true)
    (lost : name ∉ { policy with rules := rules }.groups true) :
    name ∈ (diffAddressGrp code policy.rules rules).2 := by
  have listed (policy : NetworkPolicy) : name ∈ policy.groups true ↔
      name ∈ policy.rules.flatMap NetworkPolicyRule.peerGroups := by
    simp only [NetworkPolicy.groups, NetworkPolicy.addressGroups, NetworkPolicyRule.peerGroups,
      if_true, List.mem_flatMap, List.mem_append]
    simp only [or_comm]
  rw [mem_diffAddressGrp_removed, List.count_eq_zero.mpr fun there => lost ((listed _).mpr there)]
  exact List.count_pos_iff.mpr ((listed policy).mp refers)

/-- The names that a policy loses with its old rules are returned. -/
theorem pendingOwed_updatePolicyRules (settled : Settled r) (anp : AntreaNetworkPolicy)
    (found : r.networkPolicyIndexer.get? key = some policy) :
    NoOrphans (r.updatePolicyRules key anp policy).2.2.2 ∧
      PendingOwed (fun _ kind name => False ∨
          (kind = true ∧ name ∈ (r.updatePolicyRules key anp policy).1))
        (r.updatePolicyRules key anp policy).2.2.2 := by
  simp only [updatePolicyRules]
  split
  · exact ⟨settled.1, settled.2.mono fun _ _ => .inl⟩
  next =>
    refine ⟨settled.1, ((settled.2.reorder r.order.tail).reorder _).setPolicy _ ?_⟩
    intro stored there c kind name refers
    cases found.symm.trans there
    rw [groups_computeRules]
    cases kind with
    | false => exact .inl refers
    | true =>
      refine or_iff_not_imp_left.mpr fun lost => ⟨rfl, ?_⟩
      exact mem_removed_of_lost refers lost

/-- The names that a policy loses with its old appliedTo groups are returned. -/
theorem pendingOwed_updatePolicyAppliedTo {owed : Bool → String → Prop} (noOrphans : NoOrphans r)
    (pending : PendingOwed (fun _ => owed) r) (anp : AntreaNetworkPolicy)
    (found : r.networkPolicyIndexer.get? key = some policy) :
    NoOrphans (r.updatePolicyAppliedTo key anp policy).2.2.2 ∧
      PendingOwed (fun _ kind name => owed kind name ∨
          (kind = false ∧ name ∈ (r.updatePolicyAppliedTo key anp policy).2.1))
        (r.updatePolicyAppliedTo key anp policy).2.2.2 := by
  simp only [updatePolicyAppliedTo]
  split
  · exact ⟨noOrphans, pending.mono fun _ _ => .inl⟩
  next =>
    refine ⟨noOrphans, (pending.reorder r.order.tail).setPolicy _ ?_⟩
    intro stored there c kind name refers
    cases found.symm.trans there
    cases kind with
    | true => exact .inl refers
    | false =>
      refine or_iff_not_imp_left.mpr fun lost => ⟨rfl, ?_⟩
      have lost : name ∉ anp.appliedToGroups := lost
      rw [mem_diffAppliedToGrp_removed, List.count_eq_zero.mpr lost]
      exact List.count_pos_iff.mpr refers

theorem settled_updatePolicy (base : Base r.toCore) (settled : Settled r)
    (anp : AntreaNetworkPolicy) (found : r.networkPolicyIndexer.get? key = some policy) :
    Settled (r.updatePolicy key anp policy) := by
  obtain ⟨base₁, settled₁, found₁⟩ := settled_markPolicyDirty base settled found
  simp only [updatePolicy]
  generalize r.markPolicyDirty policy.appliedToGroups = r₁ at base₁ settled₁ found₁
  obtain ⟨rules, found₂⟩ := updatePolicyRules_effects anp found₁
  obtain ⟨noOrphans₂, pending₂⟩ := pendingOwed_updatePolicyRules settled₁ anp found₁
  have base₂ := base₁.effects rules
  generalize r₁.updatePolicyRules key anp policy = result at base₂ found₂ noOrphans₂ pending₂
  obtain ⟨removedAddr, modified, policy₂, r₂⟩ := result
  have base₃ := base₂.effects (updatePolicyAppliedTo_effects anp found₂)
  obtain ⟨noOrphans₃, pending₃⟩ :=
    pendingOwed_updatePolicyAppliedTo noOrphans₂ pending₂ anp found₂
  generalize r₂.updatePolicyAppliedTo key anp policy₂ = result at base₃ noOrphans₃ pending₃
  obtain ⟨added, removed, policy₃, r₃⟩ := result
  refine settled_of_quiet ?_ (quiet_markPolicyDirty policy₃.appliedToGroups)
  refine settled_notify base₃ noOrphans₃ pending₃ true ?_ ?_
  · rintro name ((due | ⟨_, inRemoved⟩) | ⟨other, _⟩)
    · exact due.elim
    · exact inRemoved
    · cases other
  · rintro name ((due | ⟨other, _⟩) | ⟨_, inRemoved⟩)
    · exact due.elim
    · cases other
    · exact List.mem_append_left _ (List.mem_append_right _ inRemoved)

/-- A policy event notifies every group that loses a reference. -/
theorem settled_processPolicyEvent (base : Base r.toCore) (settled : Settled r)
    (type : EventType) (anp : AntreaNetworkPolicy) : Settled (r.processPolicyEvent type anp) := by
  simp only [processPolicyEvent]
  split
  · exact settled
  · generalize recoverName anp = anp
    generalize (NamespacedName.mk anp.namespace anp.name).string = key
    split
    next absent =>
      have adding : Effect (.policy none) r (r.setPolicy key (.ofAntrea anp)) :=
        .newPolicy key _ absent ⟨rfl, rfl⟩ rfl
      have pending : PendingOwed (fun _ _ _ => False ∨ False)
          (r.setPolicy key (.ofAntrea anp)) :=
        settled.2.setPolicy _ fun stored there => absurd (absent.symm.trans there) (by simp)
      have added : Settled (r.setPolicy key (.ofAntrea anp)) :=
        ⟨settled.1, pending.mono fun _ _ => or_self_iff.mp⟩
      split
      · exact settled_deletePolicy (adding.base base) added (GoMap.get?_set_self _ _ _)
      · exact settled_recomputePolicy (adding.base base) added key
    next policy found =>
      split
      · exact settled_deletePolicy base settled found
      · split
        · exact settled
        · exact settled_updatePolicy base settled anp found

end Reconciler

/-! ## Steps -/

/-- A step leaves nothing owed. -/
theorem settled_step {s : System} {label : Label} (base : Base s.reconciler.toCore)
    (allowed : FailsListed s label) (settled : s.reconciler.Settled) :
    (s.step label).reconciler.Settled := by
  by_cases policyEvent : ∃ type anp, label.event = .networkPolicy type anp
  · obtain ⟨type, anp, event⟩ := policyEvent
    cases running : s.reconciler.panicked with
    | true =>
      rw [s.step_panicked label running]
      exact settled
    | false =>
      have entered : (s.reconciler.enter label).Settled := settled
      have base' : Base (s.reconciler.enter label).toCore :=
        (Effect.enter label.env label.order).base base
      simp only [System.step, running, event, Bool.false_eq_true, if_false, Reconciler.handle]
      split
      · exact entered
      · simp only [Reconciler.processNetworkPolicy]
        split
        · refine entered.2.effects base' entered.1
            (Reconciler.processBookMark_effects base') ?_ ?_
          · rintro _ (rfl | rfl | ⟨c, rfl⟩) <;> simp
          · rintro _ (rfl | rfl | ⟨c, rfl⟩) <;> simp
        · exact Reconciler.settled_processPolicyEvent base' entered type anp
  · refine settled.1.step_along base allowed (PendingOwed fun _ _ _ => False)
      (fun o r r' _ origin base' noOrphans effect pending => ?_) settled.2
    refine pending.effect base' noOrphans effect ?_
    rintro rfl
    exact policyEvent (Origin.policy_of_step origin)

/-! ## The first delete of an object -/

/-- The action asks the cloud to delete the group of the object. -/
def Action.DeletesGroup (c : Ref) : Action → Prop
  | .call d (.deleteSecurityGroup _ _) => d = c
  | _ => False

/-- When the first delete of an object is sent, no policy refers to its group. -/
def FirstDeletesFree (record : List Observation) : Prop :=
  ∀ newer x older, record = newer ++ x :: older → ∀ c, x.action.DeletesGroup c →
    (∀ y ∈ older, ¬ y.action.DeletesGroup c) → x.before.policiesOf (x.before.objects c) = []

theorem FirstDeletesFree.cons (before : FirstDeletesFree older)
    (first : ∀ c, x.action.DeletesGroup c →
      (∀ y ∈ older, ¬ y.action.DeletesGroup c) →
      x.before.policiesOf (x.before.objects c) = []) : FirstDeletesFree (x :: older) := by
  intro newer y rest split
  cases newer with
  | nil =>
    cases split
    exact first
  | cons head tail => exact before tail y rest (List.cons.inj split).2

theorem FirstDeletesFree.other (before : FirstDeletesFree older)
    (other : ∀ c, ¬ x.action.DeletesGroup c) : FirstDeletesFree (x :: older) :=
  before.cons fun c deletes => absurd deletes (other c)

/-- An object that is garbage has been deleted, for the first time without references. -/
structure DeletesRecorded (r : Reconciler) : Prop where
  garbage : ∀ c, (r.objects c).state = .garbageCollectState →
    ∃ y ∈ r.observed, y.action.DeletesGroup c
  first : FirstDeletesFree r.observed

theorem deletesRecorded_setup : DeletesRecorded Reconciler.setup where
  garbage _ garbage := nomatch garbage
  first newer _ _ split := by cases newer <;> cases split

theorem Effect.deletesRecorded (effect : Effect o r r') (before : DeletesRecorded r) :
    DeletesRecorded r' where
  garbage c garbage := by
    rcases effect.garbage_source garbage with old | rfl
    · obtain ⟨y, member, deletes⟩ := before.garbage c old
      exact ⟨y, effect.observed_mono member, deletes⟩
    · obtain ⟨core, observed, _⟩ := r.observed_beginDelete c
      rw [observed]
      exact ⟨_, List.mem_cons_self, (rfl : c = c)⟩
  first := by
    cases effect with
    | listen | finished | startRetry | retryAddEarly | create | pushMembers | pushNoMembers
    | pushRules => exact before.first.other fun _ => id
    | beginDelete c allocated deletes networked alive unreferenced =>
      obtain ⟨core, observed, _, policies⟩ := r.observed_beginDelete c
      rw [observed]
      refine before.first.cons fun d deletes _ => ?_
      obtain rfl : c = d := deletes
      exact policies.trans unreferenced
    | retryAdd =>
      exact (before.first.other fun _ => id).other fun _ => id
    | retryDelete c allocated queued retries garbage =>
      obtain ⟨core, observed, _⟩ := r.observed_retryDelete c
      rw [observed]
      refine (before.first.other fun _ => id).cons fun d deletes none_ => ?_
      obtain rfl : c = d := deletes
      obtain ⟨y, member, deletes⟩ := before.garbage c garbage
      exact absurd deletes (none_ y (List.mem_cons_of_mem _ member))
    | _ => exact before.first

/-! ## Runs -/

/--
A deferred deletion is neither forgotten nor premature, as long as no creation
fails for an object that has been dropped from its indexer.
-/
theorem deferred_deletion_is_due (cloud : Cloud) (labels : List Label)
    (allowed : Allowed System.step FailsListed (System.initial cloud) labels) :
    let r := (run System.step (System.initial cloud) labels).reconciler
    (∀ c, r.Indexed c → (r.objects c).deletePending = true → r.policiesOf (r.objects c) ≠ []) ∧
      ∀ newer x older, r.observed = newer ++ x :: older → ∀ c, x.action.DeletesGroup c →
        (∀ y ∈ older, ¬ y.action.DeletesGroup c) →
        x.before.policiesOf (x.before.objects c) = [] := by
  intro r
  have settled := (run_effects FailsListed Reconciler.Settled
    (fun s label allowed base settled => settled_step base allowed settled) allowed base_setup
    ⟨noOrphans_setup, fun _ _ marked => nomatch marked⟩).2.2
  have recorded := (run_unconditional DeletesRecorded
    (fun _ _ _ _ effect before => effect.deletesRecorded before) deletesRecorded_setup cloud
    labels).2
  refine ⟨fun c indexed marked => ?_, recorded.first⟩
  exact Core.policiesOf_ne_nil.mpr ((settled c indexed marked).resolve_right id)

namespace Sample

/-- A group is deleted while a policy refers to it. -/
def deferredDeletion : List Event :=
  bookmarks ++
    [.addrGroup .added (.complete "g" [member "a"]), .networkPolicy .added (policy ["g"] ["h"]),
      .addrGroup .deleted (.complete "g" [])]

/--
The creation of a group is sent twice and fails once.  The group is deleted while
a policy refers to it, the policy is deleted, and then the second creation fails.
-/
def forgottenDeletion : List Event :=
  bookmarks ++ [.addrGroup .added (.complete "g" [member "a"]), .cloudSync] ++
    callback 0 (some "denied") ++
    [.networkPolicy .added (policy ["g"] ["h"]), .addrGroup .deleted (.complete "g" []),
      .networkPolicy .deleted (policy ["g"] ["h"])] ++
    callback 0 (some "denied") ++ [.checkToRun]

end Sample

/-- A group that is deleted while a policy refers to it is marked. -/
theorem sample_deletion_is_due :
    let r := (run System.step (System.initial fun _ => none)
      (Sample.steps Sample.deferredDeletion)).reconciler
    (r.Indexed 0 ∧ (r.objects 0).deletePending = true) ∧
      (∀ c, r.Indexed c → (r.objects c).deletePending = true →
        r.policiesOf (r.objects c) ≠ []) ∧
      ∀ newer x older, r.observed = newer ++ x :: older → ∀ c, x.action.DeletesGroup c →
        (∀ y ∈ older, ¬ y.action.DeletesGroup c) →
        x.before.policiesOf (x.before.objects c) = [] :=
  ⟨by decide +kernel, deferred_deletion_is_due _ _ (by decide +kernel)⟩

/-- A late failure puts a forgotten group back, marked and without a policy. -/
theorem forgotten_deletion_is_not_due :
    let r := (run System.step (System.initial fun _ => none)
      (Sample.steps Sample.forgottenDeletion)).reconciler
    ¬ ∀ c, r.Indexed c → (r.objects c).deletePending = true →
      r.policiesOf (r.objects c) ≠ [] := by
  intro r due
  have marked : r.Indexed 0 ∧ (r.objects 0).deletePending = true := by decide +kernel
  have unreferenced : (r.policiesOf (r.objects 0)).length = 0 := by decide +kernel
  exact due 0 marked.1 marked.2 (List.length_eq_zero_iff.mp unreferenced)

end Nephe
