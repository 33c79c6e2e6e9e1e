import Nephe.Safety.Rules

/-!
# Groups that are missing in the cloud

A sync looks at every indexed group, also at those that the cloud does not
report.  It creates such a group only if the group has never been created: once
the cloud has had it, the sync sends its members instead.
-/

namespace Nephe

open Library

/-! ## What a sync leaves alone -/

/-- The objects are spared, and the record of actions only grows. -/
structure Spares (spared : Ref → Prop) (r r' : Reconciler) : Prop where
  objects : ∀ d, spared d → r'.objects d = r.objects d
  allocated : r.nextRef ≤ r'.nextRef
  env : r'.env = r.env
  synced : r.syncedWithCloud = true → r'.syncedWithCloud = true
  observed : ∃ more, r'.observed = more ++ r.observed

namespace Spares

variable {spared fewer : Ref → Prop} {r r' r'' : Reconciler}

theorem refl (r : Reconciler) : Spares spared r r :=
  ⟨fun _ _ => rfl, le_refl _, rfl, id, [], rfl⟩

theorem trans (left : Spares spared r r') (right : Spares spared r' r'') :
    Spares spared r r'' := by
  obtain ⟨more, observed⟩ := left.observed
  obtain ⟨more', observed'⟩ := right.observed
  refine ⟨fun d here => (right.objects d here).trans (left.objects d here),
    left.allocated.trans right.allocated, right.env.trans left.env,
    right.synced ∘ left.synced, more' ++ more, ?_⟩
  rw [observed', observed, List.append_assoc]

theorem mono (included : ∀ d, fewer d → spared d) (spares : Spares spared r r') :
    Spares fewer r r' :=
  { spares with objects := fun d here => spares.objects d (included d here) }

theorem foldl {α : Type} {body : α → Reconciler → Reconciler} {list : List α}
    (pass : ∀ element ∈ list, ∀ r, Spares spared r (body element r)) (r : Reconciler) :
    Spares spared r (list.foldl (fun r element => body element r) r) := by
  induction list generalizing r with
  | nil => exact .refl r
  | cons head tail induction =>
    exact (pass head List.mem_cons_self r).trans
      (induction (fun element member => pass element (List.mem_cons_of_mem _ member)) _)

theorem forRange {α : Type} {body : α → Reconciler → Reconciler} {list : List α}
    (pass : ∀ element ∈ list, ∀ r, Spares spared r (body element r)) (r : Reconciler) :
    Spares spared r (r.forRange list body) := by
  have drawn : Spares spared r r.advance := ⟨fun _ _ => rfl, le_refl _, rfl, id, [], rfl⟩
  exact drawn.trans (.foldl (fun element member =>
    pass element ((mem_arrange _ _ _).mp member)) _)

/-- Trackers and iteration orders are no objects. -/
theorem of_quiet {new : Ref → Prop} {lost : String → Prop} (quiet : Quiet new lost r r') :
    Spares spared r r' := by
  obtain ⟨trackers, order, rfl, _⟩ := quiet
  exact ⟨fun _ _ => rfl, le_refl _, rfl, id, [], rfl⟩

end Spares

namespace Reconciler

variable (r : Reconciler) (c : Ref)

theorem spares_advance (spared : Ref → Prop) : Spares spared r r.advance :=
  ⟨fun _ _ => rfl, le_refl _, rfl, id, [], rfl⟩

theorem spares_assign (change : SecurityGroup → SecurityGroup) :
    Spares (· ≠ c) r (r.assign c change) :=
  ⟨fun _ other => Function.update_of_ne other _ _, le_refl _, rfl, id, [], rfl⟩

theorem spares_issue (spared : Ref → Prop) (call : CloudCall)
    (op : Option SecurityGroupOperation) : Spares spared r (r.issue c call op) :=
  ⟨fun _ _ => rfl, le_refl _, rfl, id, [_], rfl⟩

theorem spares_indexerAdd (spared : Ref → Prop) : Spares spared r (r.indexerAdd c) :=
  ⟨fun _ _ => rfl, le_refl _, rfl, id, [], rfl⟩

theorem spares_addImpl : Spares (· ≠ c) r (r.addImpl c) := by
  have added := r.spares_indexerAdd c (· ≠ c)
  simp only [addImpl]
  split
  · exact added
  · split
    · exact added
    · exact (added.trans (spares_issue _ c _ _ _)).trans (spares_assign _ c _)

theorem spares_updateImpl (added removed : List CloudResource) :
    Spares (· ≠ c) r (r.updateImpl c added removed) := by
  have stored (members : List CloudResource) :
      Spares (· ≠ c) r (r.advance.assign c fun s => { s with members := members }) :=
    (r.spares_advance _).trans (spares_assign _ c _)
  simp only [updateImpl]
  split
  · exact .refl r
  · split
    · exact stored _
    · split
      · exact stored _
      · exact (stored _).trans (spares_issue _ c _ _ _)

theorem spares_updateRules : Spares (· ≠ c) r (r.updateRules c) := by
  have drawn := r.spares_advance (· ≠ c)
  simp only [updateRules]
  split
  · exact .refl r
  · split
    · exact .refl r
    · split
      · split
        · exact drawn.trans (spares_issue _ c _ _ _)
        · exact drawn.trans (spares_assign _ c _)
      · split
        · exact drawn.trans ⟨fun _ _ => rfl, le_refl _, rfl, id, [_], rfl⟩
        · exact drawn

theorem spares_syncPolicies (spared : Ref → Prop) (keys : List String)
    (items : GoMap String Int) : Spares spared r (r.syncPolicies keys items).2 := by
  induction keys generalizing r items with
  | nil => exact .refl r
  | cons key rest induction =>
    have computed (policy : NetworkPolicy) : Spares spared r (r.split.setPolicy key policy) :=
      ⟨fun _ _ => rfl, le_refl _, rfl, id, [], rfl⟩
    simp only [syncPolicies]
    split
    · exact induction r items
    · split
      · exact (computed _).trans (induction _ _)
      · exact computed _

theorem spares_syncRules (content : Option SynchronizationContent) :
    Spares (· ≠ c) r (r.syncRules updateRules c content) := by
  simp only [syncRules, recount]
  generalize arrange (r.order 0) _ = keys
  have counted : Spares (· ≠ c) r (r.advance.syncPolicies keys ∅).2 :=
    (r.spares_advance _).trans (spares_syncPolicies _ _ _ _)
  generalize r.advance.syncPolicies keys ∅ = result at counted
  obtain ⟨items, r'⟩ := result
  cases items with
  | none => exact counted
  | some items =>
    cases content with
    | none => exact counted.trans (spares_updateRules _ c)
    | some content =>
      dsimp only
      split
      · exact counted.trans (spares_updateRules _ c)
      · split
        · refine counted.trans (.trans ?_ (spares_assign _ c _))
          split
          · exact .refl _
          · exact .of_quiet (quiet_markGroupDirty c)
        · exact counted

theorem spares_syncImpl (content : Option SynchronizationContent) :
    Spares (· ≠ c) r (r.syncImpl c content).2 := by
  have noted : Spares (· ≠ c) r (r.noteReported c content) := by
    unfold noteReported
    split
    · exact r.spares_assign c _
    · exact .refl r
  simp only [syncImpl]
  split
  · exact noted
  · split
    · exact noted.trans (spares_updateImpl _ c _ _)
    · exact noted.trans (spares_addImpl _ c)
    · exact noted

theorem spares_sync (content : Option SynchronizationContent) :
    Spares (· ≠ c) r (r.sync c content) := by
  have compared := r.spares_syncImpl c content
  simp only [sync, syncWith, syncMembers]
  split
  · exact .refl r
  · split
    · exact compared
    · refine compared.trans (.trans ?_ (spares_syncRules _ c content))
      split
      · exact spares_assign _ c _
      · exact .refl _

/-- Deleting a group that is not known spares the known ones. -/
theorem spares_deleteUnknown {r : Reconciler} (base : Base r.toCore)
    {content : SynchronizationContent} (reported : content ∈ r.env.syncContents)
    (unknown : (r.indexer content.membershipOnly).get? content.resource.string = none) :
    Spares (· < r.nextRef) r (r.deleteUnknown content) := by
  let made := r.allocate
    { membershipOnly := content.membershipOnly
      id := content.resource
      state := .created }
  have allocated : Spares (· < r.nextRef) r made :=
    ⟨fun d old => Function.update_of_ne old.ne _ _, Nat.le_succ _, rfl, id, [], rfl⟩
  have making : Effect .sync r made :=
    .allocate _ ⟨rfl, rfl, rfl, rfl, rfl, rfl⟩
      (.inr ⟨rfl, rfl, rfl, unknown, content, reported, rfl, rfl⟩)
  have base' := making.base base
  have object : made.objects r.nextRef =
      { membershipOnly := content.membershipOnly, id := content.resource, state := .created } :=
    Function.update_self _ _ _
  have impl : Spares (· ≠ r.nextRef) made (made.deleteImpl r.nextRef) := by
    rw [deleteImpl_of_alive base' (by rw [object]; simp)]
    split
    · exact ⟨fun d other => (made.objects_markDeletePending _ d).trans (if_neg other), le_refl _,
        rfl, id, [], rfl⟩
    · split
      · exact ⟨fun d other => (made.objects_forget _ d).trans (if_neg other), le_refl _, rfl, id,
          [], rfl⟩
      · obtain ⟨before, observed, _⟩ := made.observed_beginDelete r.nextRef
        exact ⟨fun d other => (made.objects_beginDelete _ d).trans (if_neg other), le_refl _, rfl,
          id, [_], observed⟩
  refine allocated.trans (.mono (fun d old => (ne_of_lt old : d ≠ r.nextRef)) ?_)
  change Spares (· ≠ r.nextRef) made (made.delete r.nextRef)
  simp only [delete, object]
  split
  · split
    · exact ⟨fun _ _ => rfl, le_refl _, rfl, id, [], rfl⟩
    · exact impl
  · exact impl

/-- The first loop of a sync spares the known objects. -/
theorem spares_receiveContents {r : Reconciler} (base : Base r.toCore)
    {contents : List SynchronizationContent}
    (reported : ∀ content ∈ contents, content ∈ r.env.syncContents) :
    Spares (· < r.nextRef) r (r.receiveContents contents).2 := by
  suffices loop : ∀ known : List SynchronizationContent, Spares (· < r.nextRef) r
      (contents.foldl (fun (state : List SynchronizationContent × Reconciler) content =>
        if ((state.2.indexer content.membershipOnly).get? content.resource.string).isSome then
          (state.1 ++ [content], state.2)
        else (state.1, state.2.deleteUnknown content)) (known, r)).2 from loop []
  induction contents generalizing r with
  | nil => exact fun _ => .refl r
  | cons content rest induction =>
    intro known
    have here := reported content List.mem_cons_self
    have later (other : SynchronizationContent) (member : other ∈ rest) :=
      reported other (List.mem_cons_of_mem _ member)
    simp only [List.foldl_cons]
    split
    · exact induction base later _
    next unknown =>
      have unknown : (r.indexer content.membershipOnly).get? content.resource.string = none := by
        simpa using unknown
      have deleted := deleteUnknown_effects base here unknown
      have spares := spares_deleteUnknown base here unknown
      have remaining := induction (base.effects deleted) (spares.env.symm ▸ later) known
      exact spares.trans (remaining.mono fun d old => old.trans_le spares.allocated)

theorem spares_update (spared : Ref → Prop) (untouched : ¬ spared c)
    (added removed : List CloudResource) : Spares spared r (r.update c added removed) := by
  have other (d : Ref) (here : spared d) : d ≠ c := fun same => untouched (same ▸ here)
  have tracked (list : List CloudResource) (create isDelete : Bool) (r : Reconciler) :
      Spares spared r (r.forEach list fun rsc r => r.updateTracker rsc create c isDelete) :=
    .of_quiet (quiet_updateTrackers list create c isDelete r)
  simp only [update]
  split
  · split
    · exact .refl r
    · exact (spares_updateImpl r c _ _).mono other
  · exact ((tracked _ _ _ r).trans (tracked _ _ _ _)).trans
      ((spares_updateImpl _ c _ _).mono other)

theorem spares_rewriteResource (rsc : CloudResource) :
    Spares (fun _ => False) r (r.rewriteResource rsc) := by
  have drawn := r.spares_advance fun _ => False
  simp only [rewriteResource]
  split
  · exact .refl r
  · split
    · exact drawn
    · exact drawn.trans (spares_update _ _ _ id _ _)

end Reconciler

/-! ## What a sync does -/

/-- The action is taken between the two states. -/
def Takes (action : Action) (r r' : Reconciler) : Prop :=
  ∃ more, r'.observed = more ++ r.observed ∧ ∃ x ∈ more, x.action = action

namespace Takes

variable {action : Action} {spared : Ref → Prop} {r r' r'' : Reconciler}

theorem after (takes : Takes action r r') (later : Spares spared r' r'') : Takes action r r'' := by
  obtain ⟨more, observed, x, member, taken⟩ := takes
  obtain ⟨more', observed'⟩ := later.observed
  exact ⟨more' ++ more, by rw [observed', observed, List.append_assoc], x,
    List.mem_append_right _ member, taken⟩

theorem before (earlier : Spares spared r r') (takes : Takes action r' r'') :
    Takes action r r'' := by
  obtain ⟨more, observed, x, member, taken⟩ := takes
  obtain ⟨more', observed'⟩ := earlier.observed
  exact ⟨more ++ more', by rw [observed, observed', List.append_assoc], x,
    List.mem_append_left _ member, taken⟩

/-- A loop takes the action when it reaches an element that takes it. -/
theorem forRange {list : List Ref} {body : Ref → Reconciler → Reconciler} {d : Ref}
    (member : d ∈ list) (others : ∀ c, c ≠ d → ∀ r, Spares (· = d) r (body c r))
    (grows : ∀ c r, Spares (fun _ => False) r (body c r))
    (reached : ∀ r', Spares (· = d) r r' → Takes action r' (body d r')) :
    Takes action r (r.forRange list body) := by
  obtain ⟨earlier, later, split, fresh⟩ :=
    List.eq_append_cons_of_mem ((mem_arrange (r.order 0) list d).mpr member)
  have start : Spares (· = d) r (earlier.foldl (fun r c => body c r) r.advance) :=
    (r.spares_advance _).trans (.foldl (fun c inEarlier =>
      others c fun same => fresh (same ▸ inEarlier)) _)
  rw [Reconciler.forRange, split, List.foldl_append, List.foldl_cons]
  exact .before start ((reached _ start).after (.foldl (fun c _ => grows c) _))

end Takes

namespace Reconciler

variable {r : Reconciler} {d : Ref} {membershipOnly : Bool} {contents : List SynchronizationContent}

/-- `addImpl` of an object without a pending retry asks the cloud for the group. -/
theorem takes_addImpl (synced : r.syncedWithCloud = true) (idle : (r.objects d).retryOp = none) :
    Takes (.call d (.createSecurityGroup (r.objects d).id (r.objects d).membershipOnly)) r
      (r.addImpl d) := by
  refine ⟨[⟨.call d (.createSecurityGroup (r.objects d).id (r.objects d).membershipOnly),
    (r.indexerAdd d).toCore⟩], ?_, _, List.mem_singleton.mpr rfl, rfl⟩
  simp [addImpl, indexerAdd, synced, idle, issue, observe, assign]

/-- The sync of a group that has not been created and is not reported creates it. -/
theorem takes_sync (synced : r.syncedWithCloud = true)
    (current : (r.objects d).deletePending = false) (members : (r.objects d).members ≠ [])
    (idle : (r.objects d).retryOp = none) (init : (r.objects d).state = .init) :
    Takes (.call d (.createSecurityGroup (r.objects d).id (r.objects d).membershipOnly)) r
      (r.sync d none) := by
  have impl : r.syncImpl d none = (false, r.addImpl d) := by
    simp [syncImpl, noteReported, sameMembership, members, init]
  simp only [sync, syncWith, syncMembers, current, Bool.false_eq_true, if_false, impl,
    Bool.false_and]
  split
  · exact takes_addImpl synced idle
  · exact (takes_addImpl synced idle).after (spares_syncRules _ d none)

/-- The loop over the groups of one kind spares every other object. -/
theorem spares_syncLoop (skip : SecurityGroup → Bool) {list : List Ref} :
    Spares (· ∉ list) r (r.forRange list fun sg r =>
      if skip (r.objects sg) then r
      else r.sync sg (contentFor contents membershipOnly (r.objects sg).id)) := by
  refine .forRange (fun c member r => ?_) r
  split
  · exact .refl r
  · refine (r.spares_sync c _).mono ?_
    rintro _ outside rfl
    exact outside member

/-- The loop reaches a group that is indexed at its start. -/
theorem takes_syncLoop (skip : SecurityGroup → Bool)
    (listed : d ∈ (r.indexer membershipOnly).values) (visited : skip (r.objects d) = false)
    (missing : contentFor contents membershipOnly (r.objects d).id = none)
    (synced : r.syncedWithCloud = true) (current : (r.objects d).deletePending = false)
    (members : (r.objects d).members ≠ []) (idle : (r.objects d).retryOp = none)
    (init : (r.objects d).state = .init) :
    Takes (.call d (.createSecurityGroup (r.objects d).id (r.objects d).membershipOnly)) r
      (r.forRange (r.indexer membershipOnly).values fun sg r =>
        if skip (r.objects sg) then r
        else r.sync sg (contentFor contents membershipOnly (r.objects sg).id)) := by
  have pass (c : Ref) (r : Reconciler) : Spares (· ≠ c) r
      (if skip (r.objects c) then r
      else r.sync c (contentFor contents membershipOnly (r.objects c).id)) := by
    split
    · exact .refl r
    · exact r.spares_sync c _
  refine .forRange listed (fun c other r => (pass c r).mono (by rintro _ rfl; exact other.symm))
    (fun c r => (pass c r).mono fun _ => False.elim) fun r' spares => ?_
  · have same := spares.objects d rfl
    rw [same, visited, missing, ← same]
    rw [← same] at current members idle init
    exact takes_sync (spares.synced synced) current members idle init

/-- A content is found for a group only if the cloud reports it. -/
theorem contentFor_eq_none {id : CloudResourceID}
    (missing : ∀ content ∈ contents, ¬ (content.membershipOnly = membershipOnly ∧
      content.resource = id)) : contentFor contents membershipOnly id = none := by
  by_contra found
  obtain ⟨content, member, same⟩ :=
    contentFor_isSome (Option.isSome_iff_ne_none.mpr found)
  exact missing content member same

/-- A sync creates a group that is not reported and has not been created. -/
theorem takes_syncGroups (base : Base r.toCore) (enough : npSyncReadyBookMarkCnt ≤ r.bookmarkCnt)
    (indexed : r.Indexed d) (networked : (r.objects d).Networked)
    (current : (r.objects d).deletePending = false) (members : (r.objects d).members ≠ [])
    (idle : (r.objects d).retryOp = none)
    (missing : ¬ r.Reported (r.objects d).membershipOnly (r.objects d).id)
    (init : (r.objects d).state = .init) :
    Takes (.call d (.createSecurityGroup (r.objects d).id (r.objects d).membershipOnly)) r
      r.syncGroups := by
  obtain ⟨effects, contents⟩ := received_effects base enough
  have unretried (o : Origin) (isSync : o.IsSync) : o.target ≠ some d ∧ ¬ o.IsRetry := by
    rcases isSync with rfl | ⟨c, rfl⟩ <;> exact ⟨by rintro ⟨⟩, by simp [Origin.IsRetry]⟩
  have listen : Effect .sync r (r.observe .getSecurityGroupSyncChan) := .listen enough
  have heard : Spares (· = d) r (r.observe .getSecurityGroupSyncChan) :=
    ⟨fun _ _ => rfl, le_refl _, rfl, id, [_], rfl⟩
  have received := heard.trans ((spares_receiveContents (listen.base base)
    fun content member => member).mono fun c same => same ▸ base.allocated indexed)
  let result := (r.observe .getSecurityGroupSyncChan).receiveContents r.env.syncContents
  let r₂ : Reconciler := { result.2 with syncedWithCloud := true }
  have spares : Spares (· = d) r r₂ :=
    ⟨received.objects, received.allocated, received.env, fun _ => rfl, received.observed⟩
  have same : r₂.objects d = r.objects d := spares.objects d rfl
  have base₂ : Base r₂.toCore := base.effects effects
  have indexed₂ : r₂.Indexed d := base.indexed_effects effects indexed unretried
  have known (content : SynchronizationContent) (member : content ∈ result.1) :
      content ∈ r₂.env.syncContents := by
    rw [spares.env]
    exact contents content member
  have unknown (membershipOnly : Bool) (kind : (r.objects d).membershipOnly = membershipOnly) :
      contentFor result.1 membershipOnly (r.objects d).id = none :=
    contentFor_eq_none fun content member reported =>
      missing ⟨content, contents content member, reported.1.trans kind.symm, reported.2⟩
  have rewritten (r : Reconciler) : Spares (fun _ => False) r
      (r.forRange (resourcesWithUnknownSGs result.1) rewriteResource) :=
    .forRange (fun rsc _ r => r.spares_rewriteResource rsc) r
  change Takes _ r (((r₂.syncAddrSGs result.1).syncAppliedToSGs result.1).forRange
    (resourcesWithUnknownSGs result.1) rewriteResource)
  refine .before spares (.after ?_ (rewritten _))
  cases kind : (r.objects d).membershipOnly with
  | true =>
    have listed : d ∈ (r₂.indexer true).values :=
      (GoMap.mem_values _ _).mpr ⟨_, by rw [← kind, ← same]; exact indexed₂⟩
    have visited : (r₂.objects d).isIPBlocks = false := by
      simp [same, SecurityGroup.isIPBlocks, networked kind]
    have takes := takes_syncLoop SecurityGroup.isIPBlocks listed visited
      (same ▸ unknown true kind) rfl (same ▸ current)
      (same ▸ members) (same ▸ idle) (same ▸ init)
    rw [same, kind] at takes
    exact takes.after (spares_syncLoop fun _ => false)
  | false =>
    -- The loop over the address groups comes first and leaves the object alone.
    have addressed := syncAddrSGs_effects base₂ known
    have passed : Spares (· = d) r₂ (r₂.syncAddrSGs result.1) := by
      refine (spares_syncLoop SecurityGroup.isIPBlocks).mono ?_
      rintro _ rfl listed
      obtain ⟨key, found⟩ := (GoMap.mem_values _ _).mp listed
      have address := (base₂.index true key _ found).2.1
      rw [same, kind] at address
      cases address
    have same' : (r₂.syncAddrSGs result.1).objects d = r.objects d :=
      (passed.objects d rfl).trans same
    have indexed' := base₂.indexed_effects addressed indexed₂ unretried
    have listed : d ∈ ((r₂.syncAddrSGs result.1).indexer false).values :=
      (GoMap.mem_values _ _).mpr ⟨_, by rw [← kind, ← same']; exact indexed'⟩
    have takes := takes_syncLoop (fun _ => false) listed rfl
      (same' ▸ unknown false kind) (passed.synced rfl) (same' ▸ current)
      (same' ▸ members) (same' ▸ idle) (same' ▸ init)
    rw [same', kind] at takes
    exact .before passed takes

end Reconciler

/-! ## Who creates groups during a sync -/

/-- A sync asks for a group only if the group has not been created. -/
theorem Effect.creates {o : Origin} {r r' : Reconciler} (effect : Effect o r r')
    (isSync : o.IsSync) (d : Ref) :
    ∃ more, r'.observed = more ++ r.observed ∧
      ∀ x ∈ more, ∀ id membershipOnly,
        x.action = .call d (.createSecurityGroup id membershipOnly) →
          (r.objects d).state = .init := by
  obtain ⟨taken, same, recorded⟩ := effect.observed_append
  refine ⟨taken, same, fun x member id membershipOnly action => ?_⟩
  cases recorded x member with
  | create c _ _ created fresh =>
    cases action.symm.trans created
    refine fresh.resolve_right ?_
    rintro rfl
    exact isSync.elim (by simp) (by simp)
  | _ => simp_all

/-- A group that a sync asks for has not been created before. -/
theorem init_of_takes {r : Reconciler} (base : Base r.toCore) {d : Ref} (old : d < r.nextRef)
    {id : CloudResourceID} {membershipOnly : Bool}
    (takes : Takes (.call d (.createSecurityGroup id membershipOnly)) r r.syncWithCloud) :
    (r.objects d).state = .init := by
  by_contra sent
  have effects := Reconciler.syncWithCloud_effects base
  obtain ⟨more, observed, none_⟩ := effects.along
    (fun r' => ∃ more, r'.observed = more ++ r.observed ∧
      ∀ x ∈ more, x.action ≠ .call d (.createSecurityGroup id membershipOnly))
    (fun o before after chain isSync effect known => by
      obtain ⟨more, observed, none_⟩ := known
      obtain ⟨new, observed', creates⟩ := effect.creates isSync d
      refine ⟨new ++ more, by rw [observed', observed, List.append_assoc], fun x member => ?_⟩
      rcases List.mem_append.mp member with inNew | inMore
      · exact fun action => (base.state_mono chain old).1 sent (creates x inNew _ _ action)
      · exact none_ x inMore)
    ⟨[], rfl, List.forall_mem_nil _⟩
  obtain ⟨more', observed', x, member, action⟩ := takes
  have same : more' = more := List.append_cancel_right (observed'.symm.trans observed)
  exact none_ x (same ▸ member) action

/--
A sync creates a group that the cloud does not report exactly when the group has
not been created before.
-/
theorem missing_group_is_created (cloud : Cloud) (labels : List Label) (env : Env)
    (order : Supply) (d : Ref) :
    let r : Reconciler :=
      { (run System.step (System.initial cloud) labels).reconciler with env, order }
    npSyncReadyBookMarkCnt ≤ r.bookmarkCnt → r.Indexed d → (r.objects d).Networked →
      (r.objects d).deletePending = false → (r.objects d).members ≠ [] →
      (r.objects d).retryOp = none →
      ¬ r.Reported (r.objects d).membershipOnly (r.objects d).id →
      (Takes (.call d (.createSecurityGroup (r.objects d).id (r.objects d).membershipOnly)) r
          r.syncWithCloud ↔
        (r.objects d).state = .init) := by
  intro r enough indexed networked current members idle missing
  have base : Base r.toCore := (Effect.enter env order).base (System.base_run base_setup labels)
  refine ⟨init_of_takes base (base.allocated indexed), fun init => ?_⟩
  rw [Reconciler.syncWithCloud, if_neg (not_lt.mpr enough)]
  exact Reconciler.takes_syncGroups base enough indexed networked current members idle missing init

/-- A group is added, and the cloud answers the events that follow. -/
def Sample.addedGroup (events : List Event) : List Label :=
  Sample.steps
    (Sample.bookmarks ++ [.addrGroup .added (.complete "g" [Sample.member "a"])] ++ events)

/-- A group whose creation has not been answered is asked for again. -/
theorem unanswered_group_is_created :
    let r : Reconciler :=
      { (run System.step (System.initial fun _ => none) (Sample.addedGroup [])).reconciler with
        env := Sample.env, order := fun _ => 0 }
    (r.objects 0).id = ⟨"g", "v1"⟩ ∧
      Takes (.call 0 (.createSecurityGroup (r.objects 0).id (r.objects 0).membershipOnly)) r
        r.syncWithCloud :=
  ⟨by decide +kernel,
    (missing_group_is_created (fun _ => none) (Sample.addedGroup []) Sample.env (fun _ => 0) 0
      (by decide +kernel) (by decide +kernel) (fun _ => by decide +kernel) (by decide +kernel)
      (by decide +kernel) (by decide +kernel)
      fun ⟨_, member, _⟩ => absurd member List.not_mem_nil).mpr (by decide +kernel)⟩

/-- A group that has been created is not created again; its members are sent instead. -/
theorem lost_group_is_not_created :
    let r : Reconciler :=
      { (run System.step (System.initial fun _ => none)
          (Sample.addedGroup (Sample.callback 0 none))).reconciler with
        env := Sample.env, order := fun _ => 0 }
    (npSyncReadyBookMarkCnt ≤ r.bookmarkCnt ∧ r.Indexed 0 ∧ (r.objects 0).id.vpc ≠ "" ∧
        (r.objects 0).deletePending = false ∧ (r.objects 0).members ≠ [] ∧
        (r.objects 0).retryOp = none ∧ r.env.syncContents = []) ∧
      ¬ Takes (.call 0 (.createSecurityGroup (r.objects 0).id (r.objects 0).membershipOnly)) r
        r.syncWithCloud := by
  intro r
  have taken : r.syncWithCloud.observed.map (·.action) =
      [.call 0 (.updateSecurityGroupMembers ⟨"g", "v1"⟩ [⟨.virtualMachine, ⟨"a", "v1"⟩⟩] true),
        .getSecurityGroupSyncChan] ++ r.observed.map (·.action) := by decide +kernel
  refine ⟨by decide +kernel, ?_⟩
  -- From here on the state is not looked into.
  clear_value r
  rintro ⟨more, observed, x, member, action⟩
  rw [observed, List.map_append, List.append_cancel_right_eq] at taken
  have listed : x.action ∈ more.map (·.action) := List.mem_map_of_mem member
  rw [taken, action] at listed
  simp at listed

end Nephe
