import Nephe.Effects.Policies

/-!
# Synchronization with the cloud, as effects
-/

namespace Nephe

open Library

/-- The origins of a cloud sync. -/
def Origin.IsSync (o : Origin) : Prop :=
  o = .sync ∨ ∃ c, o = .syncGroup c

/-- The origins of a bookmark, which may start the first cloud sync. -/
def Origin.IsBookmark (o : Origin) : Prop :=
  o = .bookmark ∨ o.IsSync

theorem isSync_start : ¬ Origin.IsSync .start :=
  fun isSync => isSync.elim (by simp) fun ⟨_, same⟩ => nomatch same

/-- The environment is fixed while an event is handled. -/
theorem Effect.env {o : Origin} {r r' : Reconciler} (effect : Effect o r r')
    (inside : o ≠ .start) : r'.env = r.env := by
  cases effect with
  | enter => exact absurd rfl inside
  | _ => rfl

theorem env_effects {allowed : Origin → Prop} {r r' : Reconciler}
    (effects : Effects allowed r r') (inside : ¬ allowed .start) : r'.env = r.env :=
  effects.invariant (fun r' => r'.env = r.env)
    (fun _ _ _ permitted effect before =>
      (effect.env fun same => inside (same ▸ permitted)).trans before) rfl

namespace Reconciler

variable {r : Reconciler} {sg : Ref}

/-! ## One group -/

/-- While a sync looks at one group, every indexed object stays indexed. -/
theorem indexed_syncGroup {r' : Reconciler} {c d : Ref} (base : Base r.toCore)
    (effects : Effects (· = .syncGroup d) r r') (indexed : r.Indexed c) : r'.Indexed c :=
  base.indexed_effects effects indexed
    (by rintro _ rfl; exact ⟨by rintro ⟨⟩, by simp [Origin.IsRetry]⟩)

theorem syncImpl_effects (base : Base r.toCore) (indexed : r.Indexed sg)
    (networked : (r.objects sg).Networked) (c : Option SynchronizationContent)
    (reported : c.isSome = true → r.Reported (r.objects sg).membershipOnly (r.objects sg).id) :
    Effects (· = .syncGroup sg) r (r.syncImpl sg c).2 := by
  have noted : Effects (· = .syncGroup sg) r (r.noteReported sg c) := by
    unfold noteReported
    split
    next some_ => exact .single rfl (.reported sg indexed networked (reported some_))
    next => exact .refl r
  have base' := base.effects noted
  have indexed' := indexed_syncGroup base noted indexed
  obtain ⟨_, sameKind, sameId⟩ := static_effects noted (base.allocated indexed)
  have networked' : ((r.noteReported sg c).objects sg).Networked := by
    rwa [SecurityGroup.Networked, sameKind, sameId]
  simp only [syncImpl]
  split
  · exact noted
  · split
    next created =>
      exact noted.trans (updateImpl_effects (base'.allocated indexed') networked'
        (o := .syncGroup sg) (fun _ _ => ⟨rfl, indexed'⟩) (.inl ⟨rfl, rfl⟩))
    next init => exact noted.trans (addImpl_sync_effects base' indexed' networked' init)
    next => exact noted

theorem syncPolicies_effects (o : Origin) (keys : List String) (items : GoMap String Int) :
    Effects (· = o) r (r.syncPolicies keys items).2 := by
  induction keys generalizing r items with
  | nil => exact .refl r
  | cons key rest induction =>
    simp only [syncPolicies]
    split
    · exact induction items
    next policy found =>
      have computed : Effects (· = o) r (r.computePolicyRules key policy) :=
        computePolicyRules_effects found
      split
      · exact computed.trans (induction _)
      · exact computed

theorem syncRules_effects (base : Base r.toCore) (indexed : r.Indexed sg)
    (kind : (r.objects sg).membershipOnly = false) (c : Option SynchronizationContent) :
    Effects (· = .syncGroup sg) r (r.syncRules updateRules sg c) := by
  let keys := arrange (r.order 0)
    ((r.policiesByAppliedToGrp (r.objects sg).id.name).map (·.1))
  have drawn : Effects (· = .syncGroup sg) r r.advance := .single rfl (.order _)
  have counted : Effects (· = .syncGroup sg) r (r.advance.syncPolicies keys ∅).2 :=
    drawn.trans (syncPolicies_effects _ keys ∅)
  have base' := base.effects counted
  have indexed' := indexed_syncGroup base counted indexed
  obtain ⟨allocated, sameKind, sameId⟩ := static_effects counted (base.allocated indexed)
  have updated : Effects (· = .syncGroup sg) r
      ((r.advance.syncPolicies keys ∅).2.updateRules sg) :=
    counted.trans (updateRules_effects allocated (sameKind.trans kind) ⟨rfl, indexed'⟩)
  unfold syncRules recount
  dsimp only
  split
  next r' result =>
    obtain rfl : (r.advance.syncPolicies keys ∅).2 = r' := congrArg Prod.snd result
    exact counted
  next items r' result =>
    obtain rfl : (r.advance.syncPolicies keys ∅).2 = r' := congrArg Prod.snd result
    split
    · exact updated
    · split
      · exact updated
      · split
        next some_ =>
          have referenced :=
            (Core.policiesByAppliedToGrp_ne_nil.mp some_).effects counted (by simp)
          -- Marking trackers changes nothing that the rest looks at.
          have marked : Quiet (fun _ => False) (fun _ => False) (r.advance.syncPolicies keys ∅).2
              (if ((r.advance.syncPolicies keys ∅).2.objects sg).hasRules then
                (r.advance.syncPolicies keys ∅).2
              else (r.advance.syncPolicies keys ∅).2.markGroupDirty sg) := by
            split
            · exact .refl _
            · exact quiet_markGroupDirty sg
          have effects := marked.mark_effects (.syncGroup sg)
          obtain ⟨_, _, same, _⟩ := marked
          rw [same] at effects ⊢
          refine .tail (counted.trans effects) rfl (.setHasRules sg allocated
            (sameKind.trans kind) ⟨rfl, indexed', ?_⟩)
          exact Core.policiesByAppliedToGrp_ne_nil.mpr (sameId ▸ referenced)
        next => exact counted

theorem sync_effects (base : Base r.toCore) (indexed : r.Indexed sg)
    (networked : (r.objects sg).Networked) (c : Option SynchronizationContent)
    (reported : c.isSome = true → r.Reported (r.objects sg).membershipOnly (r.objects sg).id) :
    Effects (· = .syncGroup sg) r (r.sync sg c) := by
  have compared := syncImpl_effects base indexed networked c reported
  have base' := base.effects compared
  have indexed' := indexed_syncGroup base compared indexed
  obtain ⟨allocated, sameKind, sameId⟩ := static_effects compared (base.allocated indexed)
  simp only [sync, syncWith, syncMembers]
  split
  · exact .refl r
  · split
    · exact compared
    next applied =>
      have kind : (r.objects sg).membershipOnly = false := by simpa using applied
      have noted : Effects (· = .syncGroup sg) r
          (if (r.syncImpl sg c).1 && ((r.syncImpl sg c).2.objects sg).members.length > 0 then
            (r.syncImpl sg c).2.assign sg fun s => { s with hasMembers := true }
          else (r.syncImpl sg c).2) := by
        split
        next same =>
          refine .tail compared rfl (.setHasMembers sg true allocated
            (sameKind.trans kind) ⟨rfl, indexed', rfl, fun none_ => ?_⟩)
          simp [none_] at same
        next => exact compared
      have base'' := base.effects noted
      have indexed'' := indexed_syncGroup base noted indexed
      obtain ⟨_, sameKind, _⟩ := static_effects noted (base.allocated indexed)
      exact noted.trans (syncRules_effects base'' indexed'' (sameKind.trans kind) c)

/-! ## All groups -/

variable {content : SynchronizationContent} {contents : List SynchronizationContent}

/-- The object that `syncWithCloud` makes for a group it does not know. -/
theorem temporary_allocate (base : Base r.toCore) (reported : content ∈ r.env.syncContents)
    (unknown : (r.indexer content.membershipOnly).get? content.resource.string = none) :
    (r.allocate
      { membershipOnly := content.membershipOnly
        id := content.resource
        state := .created }).Temporary r.nextRef := by
  have new := base.untouched (Nat.le_refl r.nextRef)
  refine ⟨Nat.lt_succ_self _, ?_, ?_, ?_, ?_, ⟨new.messages, new.queue, new.trackers⟩, ?_⟩
  · simp [allocate]
  · simp [allocate]
  · constructor <;> simp [allocate]
  · simp only [allocate, Function.update_self]
    exact unknown
  · refine ⟨content, reported, ?_⟩
    simp [allocate]

theorem deleteUnknown_effects (base : Base r.toCore) (reported : content ∈ r.env.syncContents)
    (unknown : (r.indexer content.membershipOnly).get? content.resource.string = none) :
    Effects (· = .sync) r (r.deleteUnknown content) := by
  have made : Effects (· = .sync) r
      (r.allocate
        { membershipOnly := content.membershipOnly
          id := content.resource
          state := .created }) :=
    .single rfl (.allocate _ ⟨rfl, rfl, rfl, rfl, rfl, rfl⟩
      (.inr ⟨rfl, rfl, rfl, unknown, content, reported, rfl, rfl⟩))
  have temporary := temporary_allocate base reported unknown
  exact made.trans (delete_effects (base.effects made) temporary.allocated temporary
    (by simp [temporary.created]))

theorem receiveContents_effects (base : Base r.toCore)
    (reported : ∀ content ∈ contents, content ∈ r.env.syncContents) :
    Effects (· = .sync) r (r.receiveContents contents).2 ∧
      ∀ content ∈ (r.receiveContents contents).1, content ∈ r.env.syncContents := by
  suffices loop : ∀ known : List SynchronizationContent,
      (∀ content ∈ known, content ∈ r.env.syncContents) →
      Effects (· = .sync) r
        (contents.foldl (fun (state : List SynchronizationContent × Reconciler) content =>
          if ((state.2.indexer content.membershipOnly).get? content.resource.string).isSome then
            (state.1 ++ [content], state.2)
          else (state.1, state.2.deleteUnknown content)) (known, r)).2 ∧
      ∀ content ∈ (contents.foldl
        (fun (state : List SynchronizationContent × Reconciler) content =>
          if ((state.2.indexer content.membershipOnly).get? content.resource.string).isSome then
            (state.1 ++ [content], state.2)
          else (state.1, state.2.deleteUnknown content)) (known, r)).1,
        content ∈ r.env.syncContents from loop [] (by simp)
  induction contents generalizing r with
  | nil => exact fun known received => ⟨.refl r, received⟩
  | cons content rest induction =>
    intro known received
    have here := reported content List.mem_cons_self
    have later (other : SynchronizationContent) (member : other ∈ rest) :=
      reported other (List.mem_cons_of_mem _ member)
    simp only [List.foldl_cons]
    split
    · refine induction base later _ fun other member => ?_
      rcases List.mem_append.mp member with old | new
      · exact received other old
      · exact List.mem_singleton.mp new ▸ here
    next unknown =>
      have deleted := deleteUnknown_effects base here (by simpa using unknown)
      have sameEnv := env_effects deleted (by simp)
      obtain ⟨effects, kept⟩ := induction (base.effects deleted) (sameEnv ▸ later) known
        (sameEnv ▸ received)
      exact ⟨deleted.trans effects, sameEnv ▸ kept⟩

/-- A content found for an id is one of those received. -/
theorem contentFor_isSome {membershipOnly : Bool} {id : CloudResourceID}
    (found : (contentFor contents membershipOnly id).isSome = true) :
    ∃ content ∈ contents, content.membershipOnly = membershipOnly ∧ content.resource = id := by
  obtain ⟨content, found⟩ := Option.isSome_iff_exists.mp found
  have matches_ := List.find?_some found
  simp only [Bool.and_eq_true, beq_iff_eq] at matches_
  exact ⟨content, List.mem_reverse.mp (List.mem_of_find?_eq_some found), matches_⟩

/-- The loop of `syncWithCloud` over the groups of one kind. -/
theorem syncLoop_effects (base : Base r.toCore) (membershipOnly : Bool)
    (skip : SecurityGroup → Bool)
    (networked : ∀ group : SecurityGroup, group.membershipOnly = membershipOnly →
      skip group = false → group.Networked)
    (received : ∀ content ∈ contents, content ∈ r.env.syncContents) :
    Effects Origin.IsSync r
      (r.forRange (r.indexer membershipOnly).values fun sg r =>
        if skip (r.objects sg) then r
        else r.sync sg (contentFor contents membershipOnly (r.objects sg).id)) := by
  -- The kinds of the objects and what the cloud reports do not change.
  let also (r' : Reconciler) : Prop :=
    r'.env = r.env ∧ ∀ c ∈ (r.indexer membershipOnly).values, c < r'.nextRef ∧
      (r'.objects c).membershipOnly = membershipOnly
  have initially : also r.advance := by
    refine ⟨rfl, fun c member => ?_⟩
    obtain ⟨key, found⟩ := (GoMap.mem_values _ _).mp member
    exact ⟨(base.index _ _ _ found).1, (base.index _ _ _ found).2.1⟩
  refine (base.forRange_effects Origin.IsSync (fun c o => o = .syncGroup c) also
    (base.nodup_values membershipOnly) (fun c => base.indexed_values) initially (.inl rfl)
    (fun c o about => .inr ⟨c, about⟩) ?_ ?_).1
  · rintro c o rfl
    exact ⟨fun d _ => (by rintro ⟨⟩), by simp [Origin.IsRetry]⟩
  · rintro c member r' base' indexed ⟨sameEnv, kinds⟩
    have pass : Effects (· = .syncGroup c) r'
        (if skip (r'.objects c) then r'
        else r'.sync c (contentFor contents membershipOnly (r'.objects c).id)) := by
      split
      · exact .refl r'
      next visited =>
        refine sync_effects base' indexed
          (networked _ (kinds c member).2 (by simpa using visited)) _ fun found => ?_
        obtain ⟨content, there, kind, named⟩ := contentFor_isSome found
        exact ⟨content, sameEnv ▸ received content there,
          kind.trans (kinds c member).2.symm, named⟩
    refine ⟨pass, (env_effects pass (by simp)).trans sameEnv, fun d member => ?_⟩
    obtain ⟨old, kind⟩ := kinds d member
    obtain ⟨old, sameKind, _⟩ := static_effects pass old
    exact ⟨old, sameKind.trans kind⟩

theorem syncAddrSGs_effects (base : Base r.toCore)
    (received : ∀ content ∈ contents, content ∈ r.env.syncContents) :
    Effects Origin.IsSync r (r.syncAddrSGs contents) :=
  syncLoop_effects base true SecurityGroup.isIPBlocks
    (fun group _ visited _ => by simpa [SecurityGroup.isIPBlocks] using visited) received

theorem syncAppliedToSGs_effects (base : Base r.toCore)
    (received : ∀ content ∈ contents, content ∈ r.env.syncContents) :
    Effects Origin.IsSync r (r.syncAppliedToSGs contents) :=
  syncLoop_effects base false (fun _ => false)
    (fun _ applied _ address => absurd (applied.symm.trans address) (by simp)) received

theorem rewriteResource_effects (base : Base r.toCore) (rsc : CloudResource) :
    Effects (· = .sync) r (r.rewriteResource rsc) := by
  have drawn : Effects (· = .sync) r r.advance := .single rfl (.order _)
  simp only [rewriteResource]
  split
  · exact .refl r
  next tracker found =>
    split
    · exact drawn
    next sg rest arranged =>
      have member : sg ∈ tracker.appliedToSGs.values :=
        (mem_arrange _ _ _).mp (arranged ▸ List.mem_cons_self)
      obtain ⟨id, listed⟩ := (GoMap.mem_values _ _).mp member
      have tracked : r.Tracked sg := ⟨_, tracker, id, found, listed⟩
      exact drawn.trans (update_nil_effects (base.tracked sg tracked).1
        fun _ _ => tracked)

theorem rewriteResources_effects (base : Base r.toCore) (resources : List CloudResource) :
    Effects Origin.IsSync r (r.forRange resources rewriteResource) :=
  base.forAny_effects (.inl rfl) fun rsc _ base =>
    (rewriteResource_effects base rsc).only (.inl rfl)

/-- A sync up to its loops over the indexers. -/
theorem received_effects (base : Base r.toCore)
    (enough : npSyncReadyBookMarkCnt ≤ r.bookmarkCnt) :
    let result := (r.observe .getSecurityGroupSyncChan).receiveContents r.env.syncContents
    Effects Origin.IsSync r { result.2 with syncedWithCloud := true } ∧
      ∀ content ∈ result.1, content ∈ r.env.syncContents := by
  let listened := r.observe .getSecurityGroupSyncChan
  have listen : Effects (· = .sync) r listened := .single rfl (.listen enough)
  obtain ⟨received, contents⟩ := receiveContents_effects (r := listened)
    (base.effects listen) fun content member => member
  have received := listen.trans received
  have count : npSyncReadyBookMarkCnt ≤
      (listened.receiveContents listened.env.syncContents).2.bookmarkCnt :=
    received.invariant (fun r => npSyncReadyBookMarkCnt ≤ r.bookmarkCnt)
      (fun _ _ _ _ effect before => by
        cases effect with
        | bookmark => exact Nat.le_succ_of_le before
        | _ => exact before) enough
  exact ⟨(received.tail rfl (.synced count)).only (.inl rfl), contents⟩

theorem syncGroups_effects (base : Base r.toCore)
    (enough : npSyncReadyBookMarkCnt ≤ r.bookmarkCnt) :
    Effects Origin.IsSync r r.syncGroups := by
  obtain ⟨synced, contents⟩ := received_effects base enough
  have address := synced.trans (syncAddrSGs_effects (base.effects synced)
    fun content member => (env_effects synced isSync_start).symm ▸ contents content member)
  have applied := address.trans (syncAppliedToSGs_effects (base.effects address)
    fun content member => (env_effects address isSync_start).symm ▸ contents content member)
  exact applied.trans (rewriteResources_effects (base.effects applied) _)

theorem syncWithCloud_effects (base : Base r.toCore) :
    Effects Origin.IsSync r r.syncWithCloud := by
  simp only [syncWithCloud]
  split
  · exact .refl r
  next enough => exact syncGroups_effects base (Nat.not_lt.mp enough)

theorem processBookMark_effects (base : Base r.toCore) :
    Effects Origin.IsBookmark r r.processBookMark := by
  simp only [processBookMark]
  split
  · exact .refl r
  next early =>
    have counted : Effects Origin.IsBookmark r { r with bookmarkCnt := r.bookmarkCnt + 1 } :=
      .single (.inl rfl) (.bookmark (by simpa using early))
    exact counted.trans ((syncWithCloud_effects (base.effects counted)).mono fun _ => .inr)

end Reconciler

end Nephe
