import Nephe.Effects.Sync
import Nephe.Membership.Resolution

/-!
# Group events, as effects
-/

namespace Nephe

open Library

/-- The origins of a group event. -/
def Origin.IsGroup (name : String) (membershipOnly : Bool) (type : EventType) (o : Origin) :
    Prop :=
  if type = .deleted then ∃ target, o = .deleted name membershipOnly target
  else o = .event name membershipOnly

variable {name : String} {membershipOnly : Bool} {o : Origin} {r r' : Reconciler}

theorem Origin.isGroup_event (type : EventType) (kind : type ≠ .deleted)
    (same : o = .event name membershipOnly) : o.IsGroup name membershipOnly type :=
  (if_neg kind).mpr same

theorem Origin.isGroup_deleted (same : ∃ target, o = .deleted name membershipOnly target) :
    o.IsGroup name membershipOnly .deleted :=
  (if_pos rfl).mpr same

/-- The origins of a group event, which may remove members whose entities are gone. -/
def Origin.OfGroup (env : Env) (name : String) (membershipOnly : Bool) (type : EventType)
    (removed : List GroupMember) (o : Origin) : Prop :=
  o.IsGroup name membershipOnly type ∨ (o = .stale name ∧ env.missing removed ≠ [])

theorem Origin.OfGroup.isGroup {env : Env} {type : EventType} {removed : List GroupMember}
    (origin : o.OfGroup env name membershipOnly type removed) (found : env.missing removed = []) :
    o.IsGroup name membershipOnly type :=
  origin.resolve_right fun stale => stale.2 found

/-- Only deletions and their ends change which groups are being deleted. -/
theorem Effect.has_pendingDeleteGroups (effect : Effect o r r')
    (spared : ∀ c, ¬ Deletes o r.toCore c) (other : ¬ o.IsRetry) (unreleased : ∀ c, o ≠ .release c)
    (key : String) : r'.pendingDeleteGroups.has key = r.pendingDeleteGroups.has key := by
  cases effect with
  | deletePending c _ deletes => exact absurd deletes (spared c)
  | forget c _ deletes => exact absurd deletes (spared c)
  | beginDelete c _ deletes => exact absurd deletes (spared c)
  | retryDelete c => exact absurd ⟨c, _, rfl⟩ other
  | release c => exact absurd rfl (unreleased c)
  | removeEntry c => exact absurd rfl (unreleased c)
  | park id group parked count found =>
    simp only [PendingItemQueue.has, PendingItemQueue.get?_setItem, found]
    split
    next equal => simp [equal, found]
    next => rfl
  | _ => rfl

theorem has_pendingDeleteGroups_effects (effects : Effects (· = o) r r')
    (spared : ∀ core c, ¬ Deletes o core c) (other : ¬ o.IsRetry) (unreleased : ∀ c, o ≠ .release c)
    (key : String) : r'.pendingDeleteGroups.has key = r.pendingDeleteGroups.has key :=
  effects.invariant
    (fun r' => r'.pendingDeleteGroups.has key = r.pendingDeleteGroups.has key)
    (fun _ _ _ permitted effect before => by
      subst permitted
      exact (effect.has_pendingDeleteGroups (spared _) other unreleased key).trans before) rfl

/-- Applying a group event neither starts nor ends the deletion of a group. -/
theorem has_event_effects (effects : Effects (· = .event name membershipOnly) r r') (key : String) :
    r'.pendingDeleteGroups.has key = r.pendingDeleteGroups.has key :=
  has_pendingDeleteGroups_effects effects (fun _ _ => id) (by simp [Origin.IsRetry]) (by simp) key

theorem has_stale_effects (effects : Effects (· = .stale name) r r') (key : String) :
    r'.pendingDeleteGroups.has key = r.pendingDeleteGroups.has key :=
  has_pendingDeleteGroups_effects effects (fun _ _ => id) (by simp [Origin.IsRetry]) (by simp) key

namespace Reconciler

variable {r : Reconciler} {name : String} {isAddrGrp : Bool}

/-! ## New objects -/

theorem new_allocate (base : Base r.toCore) {group : SecurityGroup} (clean : group.Clean)
    (init : group.state = .init) (free : r.KeyFree group.membershipOnly group.id)
    (unparked : r.pendingDeleteGroups.has group.guName = false) :
    (r.allocate group).New r.nextRef := by
  have new := base.untouched (Nat.le_refl r.nextRef)
  have here : (r.allocate group).objects r.nextRef = group := by simp [allocate]
  refine ⟨Nat.lt_succ_self _, ?_, ?_, ?_, new.messages, new.queue, ?_⟩
  · rw [here]
    exact init
  · rw [here]
    exact clean
  · rw [here]
    exact free
  · rw [here]
    exact unparked

theorem allocate_add_effects (base : Base r.toCore) (group : SecurityGroup)
    (clean : group.Clean) (init : group.state = .init)
    (free : r.KeyFree group.membershipOnly group.id)
    (unparked : r.pendingDeleteGroups.has group.guName = false) :
    Effects (· = .event group.id.name group.membershipOnly) r
      ((r.allocate group).add r.nextRef) := by
  have made : Effects (· = .event group.id.name group.membershipOnly) r (r.allocate group) :=
    .single rfl (.allocate group clean (.inl ⟨init, rfl⟩))
  have added := add_effects (base.effects made) (new_allocate base clean init free unparked)
  simp only [allocate, Function.update_self] at added
  exact made.trans added

/-! ## Members -/

theorem removeMembersOfVpc_effects (base : Base r.toCore) (name : String) (isAddrGrp : Bool)
    (entry : String × List CloudResource) :
    Effects (· = .event name isAddrGrp) r (r.removeMembersOfVpc name isAddrGrp entry) := by
  simp only [removeMembersOfVpc]
  split
  next sg found => exact update_event_effects base found _ _
  next => exact .refl r

theorem removeMembers_effects (base : Base r.toCore) (name : String) (isAddrGrp : Bool)
    (entries : List (String × List CloudResource)) :
    Effects (· = .event name isAddrGrp) r
      (r.forRange entries (removeMembersOfVpc name isAddrGrp)) :=
  base.forAny_effects rfl fun entry _ base =>
    removeMembersOfVpc_effects base name isAddrGrp entry

theorem addIPBlocks_effects (base : Base r.toCore)
    (free : r.addrSGIndexer.get? (CloudResourceID.mk name "").string = none)
    (unparked : r.pendingDeleteGroups.has (getGroupUniqueName name true) = false)
    (ipBlocks : List IPNet) :
    Effects (· = .event name true) r (r.addIPBlocks name ipBlocks) :=
  allocate_add_effects base { membershipOnly := true, id := ⟨name, ""⟩, ipBlocks }
    ⟨rfl, rfl, rfl, rfl, rfl, rfl⟩ rfl free unparked

section Loop

variable (loop : MemberLoop) (base : Base loop.r.toCore)
  (unparked : loop.r.pendingDeleteGroups.has (getGroupUniqueName name isAddrGrp) = false)

include base unparked

theorem addMembersOfVpc_effects (entry : String × List CloudResource) :
    Effects (· = .event name isAddrGrp) loop.r (addMembersOfVpc name isAddrGrp loop entry).r := by
  simp only [addMembersOfVpc]
  split
  next sg found =>
    split
    · exact .refl _
    · exact update_event_effects base found _ _
  next free =>
    exact allocate_add_effects base
      { membershipOnly := isAddrGrp, id := ⟨name, entry.1⟩, members := entry.2 }
      ⟨rfl, rfl, rfl, rfl, rfl, rfl⟩ rfl free unparked

theorem addMembers_effects (entries : List (String × List CloudResource)) :
    Effects (· = .event name isAddrGrp) loop.r
      (entries.foldl (addMembersOfVpc name isAddrGrp) loop).r := by
  induction entries generalizing loop with
  | nil => exact .refl _
  | cons entry rest induction =>
    have first := addMembersOfVpc_effects loop base unparked entry
    exact first.trans (induction _ (base.effects first)
      ((has_event_effects first _).trans unparked))

theorem updateMemberIPs_effects (eventType : EventType) (addedIPs removedIPs : List IPNet) :
    Effects (· = .event name isAddrGrp) loop.r
      (updateMemberIPs name eventType isAddrGrp addedIPs removedIPs loop).r := by
  simp only [updateMemberIPs]
  split
  next here =>
    obtain ⟨rfl, _⟩ := here
    split
    next sg found =>
      have found : (loop.r.indexer true).get? _ = some sg := found
      exact updateIPs_effects (base.indexed found) _ _
    next free =>
      split
      · exact addIPBlocks_effects base free unparked _
      · exact .refl _
  next => exact .refl _

theorem addEmptyGroup_effects (eventType : EventType) (added removed : List GroupMember)
    (addedIPs : List IPNet) :
    Effects (· = .event name isAddrGrp) loop.r
      (addEmptyGroup name eventType isAddrGrp added removed addedIPs loop).r := by
  simp only [addEmptyGroup]
  split
  next here =>
    obtain ⟨_, _, _, rfl⟩ := here
    split
    next => exact .refl _
    next free => exact addIPBlocks_effects base free unparked _
  next => exact .refl _

end Loop

theorem recomputePolicies_effects (base : Base r.toCore) :
    Effects (· = .event name isAddrGrp) r (r.recomputePolicies name) :=
  base.forAny_effects rfl fun key _ base =>
    recomputePolicy_event_effects base name isAddrGrp key

/-- `processMemberGrp` after the loop over the added members. -/
def finishMemberGrp (name : String) (eventType : EventType) (isAddrGrp : Bool)
    (added removed : List GroupMember) (addedIPs removedIPs : List IPNet) (grown : MemberLoop) :
    Reconciler :=
  let shrunk : MemberLoop :=
    { grown with
      r := grown.r.forRange grown.removedMembers.bindings (removeMembersOfVpc name isAddrGrp) }
  let addressed := updateMemberIPs name eventType isAddrGrp addedIPs removedIPs shrunk
  let ended := addEmptyGroup name eventType isAddrGrp added removed addedIPs addressed
  if ended.sgChanges && isAddrGrp then ended.r.recomputePolicies name else ended.r

theorem applyMemberGrp_eq (name : String) (eventType : EventType) (isAddrGrp : Bool)
    (added removed : List GroupMember) (addedResources removedResources : GroupResources)
    (r : Reconciler) :
    r.applyMemberGrp name eventType isAddrGrp added removed addedResources removedResources =
      finishMemberGrp name eventType isAddrGrp added removed addedResources.ipBlocks
        removedResources.ipBlocks
        ((arrange (r.order 0) addedResources.vpcs.bindings).foldl
          (addMembersOfVpc name isAddrGrp)
          { removedMembers := removedResources.vpcs, sgChanges := false, r := r.advance }) :=
  rfl

theorem finishMemberGrp_effects {grown : MemberLoop} (base : Base grown.r.toCore)
    (unparked : grown.r.pendingDeleteGroups.has (getGroupUniqueName name isAddrGrp) = false)
    (eventType : EventType) (added removed : List GroupMember) (addedIPs removedIPs : List IPNet) :
    Effects (· = .event name isAddrGrp) grown.r
      (finishMemberGrp name eventType isAddrGrp added removed addedIPs removedIPs grown) := by
  let shrunk : MemberLoop :=
    { grown with
      r := grown.r.forRange grown.removedMembers.bindings (removeMembersOfVpc name isAddrGrp) }
  let addressed := updateMemberIPs name eventType isAddrGrp addedIPs removedIPs shrunk
  let ended := addEmptyGroup name eventType isAddrGrp added removed addedIPs addressed
  have shrink : Effects (· = .event name isAddrGrp) grown.r shrunk.r :=
    removeMembers_effects base name isAddrGrp grown.removedMembers.bindings
  have address := shrink.trans (updateMemberIPs_effects shrunk (base.effects shrink)
    ((has_event_effects shrink _).trans unparked) eventType addedIPs removedIPs)
  have ends : Effects (· = .event name isAddrGrp) grown.r ended.r :=
    address.trans (addEmptyGroup_effects addressed (base.effects address)
      ((has_event_effects address _).trans unparked) eventType added removed addedIPs)
  show Effects _ grown.r (if ended.sgChanges && isAddrGrp then ended.r.recomputePolicies name
    else ended.r)
  split
  · exact ends.trans (recomputePolicies_effects (base.effects ends))
  · exact ends

/-- `processMemberGrp` after the members have been resolved. -/
theorem applyMemberGrp_effects (base : Base r.toCore)
    (unparked : r.pendingDeleteGroups.has (getGroupUniqueName name isAddrGrp) = false)
    (eventType : EventType) (added removed : List GroupMember)
    (addedResources removedResources : GroupResources) :
    Effects (· = .event name isAddrGrp) r
      (r.applyMemberGrp name eventType isAddrGrp added removed addedResources
        removedResources) := by
  let start : MemberLoop :=
    { removedMembers := removedResources.vpcs, sgChanges := false, r := r.advance }
  have drawn : Effects (· = .event name isAddrGrp) r start.r := .single rfl (.order _)
  have grow := drawn.trans (addMembers_effects start (base.effects drawn) unparked
    (arrange (r.order 0) addedResources.vpcs.bindings))
  rw [applyMemberGrp_eq]
  exact grow.trans (finishMemberGrp_effects (base.effects grow)
    ((has_event_effects grow _).trans unparked) eventType added removed _ _)

/-! ## Stale members -/

/-- A loop over the objects of one group, each pass keeping to its own object. -/
theorem forGroup_effects (base : Base r.toCore) (allowed : Origin → Prop)
    (about : Ref → Origin → Prop) (membershipOnly : Bool) {body : Ref → Reconciler → Reconciler}
    {o : Origin} (drawn : allowed o) (permitted : ∀ c o, about c o → allowed o)
    (own : ∀ c o, about c o → (∀ d, d ≠ c → o.target ≠ some d) ∧ ¬ o.IsRetry)
    (pass : ∀ (c : Ref) (r : Reconciler), Base r.toCore → r.Indexed c →
      (r.objects c).membershipOnly = membershipOnly → (r.objects c).id.name = name →
      Effects (about c) r (body c r)) :
    Effects allowed r (r.forRange (r.groupsByName membershipOnly name) body) := by
  let also (r' : Reconciler) : Prop :=
    ∀ c ∈ r.groupsByName membershipOnly name, c < r'.nextRef ∧
      (r'.objects c).membershipOnly = membershipOnly ∧ (r'.objects c).id.name = name
  have initially : also r.advance := fun c member =>
    ⟨base.allocated (base.groupsByName member).1, (base.groupsByName member).2⟩
  refine (base.forRange_effects allowed about also (base.nodup_groupsByName membershipOnly name)
    (fun c member => (base.groupsByName member).1) initially drawn permitted own ?_).1
  intro c member r' base' indexed known
  have effects := pass c r' base' indexed (known c member).2.1 (known c member).2.2
  refine ⟨effects, fun d member => ?_⟩
  obtain ⟨old, kind, named⟩ := known d member
  obtain ⟨old, sameKind, sameId⟩ := static_effects effects old
  exact ⟨old, sameKind.trans kind, sameId ▸ named⟩

theorem removeStale_effects (base : Base r.toCore) (name : String)
    (notFoundMember : List String) :
    Effects (fun o => o = .stale name ∧ notFoundMember ≠ []) r
      (r.removeStale name notFoundMember) := by
  have loop {r : Reconciler} (base : Base r.toCore) (membershipOnly : Bool) :
      Effects (· = .stale name) r
        (r.forRange (r.groupsByName membershipOnly name) fun sg r =>
          r.removeStaleMembers sg notFoundMember) :=
    forGroup_effects base _ (fun _ => (· = .stale name)) membershipOnly rfl
      (fun _ _ same => same)
      (by rintro c _ rfl; exact ⟨fun _ _ => by rintro ⟨⟩, by simp [Origin.IsRetry]⟩)
      fun c r base indexed kind named => removeStaleMembers_effects indexed named _
  simp only [removeStale]
  split
  · exact .refl r
  next some_ =>
    exact ((loop base true).trans (loop (base.effects (loop base true)) false)).mono
      fun _ same => ⟨same, some_⟩

theorem deleteGroup_effects (base : Base r.toCore) :
    Effects (fun o => ∃ target, o = .deleted name isAddrGrp target) r
      (r.forRange (r.groupsByName isAddrGrp name) fun sg r => r.delete sg) := by
  refine forGroup_effects base _ (fun c o => o = .deleted name isAddrGrp (some c)) isAddrGrp
    ⟨none, rfl⟩ (fun c o same => ⟨some c, same⟩) ?_ ?_
  · rintro c o rfl
    exact ⟨fun d other same => other (Option.some.inj same).symm, by simp [Origin.IsRetry]⟩
  · intro c r base indexed kind named
    exact delete_effects base (base.allocated indexed) ⟨rfl, indexed, named, kind⟩
      (base.alive c indexed)

theorem processMembers_effects (base : Base r.toCore) (eventType : EventType)
    (unparked : r.pendingDeleteGroups.has (getGroupUniqueName name isAddrGrp) = false)
    (added removed : List GroupMember) :
    Effects (Origin.OfGroup r.env name isAddrGrp eventType removed) r
      (r.processMembers name eventType isAddrGrp added removed).2 := by
  cases eventType with
  | added =>
    simp only [processMembers]
    split
    · exact .refl r
    · split
      · exact .refl r
      · exact (applyMemberGrp_effects base unparked _ _ _ _ _).mono fun _ same =>
          .inl (Origin.isGroup_event .added (by simp) same)
  | modified =>
    simp only [processMembers]
    split
    · exact .refl r
    · split
      · exact .refl r
      · split
        · exact .refl r
        next removedResources resolved =>
          have missing : removedResources.notFoundMember = r.env.missing removed := by
            rw [vpcsFromGroupMembers_eq] at resolved
            split at resolved
            · cases resolved
            · cases resolved
              exact GroupResources.notFoundMember_foldl_collect r.env removed {}
          have stale := removeStale_effects base name removedResources.notFoundMember
          refine (stale.mono fun _ stale => .inr ⟨stale.1, missing ▸ stale.2⟩).trans ?_
          have unparked' := (has_stale_effects (stale.mono fun _ => And.left) _).trans unparked
          exact (applyMemberGrp_effects (base.effects stale) unparked' _ _ _ _ _).mono
            fun _ same => .inl (Origin.isGroup_event .modified (by simp) same)
  | deleted =>
    exact (deleteGroup_effects base).mono fun _ same => .inl (Origin.isGroup_deleted same)
  | bookmark => exact .refl r
  | error => exact .refl r

end Reconciler

/-! ## Events that wait -/

namespace PendingGroup

/-- Recording an Added or Modified event fills the maps. -/
theorem updatePendingItem_maps (group : PendingGroup) {type : EventType}
    (known : type = .added ∨ type = .modified) (added removed : List GroupMember) :
    ∃ addedMembers removedMembers, (group.updatePendingItem (.event type added removed)).1 =
      { group with event := some (group.event.getD type), addedMembers, removedMembers } := by
  let Filled (now : PendingGroup × Bool) := ∃ addedMembers removedMembers, now.1 =
    { group with event := some (group.event.getD type), addedMembers, removedMembers }
  have removing (now : PendingGroup × Bool) (filled : Filled now) (member : GroupMember) :
      Filled (recordRemoved now member) := by
    obtain ⟨addedMembers, removedMembers, same⟩ := filled
    simp only [recordRemoved]
    split
    · exact ⟨_, _, same⟩
    · split
      · exact ⟨_, _, by rw [same]⟩
      · exact ⟨_, _, by rw [same]⟩
  have adding (now : PendingGroup × Bool) (filled : Filled now) (member : GroupMember) :
      Filled (recordAdded now member) := by
    obtain ⟨addedMembers, removedMembers, same⟩ := filled
    simp only [recordAdded]
    split
    · exact ⟨_, _, same⟩
    · exact ⟨_, _, by rw [same]⟩
  have notDeleted : type ≠ .deleted := by rcases known with rfl | rfl <;> simp
  simp only [updatePendingItem, notDeleted, if_false, known, if_true]
  refine List.foldlRecOn (motive := Filled) _ _ (List.foldlRecOn (motive := Filled) _ _ ?_
    fun now filled member _ => removing now filled member)
    fun now filled member _ => adding now filled member
  refine ⟨group.addedMembers, group.removedMembers, ?_⟩
  cases group.event <;> rfl

/-- Recording an event keeps the reference count and leaves no Deleted event to run. -/
theorem updatePendingItem_event (group : PendingGroup) (type : EventType)
    (added removed : List GroupMember) (kept : group.event ≠ some .deleted) :
    (group.updatePendingItem (.event type added removed)).1.refCnt = group.refCnt ∧
      (group.updatePendingItem (.event type added removed)).1.runOnClear = group.runOnClear ∧
      (group.updatePendingItem (.event type added removed)).1.event ≠ some .deleted := by
  by_cases known : type = .added ∨ type = .modified
  · obtain ⟨_, _, same⟩ := group.updatePendingItem_maps known added removed
    rw [same]
    refine ⟨rfl, rfl, fun deleted => ?_⟩
    cases event : group.event with
    | none => rcases known with rfl | rfl <;> simp [event] at deleted
    | some old => exact kept (by simpa [event] using deleted)
  · simp only [updatePendingItem, known, if_false]
    split
    · exact ⟨rfl, rfl, by simp⟩
    next other =>
      refine ⟨rfl, rfl, ?_⟩
      split
      · exact fun same => other (Option.some.inj same)
      · exact kept

end PendingGroup

namespace Reconciler

variable {r : Reconciler} {name : String} {isAddrGrp : Bool}

/-- An event of a group that is being deleted waits in its entry. -/
theorem pendingDeleteGroupsUpdate_event_effects {o : Origin} (base : Base r.toCore)
    (key : String) (type : EventType) (added removed : List GroupMember) :
    Effects (· = o) r (r.pendingDeleteGroupsUpdate key (.event type added removed)) := by
  simp only [pendingDeleteGroupsUpdate, QueueAt.update, pendingDeleteGroupsAt]
  split
  · exact .refl r
  next counting found =>
    obtain ⟨unbounded, group, refCnt, isGroup, some_, kept⟩ := base.entries key counting found
    obtain ⟨item, opCnt⟩ := counting
    subst isGroup
    obtain ⟨sameCnt, sameRun, kept⟩ := group.updatePendingItem_event type added removed kept
    have parked : Effects (· = o) r
        { r with
          pendingDeleteGroups := r.pendingDeleteGroups.setItem key
            (.pendingGroup (group.updatePendingItem (.event type added removed)).1) } :=
      .single rfl (.park key group _ opCnt found ⟨sameCnt, sameRun⟩ kept)
    simp only [PendingItem.updatePendingItem]
    split
    · exact parked.tail rfl .panic
    · exact parked

/-- A group event that could not be applied waits in the retry queue. -/
theorem queueEvent_effects (base : Base r.toCore) (type : EventType)
    (added removed : List GroupMember) :
    Effects (· = .event name isAddrGrp) r
      ({ r with
          retryQueue := r.retryQueue.add (getGroupUniqueName name isAddrGrp)
            (.pendingGroup {}) }.retryQueueUpdate (getGroupUniqueName name isAddrGrp)
        (.event type added removed)) := by
  simp only [retryQueueUpdate, QueueAt.update, retryQueueAt, PendingItemQueue.get?_add, if_true]
  have queued (group : PendingGroup) (retry : group.refCnt = none)
      (kept : group.event ≠ some .deleted)
      (slot : ∀ counting,
        r.retryQueue.items.get? (getGroupUniqueName name isAddrGrp) = some counting →
          ∃ queued, counting.item = .pendingGroup queued) :
      Effects (· = .event name isAddrGrp) r
        { r with
          retryQueue :=
            (r.retryQueue.add (getGroupUniqueName name isAddrGrp) (.pendingGroup {})).setItem
              (getGroupUniqueName name isAddrGrp)
              (.pendingGroup (group.updatePendingItem (.event type added removed)).1) } := by
    obtain ⟨sameCnt, _, kept⟩ := group.updatePendingItem_event type added removed kept
    exact .single rfl (.queueEvent _ (sameCnt.trans retry) kept slot)
  cases found : r.retryQueue.items.get? (getGroupUniqueName name isAddrGrp) with
  | none =>
    have first := queued {} rfl (by simp) (fun counting there => by simp [found] at there)
    simp only [Option.getD_none, PendingItem.updatePendingItem]
    split
    · exact first.tail rfl .panic
    · exact first
  | some counting =>
    obtain ⟨item, count⟩ := counting
    have known := (base.queue _ _ found).2
    cases item with
    | pendingGroup group =>
      have again := queued group known.1 known.2
        (fun counting there => by
          obtain rfl := Option.some.inj (found.symm.trans there)
          exact ⟨group, rfl⟩)
      simp only [Option.getD_some, PendingItem.updatePendingItem]
      split
      · exact again.tail rfl .panic
      · exact again
    | securityGroup c =>
      -- The item of an object sits under the name: the type assertion fails.
      have touched : Effects (· = .event name isAddrGrp) r
          { r with
            retryQueue := r.retryQueue.setItem (getGroupUniqueName name isAddrGrp)
              (.securityGroup c) } :=
        .single rfl (.touchItem _ ⟨.securityGroup c, count⟩ found)
      have same : r.retryQueue.add (getGroupUniqueName name isAddrGrp)
          (.pendingGroup {}) = r.retryQueue := by
        simp [PendingItemQueue.add, PendingItemQueue.has, found]
      simp only [Option.getD_some, PendingItem.updatePendingItem, same]
      exact touched.tail rfl .panic

theorem retryMemberGrp_effects (base : Base r.toCore) (eventType : EventType) (failed : Bool)
    (added removed : List GroupMember) :
    Effects (Origin.IsGroup name isAddrGrp eventType) r
      (r.retryMemberGrp name eventType isAddrGrp failed added removed) := by
  simp only [retryMemberGrp]
  by_cases kind : eventType = .deleted
  · subst kind
    rw [if_pos rfl, if_neg (by simp)]
    exact .single (Origin.isGroup_deleted ⟨none, rfl⟩) .dropEvent
  · rw [if_neg kind]
    split
    · exact (queueEvent_effects base eventType added removed).mono fun _ =>
        Origin.isGroup_event _ kind
    · exact .refl r

theorem processMemberGrp_effects (base : Base r.toCore) (name : String) (isAddrGrp : Bool)
    (eventType : EventType) (added removed : List GroupMember) :
    Effects (Origin.OfGroup r.env name isAddrGrp eventType removed) r
      (r.processMemberGrp name eventType isAddrGrp added removed).2 := by
  simp only [processMemberGrp]
  split
  next =>
    have parked : Effects (Origin.IsGroup name isAddrGrp eventType) r
        (r.pendingDeleteGroupsUpdate (getGroupUniqueName name isAddrGrp)
          (.event eventType added removed)) := by
      by_cases deleted : eventType = .deleted
      · subst deleted
        exact (pendingDeleteGroupsUpdate_event_effects (o := .deleted name isAddrGrp none)
          base _ _ _ _).mono fun o same => Origin.isGroup_deleted ⟨none, same⟩
      · exact (pendingDeleteGroupsUpdate_event_effects base _ _ _ _).mono fun _ =>
          Origin.isGroup_event _ deleted
    exact (parked.trans (retryMemberGrp_effects (base.effects parked) _ _ _ _)).mono
      fun _ => .inl
  next unparked =>
    have applied := processMembers_effects base eventType (by simpa using unparked) added
      removed
    exact applied.trans ((retryMemberGrp_effects (base.effects applied) _ _ _ _).mono
      fun _ => .inl)

end Reconciler

end Nephe
