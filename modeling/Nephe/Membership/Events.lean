import Nephe.Membership.Holdings
import Nephe.Safety.Names

/-!
# What an event of a group does to its holdings

`processMemberGrp` for an event whose members can be read: the two loops put
and drop members, the object without a VPC takes the addresses, and the policies
that refer to an address group recompute their rules, which touches appliedTo
groups only.
-/

namespace Nephe

open Library

/-! ## Recomputing policies -/

/-- The recorded events are the same; only the items of objects, named with a slash, change. -/
def SameEvents (r r' : Reconciler) : Prop :=
  ∀ key, '/' ∉ key.toList → r'.retryQueue.items.get? key = r.retryQueue.items.get? key

theorem SameEvents.of_eq {r r' : Reconciler} (same : r'.retryQueue = r.retryQueue) :
    SameEvents r r' :=
  fun _ _ => by rw [same]

/-- AppliedTo objects may change and leave their indexer; address objects stay as they are. -/
structure AppliedOnly (r r' : Reconciler) : Prop where
  objects : ∀ c, (r.objects c).membershipOnly = true → r'.objects c = r.objects c
  kinds : ∀ c, (r'.objects c).membershipOnly = (r.objects c).membershipOnly
  ids : ∀ c, (r'.objects c).id = (r.objects c).id
  addresses : r'.addrSGIndexer = r.addrSGIndexer
  applied : ∀ key c, r'.appliedToSGIndexer.get? key = some c →
    r.appliedToSGIndexer.get? key = some c
  nextRef : r'.nextRef = r.nextRef
  events : SameEvents r r'

namespace AppliedOnly

variable {r r' r'' : Reconciler}

theorem refl (r : Reconciler) : AppliedOnly r r :=
  ⟨fun _ _ => rfl, fun _ => rfl, fun _ => rfl, rfl, fun _ _ found => found, rfl, .of_eq rfl⟩

theorem trans (left : AppliedOnly r r') (right : AppliedOnly r' r'') : AppliedOnly r r'' where
  objects c kind :=
    (right.objects c ((left.kinds c).trans kind)).trans (left.objects c kind)
  kinds c := (right.kinds c).trans (left.kinds c)
  ids c := (right.ids c).trans (left.ids c)
  addresses := right.addresses.trans left.addresses
  applied key c found := left.applied key c (right.applied key c found)
  nextRef := right.nextRef.trans left.nextRef
  events key plain := (right.events key plain).trans (left.events key plain)

theorem of_same (objects : r'.objects = r.objects)
    (addresses : r'.addrSGIndexer = r.addrSGIndexer)
    (applied : r'.appliedToSGIndexer = r.appliedToSGIndexer) (nextRef : r'.nextRef = r.nextRef)
    (events : SameEvents r r') : AppliedOnly r r' :=
  ⟨fun _ _ => by rw [objects], fun _ => by rw [objects], fun _ => by rw [objects], addresses,
    fun _ _ found => applied ▸ found, nextRef, events⟩

theorem of_quiet {new : Ref → Prop} {lost : String → Prop} (quiet : Quiet new lost r r') :
    AppliedOnly r r' := by
  obtain ⟨_, _, rfl, _⟩ := quiet
  exact .of_same rfl rfl rfl rfl (.of_eq rfl)

/-- Only an appliedTo object changes, in other fields than its kind and id. -/
theorem of_changes {c : Ref} {group : SecurityGroup} (changes : Changes c group r r')
    (kind : (r.objects c).membershipOnly = false)
    (same : group.membershipOnly = (r.objects c).membershipOnly ∧ group.id = (r.objects c).id) :
    AppliedOnly r r' where
  objects d address := by
    rw [changes.objects]
    exact Function.update_of_ne (by rintro rfl; simp [kind] at address) _ _
  kinds := changes.field (·.membershipOnly) same.1
  ids := changes.field (·.id) same.2
  addresses := changes.indexers true
  applied key d found := by
    have same : r'.appliedToSGIndexer = r.appliedToSGIndexer := changes.indexers false
    exact same ▸ found
  nextRef := changes.nextRef
  events := .of_eq changes.queue

theorem foldl {α : Type} {body : α → Reconciler → Reconciler} {list : List α} (r : Reconciler)
    (pass : ∀ element ∈ list, ∀ r', AppliedOnly r r' → AppliedOnly r' (body element r')) :
    AppliedOnly r (list.foldl (fun r element => body element r) r) :=
  List.foldlRecOn (motive := AppliedOnly r) list _ (.refl r) fun r' before element member =>
    before.trans (pass element member r' before)

theorem indexer (only : AppliedOnly r r') : r'.indexer true = r.indexer true := by
  simp [Core.indexer, only.addresses]

theorem find? (only : AppliedOnly r r') (name vpc : String) :
    r'.find? true name vpc = r.find? true name vpc := by
  rw [Core.find?, only.indexer, ← Core.find?]

theorem shaped {name : String} (only : AppliedOnly r r') (shaped : Shaped r.toCore true name) :
    Shaped r'.toCore true name where
  index kind key c found := by
    rw [only.nextRef, only.kinds, only.ids]
    cases kind with
    | true => exact shaped.index true key c (only.indexer ▸ found)
    | false => exact shaped.index false key c (only.applied key c found)
  own vpc c found := by
    rw [only.find?] at found
    rw [only.ids]
    exact shaped.own vpc c found
  members vpc c found := by
    rw [only.find?] at found
    rw [only.objects c (shaped.index _ _ _ found).2.1]
    exact shaped.members vpc c found

theorem holding {name : String} (only : AppliedOnly r r') (shaped : Shaped r.toCore true name)
    (vpc : String) : r'.holding true name vpc = r.holding true name vpc := by
  rw [Core.holding, Core.holding, only.find?]
  cases found : r.find? true name vpc with
  | none => rfl
  | some c =>
    rw [Option.map_some, Option.map_some, only.objects c (shaped.index _ _ _ found).2.1]

end AppliedOnly

namespace Reconciler

variable {r : Reconciler} {c : Ref}

theorem appliedOnly_assign (r : Reconciler) (c : Ref) (change : SecurityGroup → SecurityGroup)
    (kind : (r.objects c).membershipOnly = false)
    (same : ∀ group, (change group).membershipOnly = group.membershipOnly ∧
      (change group).id = group.id) : AppliedOnly r (r.assign c change) :=
  .of_changes ⟨rfl, fun _ => rfl, rfl, rfl⟩ kind (same _)

theorem appliedOnly_advance (r : Reconciler) : AppliedOnly r r.advance :=
  .of_same rfl rfl rfl rfl (.of_eq rfl)

theorem appliedOnly_countDelete (id : String) (refCnt : Int) (runOnClear : Bool) :
    AppliedOnly r (r.pendingDeleteGroupsUpdate id (.reference refCnt runOnClear)) := by
  simp only [pendingDeleteGroupsUpdate, QueueAt.update]
  split
  · exact .refl r
  next counting _ =>
    cases counting.item with
    | securityGroup ref => exact .of_same rfl rfl rfl rfl (.of_eq rfl)
    | pendingGroup group =>
      simp only [PendingItem.updatePendingItem]
      split <;> exact .of_same rfl rfl rfl rfl (.of_eq rfl)

theorem appliedOnly_indexerDelete (kind : (r.objects c).membershipOnly = false) :
    AppliedOnly r (r.indexerDelete c) where
  objects _ _ := rfl
  kinds _ := rfl
  ids _ := rfl
  addresses := by simp [indexerDelete, kind]
  applied key d found := by
    simp only [indexerDelete, kind, Bool.false_eq_true, if_false, GoMap.get?_remove] at found
    split at found
    next => cases found
    next => exact found
  nextRef := rfl
  events := .of_eq rfl

/-- Only the items of objects are taken out of the queue. -/
theorem appliedOnly_dequeue (r : Reconciler) (group : SecurityGroup) :
    AppliedOnly r { r with retryQueue := r.retryQueue.remove group.uName } := by
  refine .of_same rfl rfl rfl rfl fun key plain => ?_
  have other : key ≠ group.uName := by
    rintro rfl
    refine plain ?_
    rw [SecurityGroup.uName, toList_getGroupUniqueName, toList_string]
    split <;> simp
  rw [PendingItemQueue.get?_remove, if_neg other]

theorem appliedOnly_deleteImplIssue (r : Reconciler) (c : Ref)
    (kind : (r.objects c).membershipOnly = false) : AppliedOnly r (r.deleteImplIssue c) := by
  simp only [deleteImplIssue]
  split
  · exact .refl r
  · have counted : AppliedOnly r (r.pendingDeleteGroupsUpdate (r.objects c).guName
        (.reference 1 false)) := appliedOnly_countDelete _ 1 false
    have marked := counted.trans (appliedOnly_assign _ c
      (fun s => { s with status := some .inProgress }) ((counted.kinds c).trans kind)
      fun _ => ⟨rfl, rfl⟩)
    exact marked.trans (.of_same rfl rfl rfl rfl (.of_eq rfl))

theorem appliedOnly_deleteImpl (r : Reconciler) (c : Ref)
    (kind : (r.objects c).membershipOnly = false) : AppliedOnly r (r.deleteImpl c) := by
  have entered : AppliedOnly r (r.deleteImplEntry c) := .of_same rfl rfl rfl rfl (.of_eq rfl)
  simp only [deleteImpl]
  split
  · split
    · exact entered.trans (appliedOnly_assign _ c _ kind fun _ => ⟨rfl, rfl⟩)
    · let unlisted : Reconciler :=
        { (r.deleteImplEntry c).indexerDelete c with
          retryQueue := (r.deleteImplEntry c).retryQueue.remove (r.objects c).uName }
      have dropped : AppliedOnly r unlisted :=
        (entered.trans (appliedOnly_indexerDelete kind)).trans (appliedOnly_dequeue _ _)
      have reset : AppliedOnly r (unlisted.assign c fun s => { s with retryOp := none }) :=
        dropped.trans (appliedOnly_assign unlisted c _ kind fun _ => ⟨rfl, rfl⟩)
      split
      · exact reset
      · have collected := reset.trans (appliedOnly_assign _ c
          (fun s => { s with state := .garbageCollectState }) ((reset.kinds c).trans kind)
          fun _ => ⟨rfl, rfl⟩)
        exact collected.trans (appliedOnly_deleteImplIssue _ c ((collected.kinds c).trans kind))
  · exact entered.trans (appliedOnly_deleteImplIssue _ c kind)

theorem appliedOnly_delete (r : Reconciler) (c : Ref)
    (kind : (r.objects c).membershipOnly = false) : AppliedOnly r (r.delete c) := by
  simp only [delete, kind, Bool.false_eq_true, if_false]
  split
  · have tracked : AppliedOnly r (r.forEach (r.objects c).members fun rsc r =>
        r.updateTracker rsc false c true) :=
      .of_quiet (quiet_updateTrackers _ false c true r)
    exact tracked.trans (appliedOnly_deleteImpl _ c ((tracked.kinds c).trans kind))
  · exact appliedOnly_deleteImpl r c kind

theorem appliedOnly_updateRules (r : Reconciler) (c : Ref)
    (kind : (r.objects c).membershipOnly = false) : AppliedOnly r (r.updateRules c) := by
  have drawn := appliedOnly_advance r
  simp only [updateRules]
  split
  · exact .refl r
  · split
    · exact .refl r
    · split
      · split
        · exact .of_same rfl rfl rfl rfl (.of_eq rfl)
        · exact drawn.trans (appliedOnly_assign _ c _ kind fun _ => ⟨rfl, rfl⟩)
      · split
        · exact .of_same rfl rfl rfl rfl (.of_eq rfl)
        · exact drawn

theorem appliedOnly_notifyNetworkPolicyChange (r : Reconciler) (c : Ref)
    (kind : (r.objects c).membershipOnly = false) :
    AppliedOnly r (r.notifyNetworkPolicyChange c) := by
  simp only [notifyNetworkPolicyChange, kind, Bool.false_eq_true, if_false]
  split
  · exact appliedOnly_delete r c kind
  · split
    · exact appliedOnly_updateRules r c kind
    · exact .refl r

/-- The appliedTo indexer points to appliedTo objects. -/
def AppliedIndexed (r : Reconciler) : Prop :=
  ∀ key c, r.appliedToSGIndexer.get? key = some c → (r.objects c).membershipOnly = false

theorem AppliedIndexed.only {r r' : Reconciler} (indexed : r.AppliedIndexed)
    (only : AppliedOnly r r') : r'.AppliedIndexed :=
  fun key c found => (only.kinds c).trans (indexed key c (only.applied key c found))

theorem appliedOnly_notifyGroups (names : List String) {r : Reconciler}
    (indexed : r.AppliedIndexed) : AppliedOnly r (r.notifyGroups false names) := by
  refine AppliedOnly.foldl r fun name _ r' only => ?_
  refine (appliedOnly_advance r').trans (AppliedOnly.foldl _ fun c member r'' later => ?_)
  have listed := List.mem_of_mem_filter ((mem_arrange _ _ _).mp member)
  obtain ⟨key, found⟩ := (GoMap.mem_values _ _).mp listed
  exact appliedOnly_notifyNetworkPolicyChange r'' c
    ((later.kinds c).trans (indexed.only only key c found))

theorem appliedOnly_recomputePolicies (name : String) {r : Reconciler}
    (indexed : r.AppliedIndexed) : AppliedOnly r (r.recomputePolicies name) := by
  refine (appliedOnly_advance r).trans (AppliedOnly.foldl _ fun key _ r' only => ?_)
  have indexed' := indexed.only ((appliedOnly_advance r).trans only)
  simp only [recomputePolicy]
  split
  · exact .refl r'
  next policy _ =>
    have computed : AppliedOnly r' (r'.computePolicyRules key policy) :=
      .of_same rfl rfl rfl rfl (.of_eq rfl)
    split
    · exact computed
    · split
      · exact computed.trans (appliedOnly_notifyGroups _ (indexed'.only computed))
      · exact computed

end Reconciler

/-! ## Addresses -/

namespace Holding

/-- Drop the removed addresses and put the added ones; some events make the object. -/
def putAddresses (creates : Prop) [Decidable creates] (added removed : List IPNet) :
    Option Holding → Option Holding
  | some holding =>
    some { holding with
      addresses := { block | block ∈ added ∨ (block ∈ holding.addresses ∧ block ∉ removed) } }
  | none => if creates then some ⟨∅, { block | block ∈ added }⟩ else none

theorem putAddresses_nil {creates : Prop} [Decidable creates] (holding : Holding) :
    putAddresses creates [] [] (some holding) = some holding := by
  simp [putAddresses]

end Holding

namespace Reconciler

variable {kind : Bool} {name : String} {loop : MemberLoop}

theorem updateIPs_spec {r : Reconciler} {c : Ref} (shaped : Shaped r.toCore true name)
    (found : r.find? true name "" = some c) (creates : Prop) [Decidable creates]
    (added removed : List IPNet) :
    (Shaped (r.updateIPs c added removed).toCore true name ∧
        (r.updateIPs c added removed).retryQueue = r.retryQueue) ∧
      ∀ vpc, (r.updateIPs c added removed).holding true name vpc =
        if vpc = "" then Holding.putAddresses creates added removed (r.holding true name vpc)
        else r.holding true name vpc := by
  have changes : Changes c
      { r.objects c with
        ipBlocks := mergeIPs (r.order 0) (r.objects c).ipBlocks added removed }
      r (r.updateIPs c added removed) := ⟨rfl, fun _ => rfl, rfl, rfl⟩
  refine ⟨⟨shaped.change changes ⟨rfl, rfl⟩ fun vpc found' => shaped.members vpc c found', rfl⟩,
    fun vpc => ?_⟩
  rw [shaped.holding_change found changes]
  split
  next here =>
    rw [here, Core.holding_of_found found]
    simp only [Holding.putAddresses, SecurityGroup.holding, Option.some.injEq,
      Holding.mk.injEq, true_and]
    ext block
    exact mem_mergeIPs _ _ _ _ block
  next => rfl

theorem addIPBlocks_spec {r : Reconciler} (shaped : Shaped r.toCore true name)
    (ipBlocks : List IPNet) :
    (Shaped (r.addIPBlocks name ipBlocks).toCore true name ∧
        (r.addIPBlocks name ipBlocks).retryQueue = r.retryQueue) ∧
      ∀ vpc, (r.addIPBlocks name ipBlocks).holding true name vpc =
        if vpc = "" then some ⟨∅, { block | block ∈ ipBlocks }⟩ else r.holding true name vpc := by
  obtain ⟨status, creates⟩ :=
    r.creates_add { membershipOnly := true, id := ⟨name, ""⟩, ipBlocks := ipBlocks }
  refine ⟨⟨shaped.create creates rfl rfl allIn_nil, creates.queue⟩, fun vpc => ?_⟩
  rw [addIPBlocks, shaped.holding_create creates rfl rfl]
  congr 2
  simp [SecurityGroup.holding]

/-- The object without a VPC takes the addresses, and some events make it. -/
theorem putAddresses_spec {r r' : Reconciler} (shaped : Shaped r.toCore true name)
    (creates : Prop) [Decidable creates] {added removed : List IPNet}
    (found : ∀ c, r.find? true name "" = some c →
      r' = r.updateIPs c added removed ∨ (added = [] ∧ removed = []) ∧ r' = r)
    (absent : r.find? true name "" = none →
      r' = if creates then r.addIPBlocks name added else r) :
    (Shaped r'.toCore true name ∧ r'.retryQueue = r.retryQueue) ∧
      ∀ vpc, r'.holding true name vpc =
        if vpc = "" then Holding.putAddresses creates added removed (r.holding true name vpc)
        else r.holding true name vpc := by
  cases there : r.find? true name "" with
  | some c =>
    rcases found c there with rfl | ⟨⟨rfl, rfl⟩, rfl⟩
    · exact updateIPs_spec shaped there creates added removed
    · refine ⟨⟨shaped, rfl⟩, fun vpc => ?_⟩
      split
      next here => rw [here, Core.holding_of_found there, Holding.putAddresses_nil]
      next => rfl
  | none =>
    have nothing := Core.holding_of_absent there
    rw [absent there]
    by_cases made : creates
    · obtain ⟨shaped', holding⟩ := addIPBlocks_spec shaped added
      rw [if_pos made]
      refine ⟨shaped', fun vpc => ?_⟩
      rw [holding]
      by_cases here : vpc = ""
      · simp [here, nothing, Holding.putAddresses, made]
      · simp [here]
    · rw [if_neg made]
      refine ⟨⟨shaped, rfl⟩, fun vpc => ?_⟩
      by_cases here : vpc = ""
      · simp [here, nothing, Holding.putAddresses, made]
      · simp [here]

theorem updateMemberIPs_spec (shaped : Shaped loop.r.toCore kind name) (eventType : EventType)
    (added removed : List IPNet) (complete : eventType = .added → removed = []) :
    let after := updateMemberIPs name eventType kind added removed loop
    (Shaped after.r.toCore kind name ∧ after.r.retryQueue = loop.r.retryQueue) ∧
      ∀ vpc, after.r.holding kind name vpc =
        if kind = true ∧ vpc = "" then
          Holding.putAddresses (eventType = .added ∧ added ≠ []) added removed
            (loop.r.holding kind name vpc)
        else loop.r.holding kind name vpc := by
  cases kind with
  | false => simpa [updateMemberIPs] using shaped
  | true =>
    simp only [true_and]
    by_cases listed : added ≠ [] ∨ removed ≠ []
    · refine putAddresses_spec shaped _ (fun c found => .inl ?_) fun absent => ?_
      · simp [updateMemberIPs, listed, show loop.r.addrSGIndexer.get? _ = some c from found]
      · have filled (isAdded : eventType = .added) : added ≠ [] :=
          listed.resolve_right (not_not.mpr (complete isAdded))
        simp [updateMemberIPs, listed, show loop.r.addrSGIndexer.get? _ = none from absent,
          and_iff_left_of_imp filled]
    · have same : updateMemberIPs name eventType true added removed loop = loop := by
        simp [updateMemberIPs, listed]
      simp only [ne_eq, not_or, not_not] at listed
      rw [same]
      exact putAddresses_spec shaped _ (fun c _ => .inr ⟨listed, rfl⟩) fun _ => by
        simp [listed.1]

theorem addEmptyGroup_spec (shaped : Shaped loop.r.toCore kind name) (eventType : EventType)
    (added removed : List GroupMember) (addedIPs : List IPNet)
    (empty : added = [] → addedIPs = []) :
    let after := addEmptyGroup name eventType kind added removed addedIPs loop
    (Shaped after.r.toCore kind name ∧ after.r.retryQueue = loop.r.retryQueue) ∧
      ∀ vpc, after.r.holding kind name vpc =
        if kind = true ∧ vpc = "" then
          Holding.putAddresses (eventType = .added ∧ added = [] ∧ removed = []) [] []
            (loop.r.holding kind name vpc)
        else loop.r.holding kind name vpc := by
  cases kind with
  | false => simpa [addEmptyGroup] using shaped
  | true =>
    simp only [true_and]
    by_cases placeholder : eventType = .added ∧ added = [] ∧ removed = []
    · refine putAddresses_spec shaped _ (fun c found => .inr ⟨⟨rfl, rfl⟩, ?_⟩) fun absent => ?_
      · simp [addEmptyGroup, placeholder, show loop.r.addrSGIndexer.get? _ = some c from found]
      · simp [addEmptyGroup, placeholder, empty placeholder.2.1,
          show loop.r.addrSGIndexer.get? _ = none from absent]
    · have same : addEmptyGroup name eventType true added removed addedIPs loop = loop := by
        simp only [addEmptyGroup, and_true]
        exact if_neg placeholder
      rw [same]
      exact putAddresses_spec shaped _ (fun c _ => .inr ⟨⟨rfl, rfl⟩, rfl⟩) fun _ =>
        (if_neg placeholder).symm

end Reconciler

/-! ## Events -/

/-- What an event with readable members does to the holding of a VPC. -/
def Holding.apply (kind : Bool) (env : Env) (eventType : EventType)
    (added removed : List GroupMember) (vpc : String) (holding : Option Holding) :
    Option Holding :=
  let holding := put (env.resourcesIn added vpc) (env.resourcesIn removed vpc) holding
  if kind = true ∧ vpc = "" then
    putAddresses (eventType = .added ∧ (added = [] ∨ env.addresses added ≠ []))
      (env.addresses added) (env.addresses removed) holding
  else holding

theorem Holding.putAddresses_twice {first second both : Prop} [Decidable first]
    [Decidable second] [Decidable both] (either : both ↔ first ∨ second)
    {added removed : List IPNet} (empty : second → added = []) (holding : Option Holding) :
    putAddresses second [] [] (putAddresses first added removed holding) =
      putAddresses both added removed holding := by
  cases holding with
  | some holding => rw [putAddresses, putAddresses_nil, putAddresses]
  | none =>
    by_cases made : first
    · rw [putAddresses, if_pos made, putAddresses_nil, putAddresses,
        if_pos (either.mpr (.inl made))]
    · by_cases later : second
      · rw [putAddresses, if_neg made, putAddresses, if_pos later, putAddresses,
          if_pos (either.mpr (.inr later)), empty later]
      · rw [putAddresses, if_neg made, putAddresses, if_neg later, putAddresses,
          if_neg fun made' => (either.mp made').elim made later]

namespace Reconciler

variable {kind : Bool} {name : String} {r : Reconciler} {env : Env}

/-- The resources of an event are sorted by VPC. -/
theorem sorted_collect {members : List GroupMember} (networked : env.Networked members) :
    Sorted kind (members.foldl (GroupResources.collect env) {}).vpcs := by
  intro vpc list found
  rw [GroupResources.get?_foldl_collect] at found
  split at found
  next => cases found
  next filled =>
    obtain rfl := Option.some.inj found
    refine ⟨fun resource member => ?_, fun _ empty => ?_⟩
    · obtain ⟨listed, here⟩ := Env.mem_resourcesIn.mp member
      obtain ⟨_, _, found⟩ := List.mem_filterMap.mp listed
      exact ⟨Env.type_of_resource found, here⟩
    · obtain ⟨resource, member⟩ := List.exists_mem_of_ne_nil _ filled
      obtain ⟨listed, here⟩ := Env.mem_resourcesIn.mp member
      exact networked resource listed (here.trans empty)

theorem getD_collect (env : Env) (members : List GroupMember) (vpc : String) :
    ((members.foldl (GroupResources.collect env) {}).vpcs.get? vpc).getD [] =
      env.resourcesIn members vpc := by
  rw [GroupResources.getD_foldl_collect]
  rfl

theorem applyMemberGrp_spec (shaped : Shaped r.toCore kind name) {eventType : EventType}
    {added removed : List GroupMember} (complete : eventType = .added → removed = [])
    (networkedAdded : env.Networked added) (networkedRemoved : env.Networked removed)
    (apart : env.Apart added removed) :
    let after := r.applyMemberGrp name eventType kind added removed
      (added.foldl (GroupResources.collect env) {}) (removed.foldl (GroupResources.collect env) {})
    (Shaped after.toCore kind name ∧ SameEvents r after) ∧
      ∀ vpc, after.holding kind name vpc =
        Holding.apply kind env eventType added removed vpc (r.holding kind name vpc) := by
  intro after
  let addedResources := added.foldl (GroupResources.collect env) {}
  let removedResources := removed.foldl (GroupResources.collect env) {}
  let start : MemberLoop :=
    { removedMembers := removedResources.vpcs, sgChanges := false, r := r.advance }
  let put := (arrange (r.order 0) addedResources.vpcs.bindings).foldl
    (addMembersOfVpc name kind) start
  let dropped : MemberLoop :=
    { put with
      r := put.r.forRange put.removedMembers.bindings (removeMembersOfVpc name kind) }
  let addressed := updateMemberIPs name eventType kind addedResources.ipBlocks
    removedResources.ipBlocks dropped
  let final := addEmptyGroup name eventType kind added removed addedResources.ipBlocks addressed
  have addedIPs : addedResources.ipBlocks = env.addresses added :=
    GroupResources.ipBlocks_foldl_collect env added {}
  have removedIPs : removedResources.ipBlocks = env.addresses removed :=
    GroupResources.ipBlocks_foldl_collect env removed {}
  have shapedStart : Shaped start.r.toCore kind name := shaped_advance shaped
  have sortedStart : Sorted kind start.removedMembers := sorted_collect networkedRemoved
  obtain ⟨⟨shapedPut, sortedPut, queuePut⟩, views⟩ :=
    addMembers_spec (r.order 0) shapedStart sortedStart
    (sorted_collect networkedAdded)
    (fun vpc => GroupResources.get?_foldl_collect_ne env added vpc (by simp))
  obtain ⟨⟨shapedDropped, queueDropped⟩, holdingDropped⟩ := removeMembers_spec shapedPut sortedPut
  have shapedDropped : Shaped dropped.r.toCore kind name := shapedDropped
  obtain ⟨⟨shapedAddressed, queueAddressed⟩, holdingAddressed⟩ := updateMemberIPs_spec
    shapedDropped eventType addedResources.ipBlocks removedResources.ipBlocks
    (fun isAdded => by rw [removedIPs, complete isAdded]; rfl)
  obtain ⟨⟨shapedFinal, queueFinal⟩, holdingFinal⟩ := addEmptyGroup_spec shapedAddressed
    eventType added removed addedResources.ipBlocks (fun empty => by rw [addedIPs, empty]; rfl)
  -- Both loops together, for one VPC.
  have members (vpc : String) : dropped.r.holding kind name vpc =
      Holding.put (env.resourcesIn added vpc) (env.resourcesIn removed vpc)
        (r.holding kind name vpc) := by
    have disjoint : (env.resourcesIn added vpc).Disjoint (env.resourcesIn removed vpc) :=
      fun resource inAdded inRemoved => apart resource (Env.mem_resourcesIn.mp inAdded).1
        (Env.mem_resourcesIn.mp inRemoved).1
    obtain ⟨now, putHere, later⟩ := views vpc
    have listed := getD_collect env added vpc
    have listed' := getD_collect env removed vpc
    rw [listed] at putHere
    have result : dropped.r.holding kind name vpc = Holding.put []
        ((put.removedMembers.get? vpc).getD [])
          (Holding.put (env.resourcesIn added vpc) now (r.holding kind name vpc)) := by
      rw [holdingDropped vpc]
      exact congrArg _ putHere
    rcases later with ⟨rfl, consumed⟩ | ⟨rfl, left⟩
    · have consumed : put.removedMembers.get? vpc = none := consumed
      have now : ((start.view kind name vpc).2).getD [] = env.resourcesIn removed vpc := listed'
      rw [result, consumed, Option.getD_none, Holding.put_nil, now]
    · have left : put.removedMembers.get? vpc = removedResources.vpcs.get? vpc := left
      rw [result, left, listed', Holding.put_put disjoint]
  have events : SameEvents r final.r :=
    .of_eq (((queueFinal.trans queueAddressed).trans queueDropped).trans queuePut)
  have holding (vpc : String) : final.r.holding kind name vpc =
      Holding.apply kind env eventType added removed vpc (r.holding kind name vpc) := by
    rw [holdingFinal, holdingAddressed, members, addedIPs, removedIPs, Holding.apply]
    split
    next =>
      refine Holding.putAddresses_twice ?_ (fun made => by rw [made.2.1]; rfl) _
      constructor
      · rintro ⟨isAdded, empty | filled⟩
        · exact .inr ⟨isAdded, empty, complete isAdded⟩
        · exact .inl ⟨isAdded, filled⟩
      · rintro (⟨isAdded, filled⟩ | ⟨isAdded, empty, _⟩)
        · exact ⟨isAdded, .inr filled⟩
        · exact ⟨isAdded, .inl empty⟩
    next => rfl
  have result : after = if final.sgChanges && kind then final.r.recomputePolicies name
      else final.r := rfl
  rw [result]
  split
  next recomputed =>
    obtain rfl : kind = true := (Bool.and_eq_true_iff.mp recomputed).2
    have only : AppliedOnly final.r (final.r.recomputePolicies name) :=
      appliedOnly_recomputePolicies name fun key c found =>
        (shapedFinal.index false key c found).2.1
    exact ⟨⟨only.shaped shapedFinal,
        fun key plain => (only.events key plain).trans (events key plain)⟩,
      fun vpc => (only.holding shapedFinal vpc).trans (holding vpc)⟩
  next => exact ⟨⟨shapedFinal, events⟩, holding⟩

end Reconciler

/-! ## Members whose entities are gone -/

/-- The name of a missing entity tells which members are stale. -/
def Stale (stales : List String) (resource : CloudResource) : Prop :=
  ∃ stale ∈ stales, stringsContains stale resource.name.name = true

instance (stales : List String) (resource : CloudResource) : Decidable (Stale stales resource) :=
  inferInstanceAs (Decidable (∃ stale ∈ stales, _))

def Holding.dropStale (stales : List String) (holding : Option Holding) : Option Holding :=
  holding.map fun holding =>
    { holding with members := { resource ∈ holding.members | ¬ Stale stales resource } }

section

variable {κ α : Type} [DecidableEq κ] (gone : κ → Bool)

theorem get?_foldl_removeIf (entries : List (κ × α)) (map : GoMap κ α) (key : κ) :
    (entries.foldl (fun map entry => if gone entry.1 then map.remove entry.1 else map) map).get?
      key = if gone key ∧ key ∈ entries.map (·.1) then none else map.get? key := by
  induction entries generalizing map with
  | nil => simp
  | cons entry rest induction =>
    rw [List.foldl_cons, induction]
    by_cases here : key = entry.1
    · subst here
      cases gone entry.1 <;> simp
    · have same : key ∈ (entry :: rest).map (·.1) ↔ key ∈ rest.map (·.1) := by simp [here]
      simp only [same]
      cases gone entry.1 <;> simp [here]

/-- Removing the matching keys while ranging over a map. -/
theorem get?_removeMatching (map : GoMap κ α) (key : κ) :
    (map.bindings.foldl (fun map entry => if gone entry.1 then map.remove entry.1 else map)
      map).get? key = if gone key then none else map.get? key := by
  rw [get?_foldl_removeIf]
  cases found : map.get? key with
  | none => simp
  | some value =>
    have listed : key ∈ map.bindings.map (·.1) :=
      List.mem_map.mpr ⟨_, (map.mem_bindings key value).mpr found, rfl⟩
    simp [listed]

end

theorem get?_removeStale (stales : List String) (map : GoMap String CloudResource)
    (key : String) :
    (stales.foldl (fun map stale =>
      map.bindings.foldl (fun map entry =>
        if stringsContains stale entry.1 then map.remove entry.1 else map) map) map).get? key =
      if ∃ stale ∈ stales, stringsContains stale key = true then none else map.get? key := by
  induction stales generalizing map with
  | nil => simp
  | cons stale rest induction =>
    rw [List.foldl_cons, induction, get?_removeMatching]
    by_cases later : ∃ stale ∈ rest, stringsContains stale key = true
    · have either : ∃ other ∈ stale :: rest, stringsContains other key = true := by
        obtain ⟨other, member, found⟩ := later
        exact ⟨other, List.mem_cons_of_mem _ member, found⟩
      rw [if_pos later, if_pos either]
    · rw [if_neg later]
      cases here : stringsContains stale key with
      | true => simp [here]
      | false => simp [here, later]

/-- The members by their names; of several with one name the last. -/
def membersByName (members : List CloudResource) : GoMap String CloudResource :=
  members.foldl (fun map m => map.set m.name.name m) ∅

section

variable {members : List CloudResource}

theorem mem_of_membersByName {key : String} {resource : CloudResource}
    (found : (membersByName members).get? key = some resource) :
    resource ∈ members ∧ resource.name.name = key := by
  unfold membersByName at found
  by_cases listed : key ∈ members.map fun m => m.name.name
  · obtain ⟨element, member, same, found'⟩ := GoMap.get?_foldl_set_of_mem
      (fun m : CloudResource => m.name.name) (fun m => m) listed
    rw [found'] at found
    obtain rfl := Option.some.inj found
    exact ⟨member, same⟩
  · rw [GoMap.get?_foldl_set_of_not_mem (fun m : CloudResource => m.name.name) (fun m => m)
      listed] at found
    cases found

theorem exists_membersByName {resource : CloudResource} (member : resource ∈ members) :
    ∃ element ∈ members, element.name.name = resource.name.name ∧
      (membersByName members).get? resource.name.name = some element :=
  GoMap.get?_foldl_set_of_mem (fun m : CloudResource => m.name.name) (fun m => m)
    (List.mem_map_of_mem member)

end

namespace Reconciler

variable {kind : Bool} {name : String} {r : Reconciler} {c : Ref}

/-- `removeStaleMembers` keeps, of each name that does not match, the last member. -/
theorem removeStaleMembers_spec (r : Reconciler) (c : Ref) (stales : List String) :
    ∃ members, Changes c { r.objects c with members } r (r.removeStaleMembers c stales) ∧
      ∀ resource, resource ∈ members ↔ ¬ Stale stales resource ∧
        (membersByName (r.objects c).members).get? resource.name.name = some resource := by
  simp only [removeStaleMembers]
  split
  next empty =>
    have noMembers : (r.objects c).members = [] := List.eq_nil_of_length_eq_zero empty
    refine ⟨(r.objects c).members, ⟨(Function.update_eq_self c r.objects).symm, fun _ => rfl,
      rfl, rfl⟩, fun resource => ?_⟩
    simp [noMembers, membersByName]
  next =>
    refine ⟨_, ⟨rfl, fun _ => rfl, rfl, rfl⟩, fun resource => ?_⟩
    rw [mem_arrange, GoMap.mem_values]
    simp only [get?_removeStale]
    constructor
    · rintro ⟨key, found⟩
      split at found
      next => cases found
      next kept =>
        obtain ⟨_, rfl⟩ := mem_of_membersByName found
        exact ⟨kept, found⟩
    · rintro ⟨kept, found⟩
      exact ⟨resource.name.name, (if_neg kept).trans found⟩

/-- `removeStaleMembers` keeps some of the members; in one VPC, those that do not match. -/
theorem changes_removeStaleMembers (r : Reconciler) (c : Ref) (stales : List String) :
    ∃ members, Changes c { r.objects c with members } r (r.removeStaleMembers c stales) ∧
      members ⊆ (r.objects c).members ∧
      ∀ vpc, AllIn vpc (r.objects c).members → ∀ resource,
        resource ∈ members ↔ resource ∈ (r.objects c).members ∧ ¬ Stale stales resource := by
  obtain ⟨members, changes, kept⟩ := removeStaleMembers_spec r c stales
  refine ⟨members, changes, fun resource member => ?_, fun vpc all resource => ?_⟩
  · exact (mem_of_membersByName ((kept resource).mp member).2).1
  · rw [kept]
    constructor
    · rintro ⟨fresh, found⟩
      exact ⟨(mem_of_membersByName found).1, fresh⟩
    · rintro ⟨member, fresh⟩
      obtain ⟨element, there, same, found⟩ := exists_membersByName member
      have sameText : element.name.string = resource.name.string := by
        rw [CloudResourceID.string, CloudResourceID.string, same,
          (all element there).2, (all resource member).2]
      obtain rfl := all.eq_of_name all there member sameText
      exact ⟨fresh, found⟩

/-- What is left of the members of the objects of the group when some objects are searched. -/
structure Searched (kind : Bool) (name : String) (stales : List String) (searched : Ref → Prop)
    (r r' : Reconciler) : Prop where
  shaped : Shaped r'.toCore kind name
  queue : r'.retryQueue = r.retryQueue
  indexers : ∀ kind, r'.indexer kind = r.indexer kind
  ids : ∀ c, (r'.objects c).id = (r.objects c).id
  addresses : ∀ c, (r'.objects c).ipBlocks = (r.objects c).ipBlocks
  members : ∀ vpc c, r.find? kind name vpc = some c → ∀ resource,
    resource ∈ (r'.objects c).members ↔
      resource ∈ (r.objects c).members ∧ (searched c → ¬ Stale stales resource)

theorem searched_foldl (stales : List String) {list : List Ref} {r : Reconciler}
    (shaped : Shaped r.toCore kind name) :
    Searched kind name stales (· ∈ list) r
      (list.foldl (fun r c => r.removeStaleMembers c stales) r) := by
  induction list generalizing r with
  | nil => exact ⟨shaped, rfl, fun _ => rfl, fun _ => rfl, fun _ => rfl, by simp⟩
  | cons c rest induction =>
    obtain ⟨members, changes, fewer, kept⟩ := r.changes_removeStaleMembers c stales
    have later := induction (shaped.change changes ⟨rfl, rfl⟩ fun vpc found resource member =>
      shaped.members vpc c found resource (fewer member))
    refine ⟨later.shaped, later.queue.trans changes.queue,
      fun kind => (later.indexers kind).trans (changes.indexers kind),
      fun d => (later.ids d).trans (changes.field (·.id) rfl d),
      fun d => (later.addresses d).trans (changes.field (·.ipBlocks) rfl d),
      fun vpc d found resource => ?_⟩
    rw [List.foldl_cons, later.members vpc d ((Shaped.find?_changes changes vpc).trans found),
      changes.objects]
    by_cases here : d = c
    · subst here
      rw [Function.update_self, kept vpc (shaped.members vpc d found) resource]
      simp only [List.mem_cons, true_or, true_implies]
      exact ⟨fun known => known.1, fun known => ⟨known, fun _ => known.2⟩⟩
    · rw [Function.update_of_ne here]
      simp [here]

theorem searched_forRange (stales : List String) (groups : List Ref)
    (shaped : Shaped r.toCore kind name) :
    Searched kind name stales (· ∈ groups) r
      (r.forRange groups fun sg r => r.removeStaleMembers sg stales) := by
  have loop : Searched kind name stales (· ∈ arrange (r.order 0) groups) r.advance _ :=
    searched_foldl stales (shaped_advance shaped)
  simp only [mem_arrange] at loop
  exact ⟨loop.shaped, loop.queue, loop.indexers, loop.ids, loop.addresses, loop.members⟩

theorem Searched.find? {stales : List String} {searched : Ref → Prop} {r' : Reconciler}
    (left : Searched kind name stales searched r r') (vpc : String) :
    r'.find? kind name vpc = r.find? kind name vpc := by
  rw [Core.find?, left.indexers, ← Core.find?]

theorem mem_groupsByName_of_find? (shaped : Shaped r.toCore kind name) {vpc : String}
    (found : r.find? kind name vpc = some c) : c ∈ r.groupsByName kind name := by
  refine List.mem_filter.mpr ⟨(GoMap.mem_values _ _).mpr ⟨_, found⟩, ?_⟩
  rw [shaped.own vpc c found]
  exact beq_self_eq_true name

/-- The objects of the group lose the members that match a missing entity. -/
theorem removeStale_spec (shaped : Shaped r.toCore kind name) (stales : List String) :
    (Shaped (r.removeStale name stales).toCore kind name ∧
        (r.removeStale name stales).retryQueue = r.retryQueue) ∧
      ∀ vpc, (r.removeStale name stales).holding kind name vpc =
        Holding.dropStale stales (r.holding kind name vpc) := by
  unfold removeStale
  split
  next empty =>
    subst empty
    refine ⟨⟨shaped, rfl⟩, fun vpc => ?_⟩
    cases r.holding kind name vpc <;> simp [Holding.dropStale, Stale]
  next =>
    have first := searched_forRange stales (r.groupsByName true name) shaped
    generalize (r.forRange (r.groupsByName true name) fun sg r =>
      r.removeStaleMembers sg stales) = r₁ at first ⊢
    have second := searched_forRange stales (r₁.groupsByName false name) first.shaped
    generalize (r₁.forRange (r₁.groupsByName false name) fun sg r =>
      r.removeStaleMembers sg stales) = r₂ at second ⊢
    refine ⟨⟨second.shaped, second.queue.trans first.queue⟩, fun vpc => ?_⟩
    rw [Core.holding, Core.holding, second.find?, first.find?]
    cases found : r.find? kind name vpc with
    | none => rfl
    | some c =>
      have found₁ : r₁.find? kind name vpc = some c := (first.find? vpc).trans found
      -- One of the two loops is over the objects of this kind.
      have searched : c ∈ r.groupsByName true name ∨ c ∈ r₁.groupsByName false name := by
        cases kind with
        | true => exact .inl (mem_groupsByName_of_find? shaped found)
        | false => exact .inr (mem_groupsByName_of_find? first.shaped found₁)
      simp only [Holding.dropStale, Option.map_some, SecurityGroup.holding,
        Option.some.injEq, Holding.mk.injEq]
      refine ⟨?_, by rw [second.addresses, first.addresses]⟩
      ext resource
      rw [Set.mem_ofPred_eq, second.members vpc c found₁, first.members vpc c found]
      constructor
      · rintro ⟨⟨old, kept⟩, kept'⟩
        exact ⟨old, searched.elim kept kept'⟩
      · rintro ⟨old, kept⟩
        exact ⟨⟨old, fun _ => kept⟩, fun _ => kept⟩

/-! ## `processMembers` -/

end Reconciler

/-- The entities can be read, except that removed ones may be missing. -/
def Env.Accepts (env : Env) (added removed : List GroupMember) : Prop :=
  env.Reads added ∧ env.breaks removed = false

instance (env : Env) (added removed : List GroupMember) : Decidable (env.Accepts added removed) :=
  inferInstanceAs (Decidable (_ ∧ _))

namespace Reconciler

variable {kind : Bool} {name : String} {r : Reconciler} {eventType : EventType}
  {added removed : List GroupMember}

/-- The events that carry members: an Added event lists no removed ones. -/
def ChangesMembers (eventType : EventType) (removed : List GroupMember) : Prop :=
  (eventType = .added ∧ removed = []) ∨ eventType = .modified

/-- An event that is not accepted fails and changes nothing. -/
theorem processMembers_rejected (event : ChangesMembers eventType removed)
    (rejected : ¬ r.env.Accepts added removed) :
    r.processMembers name eventType kind added removed = (true, r) := by
  rw [Env.Accepts, Env.reads_iff] at rejected
  have missing := GroupResources.notFoundMember_foldl_collect r.env added {}
  rcases event with ⟨rfl, rfl⟩ | rfl
  · simp only [processMembers, vpcsFromGroupMembers_eq]
    cases broken : r.env.breaks added with
    | true => rfl
    | false =>
      have some_ : r.env.missing added ≠ [] := fun none_ => rejected ⟨⟨broken, none_⟩, rfl⟩
      simp [missing, some_]
  · simp only [processMembers, vpcsFromGroupMembers_eq]
    cases broken : r.env.breaks added with
    | true => rfl
    | false =>
      by_cases none_ : r.env.missing added = []
      · have brokenRemoved : r.env.breaks removed = true := by
          by_contra unbroken
          exact rejected ⟨⟨broken, none_⟩, by simpa using unbroken⟩
        simp [missing, none_, brokenRemoved]
      · simp [missing, none_]

/-- An event that is accepted drops stale members and is applied. -/
theorem processMembers_accepted (event : ChangesMembers eventType removed)
    (accepted : r.env.Accepts added removed) :
    r.processMembers name eventType kind added removed =
      (false, (r.removeStale name (r.env.missing removed)).applyMemberGrp name eventType kind
        added removed (added.foldl (GroupResources.collect r.env) {})
        (removed.foldl (GroupResources.collect r.env) {})) := by
  obtain ⟨readable, unbrokenRemoved⟩ := accepted
  obtain ⟨unbroken, noneMissing⟩ := Env.reads_iff.mp readable
  have missing := GroupResources.notFoundMember_foldl_collect r.env added {}
  have missing' := GroupResources.notFoundMember_foldl_collect r.env removed {}
  rw [noneMissing] at missing
  rcases event with ⟨rfl, rfl⟩ | rfl
  · simp [processMembers, vpcsFromGroupMembers_eq, unbroken, missing, Env.missing, removeStale]
  · simp [processMembers, vpcsFromGroupMembers_eq, unbroken, unbrokenRemoved, missing, missing']

/-- What an accepted event does to the holdings of its group. -/
theorem processMembers_spec (event : ChangesMembers eventType removed)
    (shaped : Shaped r.toCore kind name) (accepted : r.env.Accepts added removed)
    (networkedAdded : r.env.Networked added) (networkedRemoved : r.env.Networked removed)
    (apart : r.env.Apart added removed) :
    (r.processMembers name eventType kind added removed).1 = false ∧
      (Shaped (r.processMembers name eventType kind added removed).2.toCore kind name ∧
        SameEvents r (r.processMembers name eventType kind added removed).2) ∧
      ∀ vpc, (r.processMembers name eventType kind added removed).2.holding kind name vpc =
        Holding.apply kind r.env eventType added removed vpc
          (Holding.dropStale (r.env.missing removed) (r.holding kind name vpc)) := by
  obtain ⟨⟨shapedStale, queueStale⟩, holdingStale⟩ :=
    removeStale_spec shaped (r.env.missing removed)
  have complete : eventType = .added → removed = [] := by
    rcases event with ⟨rfl, rfl⟩ | rfl
    · exact fun _ => rfl
    · simp
  obtain ⟨⟨shaped', events⟩, holding⟩ := applyMemberGrp_spec shapedStale complete networkedAdded
    networkedRemoved apart
  rw [processMembers_accepted event accepted]
  refine ⟨rfl, ⟨shaped', fun key plain => ?_⟩,
    fun vpc => (holding vpc).trans (by rw [holdingStale])⟩
  rw [events key plain, queueStale]

end Reconciler

end Nephe
