import Nephe.Membership.Resolution
import Nephe.SecurityGroup.Members
import Nephe.Library.Keyed
import Nephe.Effects.Groups

/-!
# What is tracked for a group

A group of the API server is kept as one object per VPC; the addresses of an
address group are kept by the object without a VPC.  Only the contents of these
objects matter here, as sets: this module says what an event of the group does
to them.
-/

namespace Nephe

open Library

/-! ## Holdings -/

/-- The contents of one object. -/
@[ext]
structure Holding where
  members : Set CloudResource
  addresses : Set IPNet

def SecurityGroup.holding (group : SecurityGroup) : Holding where
  members := { resource | resource ∈ group.members }
  addresses := { block | block ∈ group.ipBlocks }

namespace Core

variable (core : Core) (kind : Bool) (name vpc : String)

/-- The object of a group in a VPC. -/
def find? : Option Ref :=
  (core.indexer kind).get? (CloudResourceID.mk name vpc).string

/-- What the object of a group in a VPC holds. -/
def holding : Option Holding :=
  (core.find? kind name vpc).map fun c => (core.objects c).holding

variable {core kind name vpc}

theorem holding_of_found {c : Ref} (found : core.find? kind name vpc = some c) :
    core.holding kind name vpc = some (core.objects c).holding := by
  rw [holding, found, Option.map_some]

theorem holding_of_absent (absent : core.find? kind name vpc = none) :
    core.holding kind name vpc = none := by
  rw [holding, absent, Option.map_none]

end Core

/-- The indexers point to the right objects, and those of one group hold its members. -/
structure Shaped (core : Core) (kind : Bool) (name : String) : Prop where
  index : ∀ kind key c, (core.indexer kind).get? key = some c →
    c < core.nextRef ∧ (core.objects c).membershipOnly = kind ∧ (core.objects c).id.string = key
  own : ∀ vpc c, core.find? kind name vpc = some c → (core.objects c).id = ⟨name, vpc⟩
  members : ∀ vpc c, core.find? kind name vpc = some c → AllIn vpc (core.objects c).members

/-- The VPCs of a group are told apart by the keys of its objects. -/
theorem vpc_of_string {name vpc vpc' : String}
    (same : (CloudResourceID.mk name vpc).string = (CloudResourceID.mk name vpc').string) :
    vpc = vpc' := by
  have lists := congrArg String.toList same
  rw [toList_string, toList_string] at lists
  exact String.toList_inj.mp (List.tail_eq_of_cons_eq (List.append_cancel_left lists))

/-- Only the object behind a reference changes. -/
structure Changes (c : Ref) (group : SecurityGroup) (r r' : Reconciler) : Prop where
  objects : r'.objects = Function.update r.objects c group
  indexers : ∀ kind, r'.indexer kind = r.indexer kind
  nextRef : r'.nextRef = r.nextRef
  queue : r'.retryQueue = r.retryQueue

/-- A field that the object keeps is kept by all. -/
theorem Changes.field {α : Type} {c : Ref} {group : SecurityGroup} {r r' : Reconciler}
    (changes : Changes c group r r') (field : SecurityGroup → α)
    (same : field group = field (r.objects c)) (d : Ref) :
    field (r'.objects d) = field (r.objects d) := by
  rw [changes.objects]
  by_cases here : d = c
  · subst here
    rw [Function.update_self, same]
  · rw [Function.update_of_ne here]

/-- A new object is indexed. -/
structure Creates (group : SecurityGroup) (r r' : Reconciler) : Prop where
  objects : r'.objects = Function.update r.objects r.nextRef group
  indexer : r'.indexer group.membershipOnly =
    (r.indexer group.membershipOnly).set group.id.string r.nextRef
  others : r'.indexer (!group.membershipOnly) = r.indexer (!group.membershipOnly)
  nextRef : r'.nextRef = r.nextRef + 1
  queue : r'.retryQueue = r.retryQueue

namespace Shaped

variable {kind : Bool} {name vpc : String} {r r' : Reconciler} {c : Ref} {group : SecurityGroup}

/-- An object belongs to one VPC only. -/
theorem vpc_unique (shaped : Shaped r.toCore kind name) (found : r.find? kind name vpc = some c)
    {vpc' : String} (found' : r.find? kind name vpc' = some c) : vpc = vpc' :=
  vpc_of_string (((shaped.index _ _ _ found).2.2).symm.trans (shaped.index _ _ _ found').2.2)

theorem find?_changes (changes : Changes c group r r') (vpc : String) :
    r'.find? kind name vpc = r.find? kind name vpc := by
  rw [Core.find?, changes.indexers, ← Core.find?]

theorem change (shaped : Shaped r.toCore kind name) (changes : Changes c group r r')
    (same : group.membershipOnly = (r.objects c).membershipOnly ∧ group.id = (r.objects c).id)
    (members : ∀ vpc, r.find? kind name vpc = some c → AllIn vpc group.members) :
    Shaped r'.toCore kind name where
  index kind' key d found := by
    rw [changes.field (·.membershipOnly) same.1, changes.field (·.id) same.2, changes.nextRef]
    exact shaped.index kind' key d (changes.indexers kind' ▸ found)
  own vpc d found := by
    rw [changes.field (·.id) same.2]
    exact shaped.own vpc d (find?_changes changes vpc ▸ found)
  members vpc d found := by
    rw [find?_changes changes] at found
    rw [changes.objects]
    by_cases here : d = c
    · subst here
      rw [Function.update_self]
      exact members vpc found
    · rw [Function.update_of_ne here]
      exact shaped.members vpc d found

theorem holding_change (shaped : Shaped r.toCore kind name)
    (found : r.find? kind name vpc = some c) (changes : Changes c group r r') (vpc' : String) :
    r'.holding kind name vpc' =
      if vpc' = vpc then some group.holding else r.holding kind name vpc' := by
  rw [Core.holding, find?_changes changes, changes.objects]
  split
  next here => rw [here, found, Option.map_some, Function.update_self]
  next other =>
    rw [Core.holding]
    cases found' : r.find? kind name vpc' with
    | none => rfl
    | some d =>
      have different : d ≠ c := fun same =>
        other (shaped.vpc_unique found (same ▸ found')).symm
      rw [Option.map_some, Option.map_some, Function.update_of_ne different]

theorem find?_creates (creates : Creates group r r') (id : group.id = ⟨name, vpc⟩)
    (sameKind : group.membershipOnly = kind) (vpc' : String) :
    r'.find? kind name vpc' =
      if vpc' = vpc then some r.nextRef else r.find? kind name vpc' := by
  subst sameKind
  rw [Core.find?, creates.indexer, id, GoMap.get?_set, ← Core.find?]
  by_cases here : vpc' = vpc
  · rw [here, if_pos rfl, if_pos rfl]
  · rw [if_neg here, if_neg fun same => here (vpc_of_string same)]

theorem create (shaped : Shaped r.toCore kind name) (creates : Creates group r r')
    (id : group.id = ⟨name, vpc⟩) (sameKind : group.membershipOnly = kind)
    (members : AllIn vpc group.members) : Shaped r'.toCore kind name where
  index kind' key d found' := by
    have old (there : (r.indexer kind').get? key = some d) :
        d < r'.nextRef ∧ (r'.objects d).membershipOnly = kind' ∧
          (r'.objects d).id.string = key := by
      obtain ⟨allocated, known⟩ := shaped.index kind' key d there
      rw [creates.objects, creates.nextRef, Function.update_of_ne allocated.ne]
      exact ⟨allocated.trans (Nat.lt_succ_self _), known⟩
    by_cases other : kind' = group.membershipOnly
    · subst other
      rw [creates.indexer, GoMap.get?_set] at found'
      split at found'
      next here =>
        obtain rfl := Option.some.inj found'
        rw [creates.objects, creates.nextRef, Function.update_self]
        exact ⟨Nat.lt_succ_self _, rfl, here.symm⟩
      next => exact old found'
    · rw [show kind' = !group.membershipOnly from Bool.eq_not.mpr other, creates.others] at found'
      exact old (Bool.eq_not.mpr other ▸ found')
  own vpc' d found' := by
    rw [find?_creates creates id sameKind] at found'
    rw [creates.objects]
    split at found'
    next here =>
      obtain rfl := Option.some.inj found'
      rw [Function.update_self, here, id]
    next =>
      rw [Function.update_of_ne (shaped.index _ _ _ found').1.ne]
      exact shaped.own vpc' d found'
  members vpc' d found' := by
    rw [find?_creates creates id sameKind] at found'
    rw [creates.objects]
    split at found'
    next here =>
      obtain rfl := Option.some.inj found'
      rw [Function.update_self, here]
      exact members
    next =>
      rw [Function.update_of_ne (shaped.index _ _ _ found').1.ne]
      exact shaped.members vpc' d found'

theorem holding_create (shaped : Shaped r.toCore kind name) (creates : Creates group r r')
    (id : group.id = ⟨name, vpc⟩) (sameKind : group.membershipOnly = kind) (vpc' : String) :
    r'.holding kind name vpc' =
      if vpc' = vpc then some group.holding else r.holding kind name vpc' := by
  rw [Core.holding, find?_creates creates id sameKind, creates.objects]
  split
  next => rw [Option.map_some, Function.update_self]
  next =>
    rw [Core.holding]
    cases found : r.find? kind name vpc' with
    | none => rfl
    | some d =>
      rw [Option.map_some, Option.map_some,
        Function.update_of_ne (shaped.index _ _ _ found).1.ne]

end Shaped

/-! ## Operations on one object -/

namespace Reconciler

variable (r : Reconciler) (c : Ref)

/-- `updateImpl` merges the members and changes no other object. -/
theorem changes_updateImpl (added removed : List CloudResource) :
    ∃ code, Changes c
      { r.objects c with
        members := mergeCloudResources code (r.objects c).members added removed }
      r (r.updateImpl c added removed) := by
  simp only [updateImpl]
  split
  next empty =>
    have noMembers : (r.objects c).members = [] := List.eq_nil_of_length_eq_zero (by omega)
    have noAdded : added = [] := List.eq_nil_of_length_eq_zero (by omega)
    have noRemoved : removed = [] := List.eq_nil_of_length_eq_zero (by omega)
    refine ⟨0, ?_, fun _ => rfl, rfl, rfl⟩
    have same : { r.objects c with
        members := mergeCloudResources 0 (r.objects c).members added removed } =
          r.objects c := by
      rw [noAdded, noRemoved, noMembers, show mergeCloudResources 0 [] [] [] = [] from rfl,
        ← noMembers]
    rw [same, Function.update_eq_self]
  next =>
    refine ⟨r.order 0, ?_⟩
    split
    · exact ⟨rfl, fun kind => rfl, rfl, rfl⟩
    · split
      · exact ⟨rfl, fun kind => rfl, rfl, rfl⟩
      · exact ⟨rfl, fun kind => rfl, rfl, rfl⟩

/-- `update` merges the members, except in an object that keeps addresses. -/
theorem changes_update (networked : (r.objects c).Networked) (added removed : List CloudResource) :
    ∃ code, Changes c
      { r.objects c with
        members := mergeCloudResources code (r.objects c).members added removed }
      r (r.update c added removed) := by
  simp only [update]
  cases kind : (r.objects c).membershipOnly with
  | true =>
    have blocks : (r.objects c).isIPBlocks = false := by
      simp [SecurityGroup.isIPBlocks, networked kind]
    simp only [if_true, blocks, Bool.false_eq_true, if_false]
    exact kind ▸ r.changes_updateImpl c added removed
  | false =>
    simp only [Bool.false_eq_true, if_false]
    obtain ⟨_, _, first, _⟩ := quiet_updateTrackers removed false c true r
    obtain ⟨_, _, second, _⟩ := quiet_updateTrackers added true c false
      (r.forEach removed fun rsc r => r.updateTracker rsc false c true)
    rw [first] at second ⊢
    rw [second]
    obtain ⟨code, changes⟩ := changes_updateImpl _ c added removed
    exact ⟨code, kind ▸ changes.objects, changes.indexers, changes.nextRef, changes.queue⟩

theorem addImpl_spec {group : SecurityGroup} (object : r.objects c = group) :
    ∃ status, (r.addImpl c).objects = Function.update r.objects c { group with status } ∧
      (∀ kind, (r.addImpl c).indexer kind = (r.indexerAdd c).indexer kind) ∧
      (r.addImpl c).nextRef = r.nextRef ∧ (r.addImpl c).retryQueue = r.retryQueue := by
  subst object
  have same : Function.update r.objects c
      { r.objects c with status := (r.objects c).status } = r.objects :=
    Function.update_eq_self c r.objects
  simp only [addImpl]
  split
  · exact ⟨(r.objects c).status, same.symm, fun _ => rfl, rfl, rfl⟩
  · split
    · exact ⟨(r.objects c).status, same.symm, fun _ => rfl, rfl, rfl⟩
    · exact ⟨some .inProgress, rfl, fun _ => rfl, rfl, rfl⟩

/-- `add` indexes a new object. -/
theorem creates_add (group : SecurityGroup) :
    ∃ status, Creates { group with status } r ((r.allocate group).add r.nextRef) := by
  have object : (r.allocate group).objects r.nextRef = group := Function.update_self _ _ _
  have indexer : (r.allocate group).indexerAdd r.nextRef = { r.allocate group with
      addrSGIndexer :=
        if group.membershipOnly then r.addrSGIndexer.set group.id.string r.nextRef
        else r.addrSGIndexer
      appliedToSGIndexer :=
        if group.membershipOnly then r.appliedToSGIndexer
        else r.appliedToSGIndexer.set group.id.string r.nextRef } := by
    rw [indexerAdd, object]
    rfl
  have indexes (r₁ : Reconciler) (status : Option Status)
      (objects : r₁.objects = Function.update (r.allocate group).objects r.nextRef
        { group with status })
      (indexers : ∀ kind, r₁.indexer kind =
        ((r.allocate group).indexerAdd r.nextRef).indexer kind)
      (nextRef : r₁.nextRef = r.nextRef + 1) (queue : r₁.retryQueue = r.retryQueue) :
      Creates { group with status } r r₁ := by
    refine ⟨by rw [objects, allocate, Function.update_idem], ?_, ?_, nextRef, queue⟩
    · rw [indexers, indexer]
      cases group.membershipOnly <;> simp [Core.indexer]
    · rw [indexers, indexer]
      cases group.membershipOnly <;> simp [Core.indexer]
  simp only [add, object]
  split
  · split
    · refine ⟨group.status, indexes _ _ ?_ (fun _ => rfl) rfl rfl⟩
      exact (Function.update_eq_self r.nextRef (r.allocate group).objects).symm.trans
        (by rw [object])
    · obtain ⟨status, objects, indexers, nextRef, queue⟩ := addImpl_spec _ _ object
      exact ⟨status, indexes _ _ objects indexers nextRef queue⟩
  · obtain ⟨trackers, order, same, _⟩ :=
      quiet_updateTrackers group.members true r.nextRef false (r.allocate group)
    rw [same]
    obtain ⟨status, objects, indexers, nextRef, queue⟩ := addImpl_spec
      { r.allocate group with cloudResourceNPTrackerIndexer := trackers, order := order }
      r.nextRef object
    exact ⟨status, indexes _ _ objects indexers nextRef queue⟩

end Reconciler

/-! ## The two loops of `processMemberGrp` -/

namespace Holding

/-- Drop the removed members and put the added ones; the first member makes the object. -/
def put (added removed : List CloudResource) : Option Holding → Option Holding
  | some holding =>
    some { holding with
      members :=
        { resource | resource ∈ added ∨ (resource ∈ holding.members ∧ resource ∉ removed) } }
  | none => if added = [] then none else some ⟨{ resource | resource ∈ added }, ∅⟩

@[simp]
theorem put_nil (holding : Option Holding) : put [] [] holding = holding := by
  cases holding <;> simp [put]

/-- Members may be dropped after others have been put. -/
theorem put_put {added removed : List CloudResource} (disjoint : added.Disjoint removed)
    (holding : Option Holding) :
    put [] removed (put added [] holding) = put added removed holding := by
  have stays (resource : CloudResource) (member : resource ∈ added) : resource ∉ removed :=
    fun there => disjoint member there
  cases holding with
  | none =>
    by_cases empty : added = []
    · simp [put, empty]
    · simp only [put, empty, if_false, Option.some.injEq, Holding.mk.injEq, and_true]
      ext resource
      simp only [List.not_mem_nil, false_or, Set.mem_ofPred_eq]
      exact ⟨And.left, fun member => ⟨member, stays resource member⟩⟩
  | some holding =>
    simp only [put, Option.some.injEq, Holding.mk.injEq, and_true]
    ext resource
    simp only [List.not_mem_nil, false_or, not_false_eq_true, and_true, Set.mem_ofPred_eq]
    constructor
    · rintro ⟨member | old, kept⟩
      · exact .inl member
      · exact .inr ⟨old, kept⟩
    · rintro (member | ⟨old, kept⟩)
      · exact ⟨.inl member, stays resource member⟩
      · exact ⟨.inr old, kept⟩

end Holding

namespace Reconciler

variable {kind : Bool} {name vpc : String} {r : Reconciler} {c : Ref}

theorem update_spec (shaped : Shaped r.toCore kind name) (found : r.find? kind name vpc = some c)
    (networked : kind = true → vpc ≠ "") {added removed : List CloudResource}
    (inAdded : AllIn vpc added) (inRemoved : AllIn vpc removed) :
    (Shaped (r.update c added removed).toCore kind name ∧
        (r.update c added removed).retryQueue = r.retryQueue) ∧
      ∀ vpc', (r.update c added removed).holding kind name vpc' =
        if vpc' = vpc then Holding.put added removed (r.holding kind name vpc)
        else r.holding kind name vpc' := by
  have sameKind := (shaped.index _ _ _ found).2.1
  have ofGroup : (r.objects c).Networked := fun address => by
    rw [shaped.own vpc c found]
    exact networked (sameKind.symm.trans address)
  have inOld := shaped.members vpc c found
  obtain ⟨code, changes⟩ := r.changes_update c ofGroup added removed
  have merged (resource : CloudResource) :
      resource ∈ mergeCloudResources code (r.objects c).members added removed ↔
        resource ∈ added ∨ (resource ∈ (r.objects c).members ∧ resource ∉ removed) :=
    mem_mergeCloudResources inOld inAdded inRemoved resource
  refine ⟨⟨shaped.change changes ⟨rfl, rfl⟩ fun vpc' found' resource member => ?_,
    changes.queue⟩, fun vpc' => ?_⟩
  · obtain rfl := shaped.vpc_unique found found'
    rcases (merged resource).mp member with put | ⟨old, _⟩
    · exact inAdded resource put
    · exact inOld resource old
  · rw [shaped.holding_change found changes, Core.holding_of_found found]
    congr 1
    simp only [Holding.put, SecurityGroup.holding, Option.some.injEq, Holding.mk.injEq, and_true]
    ext resource
    exact merged resource

/-- What the first loop does to a VPC: its removed members are dropped now or left for later. -/
def Added (added : List CloudResource)
    (before after : Option Holding × Option (List CloudResource)) : Prop :=
  ∃ removed, after.1 = Holding.put added removed before.1 ∧
    ((removed = before.2.getD [] ∧ after.2 = none) ∨ (removed = [] ∧ after.2 = before.2))

/-- What the loops know about a VPC. -/
def MemberLoop.view (loop : MemberLoop) (kind : Bool) (name vpc : String) :
    Option Holding × Option (List CloudResource) :=
  (loop.r.holding kind name vpc, loop.removedMembers.get? vpc)

/-- The members to be removed are sorted by VPC. -/
def Sorted (kind : Bool) (members : GoMap String (List CloudResource)) : Prop :=
  ∀ vpc list, members.get? vpc = some list → AllIn vpc list ∧ (kind = true → vpc ≠ "")

variable {loop : MemberLoop} {entry : String × List CloudResource}
  {members : GoMap String (List CloudResource)}

theorem addMembersOfVpc_spec (shaped : Shaped loop.r.toCore kind name)
    (sorted : Sorted kind loop.removedMembers) (members : AllIn entry.1 entry.2)
    (filled : entry.2 ≠ []) (networked : kind = true → entry.1 ≠ "") :
    (Shaped (addMembersOfVpc name kind loop entry).r.toCore kind name ∧
        Sorted kind (addMembersOfVpc name kind loop entry).removedMembers ∧
        (addMembersOfVpc name kind loop entry).r.retryQueue = loop.r.retryQueue) ∧
      Added entry.2 (loop.view kind name entry.1)
        ((addMembersOfVpc name kind loop entry).view kind name entry.1) ∧
      ∀ vpc, vpc ≠ entry.1 →
        (addMembersOfVpc name kind loop entry).view kind name vpc = loop.view kind name vpc := by
  obtain ⟨vpc, members'⟩ := entry
  simp only [addMembersOfVpc]
  cases found : (loop.r.indexer kind).get? (CloudResourceID.mk name vpc).string with
  | some c =>
    have found' : loop.r.find? kind name vpc = some c := found
    simp only
    split
    next equal =>
      refine ⟨⟨shaped, sorted, rfl⟩, ⟨[], ?_, .inr ⟨rfl, rfl⟩⟩, fun _ _ => rfl⟩
      have known := subset_of_compareCloudResources members
        (shaped.members vpc c found') equal
      simp only [MemberLoop.view, Core.holding, found', Option.map_some, Holding.put,
        SecurityGroup.holding, Option.some.injEq, Holding.mk.injEq, and_true,
        List.not_mem_nil, not_false_eq_true]
      ext resource
      exact ⟨.inr, fun member => member.elim (fun put => known put) id⟩
    next =>
      have inRemoved : AllIn vpc ((loop.removedMembers.get? vpc).getD []) := by
        cases listed : loop.removedMembers.get? vpc with
        | none => exact allIn_nil
        | some list => exact (sorted vpc list listed).1
      obtain ⟨⟨shaped', queue⟩, holding⟩ :=
        update_spec shaped found' networked members inRemoved
      refine ⟨⟨shaped', fun vpc' list listed => ?_, queue⟩, ⟨_, ?_, .inl ⟨rfl, ?_⟩⟩,
        fun vpc' other => ?_⟩
      · rw [GoMap.get?_remove] at listed
        split at listed
        next => cases listed
        next => exact sorted vpc' list listed
      · simp [MemberLoop.view, holding]
      · simp [MemberLoop.view]
      · simp [MemberLoop.view, holding, other]
  | none =>
    have missing : loop.r.find? kind name vpc = none := found
    simp only
    obtain ⟨status, creates⟩ := loop.r.creates_add
      { membershipOnly := kind, id := ⟨name, vpc⟩, members := members' }
    have holding := shaped.holding_create creates rfl rfl
    refine ⟨⟨shaped.create creates rfl rfl members, sorted, creates.queue⟩,
      ⟨[], ?_, .inr ⟨rfl, rfl⟩⟩, fun vpc' other => ?_⟩
    · simp only at filled
      simp [MemberLoop.view, holding, Core.holding_of_absent missing, Holding.put, filled,
        SecurityGroup.holding]
    · simp [MemberLoop.view, holding, other]

theorem added_nil (view : Option Holding × Option (List CloudResource)) : Added [] view view :=
  ⟨[], (Holding.put_nil view.1).symm, .inr ⟨rfl, rfl⟩⟩

theorem shaped_advance (shaped : Shaped r.toCore kind name) : Shaped r.advance.toCore kind name :=
  ⟨shaped.index, shaped.own, shaped.members⟩

theorem addMembers_spec (code : Nat) (shaped : Shaped loop.r.toCore kind name)
    (sortedRemoved : Sorted kind loop.removedMembers) (sorted : Sorted kind members)
    (filled : ∀ vpc, members.get? vpc ≠ some []) :
    let after := (arrange code members.bindings).foldl (addMembersOfVpc name kind) loop
    (Shaped after.r.toCore kind name ∧ Sorted kind after.removedMembers ∧
        after.r.retryQueue = loop.r.retryQueue) ∧
      ∀ vpc, Added ((members.get? vpc).getD []) (loop.view kind name vpc)
        (after.view kind name vpc) := by
  intro after
  have visits (vpc : String) (list : List CloudResource) (listed : members.get? vpc = some list) :
      Visits (addMembersOfVpc name kind) (fun loop vpc => loop.view kind name vpc)
        (fun now => Shaped now.r.toCore kind name ∧ Sorted kind now.removedMembers ∧
          now.r.retryQueue = loop.r.retryQueue) (fun _ => Added) (vpc, list) := by
    rintro now ⟨shaped, sortedRemoved, same⟩
    obtain ⟨inVpc, named⟩ := sorted vpc list listed
    obtain ⟨⟨shaped', sorted', queue⟩, views⟩ := addMembersOfVpc_spec shaped sortedRemoved
      (show AllIn (vpc, list).1 _ from inVpc) (fun empty => filled vpc (empty ▸ listed)) named
    exact ⟨⟨shaped', sorted', queue.trans same⟩, views⟩
  obtain ⟨kept, treated⟩ := foldl_bindings code members visits ⟨shaped, sortedRemoved, rfl⟩
  refine ⟨kept, fun vpc => ?_⟩
  cases found : members.get? vpc with
  | some list => exact (treated vpc).2 list found
  | none =>
    have same : after.view kind name vpc = loop.view kind name vpc := (treated vpc).1 found
    rw [same]
    exact added_nil _

theorem removeMembersOfVpc_spec (shaped : Shaped r.toCore kind name)
    (members : AllIn entry.1 entry.2) (networked : kind = true → entry.1 ≠ "") :
    (Shaped (r.removeMembersOfVpc name kind entry).toCore kind name ∧
        (r.removeMembersOfVpc name kind entry).retryQueue = r.retryQueue) ∧
      (r.removeMembersOfVpc name kind entry).holding kind name entry.1 =
        Holding.put [] entry.2 (r.holding kind name entry.1) ∧
      ∀ vpc, vpc ≠ entry.1 →
        (r.removeMembersOfVpc name kind entry).holding kind name vpc = r.holding kind name vpc := by
  simp only [removeMembersOfVpc]
  cases found : (r.indexer kind).get? (CloudResourceID.mk name entry.1).string with
  | some c =>
    obtain ⟨shaped', holding⟩ := update_spec shaped found networked allIn_nil members
    exact ⟨shaped', by simp [holding], fun vpc other => by simp [holding, other]⟩
  | none =>
    exact ⟨⟨shaped, rfl⟩, by rw [Core.holding_of_absent found]; rfl, fun _ _ => rfl⟩

theorem removeMembers_spec (shaped : Shaped r.toCore kind name) (sorted : Sorted kind members) :
    let after := r.forRange members.bindings (removeMembersOfVpc name kind)
    (Shaped after.toCore kind name ∧ after.retryQueue = r.retryQueue) ∧
      ∀ vpc, after.holding kind name vpc =
        Holding.put [] ((members.get? vpc).getD []) (r.holding kind name vpc) := by
  intro after
  have visits (vpc : String) (list : List CloudResource) (listed : members.get? vpc = some list) :
      Visits (fun r entry => removeMembersOfVpc name kind entry r)
        (fun r vpc => r.holding kind name vpc)
        (fun now => Shaped now.toCore kind name ∧ now.retryQueue = r.retryQueue)
        (fun _ list before after => after = Holding.put [] list before) (vpc, list) := by
    rintro now ⟨shaped, same⟩
    obtain ⟨inVpc, named⟩ := sorted vpc list listed
    obtain ⟨⟨shaped', queue⟩, views⟩ :=
      removeMembersOfVpc_spec shaped (show AllIn (vpc, list).1 _ from inVpc) named
    exact ⟨⟨shaped', queue.trans same⟩, views⟩
  obtain ⟨kept, treated⟩ := foldl_bindings (r.order 0) members visits
    ⟨shaped_advance shaped, rfl⟩
  refine ⟨kept, fun vpc => ?_⟩
  cases found : members.get? vpc with
  | some list => exact (treated vpc).2 list found
  | none =>
    rw [Option.getD_none, Holding.put_nil]
    exact (treated vpc).1 found

end Reconciler

end Nephe
