import Nephe.Membership.Accumulator
import Nephe.Membership.Snapshots

/-!
# Events that are rejected and retried

An event with an entity that cannot be read is recorded in the retry queue and
processed again later.  Only the additions are kept, and the events that come in
between are not recorded: a removal in the rejected event is lost, and an
addition is made even if the member has been removed since.
-/

namespace Nephe

open Library

/-! ## Entities -/

/-- What an entity, given by its text, stands for, whether or not it can be read. -/
abbrev Entities := String → Option CloudResource

namespace Entities

variable (entities : Entities)

def resource (member : GroupMember) : Option CloudResource :=
  member.text?.bind entities

def resources (members : List GroupMember) : List CloudResource :=
  members.filterMap entities.resource

/-- What is read agrees. -/
def Agrees (env : Env) : Prop :=
  ∀ member, env.readError member = none → env.resource member = entities.resource member

/-- Different entities stand for different resources, and these are in some VPC. -/
structure Sound : Prop where
  distinct : ∀ text text' resource, entities text = some resource →
    entities text' = some resource → text = text'
  networked : ∀ text resource, entities text = some resource → resource.name.vpc ≠ ""

variable {entities}

variable {members : List GroupMember} {resource : CloudResource}

theorem mem_resources :
    resource ∈ entities.resources members ↔
      ∃ text ∈ textsOfMembers members, entities text = some resource := by
  simp only [resources, textsOfMembers, List.mem_filterMap, Entities.resource,
    Option.bind_eq_some_iff]
  constructor
  · rintro ⟨member, listed, text, named, stands⟩
    exact ⟨text, ⟨member, listed, named⟩, stands⟩
  · rintro ⟨text, ⟨member, listed, named⟩, stands⟩
    exact ⟨member, listed, text, named, stands⟩

theorem networked_of_mem (sound : entities.Sound) (member : resource ∈ entities.resources members) :
    resource.name.vpc ≠ "" := by
  obtain ⟨text, _, stands⟩ := mem_resources.mp member
  exact sound.networked text resource stands

end Entities

/-- Only an entity that can be read resolves to a resource. -/
theorem Env.readError_of_resource {env : Env} {member : GroupMember} {resource : CloudResource}
    (found : env.resource member = some resource) : env.readError member = none := by
  unfold Env.resource at found
  unfold readError
  split at found
  next => cases found
  next =>
    split at found
    next => simp
    next => cases found

section

variable {entities : Entities} {env : Env} {members : List GroupMember} {resource : CloudResource}

theorem Entities.mem_of_mem_filterMap (agrees : entities.Agrees env)
    (listed : resource ∈ members.filterMap env.resource) :
    resource ∈ entities.resources members := by
  obtain ⟨member, there, found⟩ := List.mem_filterMap.mp listed
  exact List.mem_filterMap.mpr ⟨member, there,
    (agrees member (Env.readError_of_resource found)).symm.trans found⟩

/-- The members that can all be read stand for what is read. -/
theorem Entities.mem_filterMap_iff (agrees : entities.Agrees env) (reads : env.Reads members) :
    resource ∈ members.filterMap env.resource ↔ resource ∈ entities.resources members := by
  refine ⟨mem_of_mem_filterMap agrees, fun stands => ?_⟩
  obtain ⟨member, there, found⟩ := List.mem_filterMap.mp stands
  exact List.mem_filterMap.mpr ⟨member, there, (agrees member (reads member there)).trans found⟩

/-- The members whose entities do not exist. -/
def Env.absent (env : Env) (members : List GroupMember) : List GroupMember :=
  members.filter fun member => env.readError member == some .notFound

/-- A member is read or its entity does not exist, unless reading breaks. -/
theorem Entities.mem_resources_iff (agrees : entities.Agrees env)
    (unbroken : env.breaks members = false) :
    resource ∈ entities.resources members ↔
      resource ∈ members.filterMap env.resource ∨
        resource ∈ entities.resources (env.absent members) := by
  constructor
  · intro stands
    obtain ⟨member, there, found⟩ := List.mem_filterMap.mp stands
    cases error : env.readError member with
    | none =>
      exact .inl (List.mem_filterMap.mpr ⟨member, there, (agrees member error).trans found⟩)
    | some kind =>
      cases kind with
      | notFound =>
        exact .inr (List.mem_filterMap.mpr
          ⟨member, List.mem_filter.mpr ⟨there, by simp [error]⟩, found⟩)
      | other =>
        exact absurd error (by simpa using List.any_eq_false.mp unbroken member there)
  · rintro (listed | stands)
    · exact mem_of_mem_filterMap agrees listed
    · obtain ⟨member, there, found⟩ := List.mem_filterMap.mp stands
      exact List.mem_filterMap.mpr ⟨member, List.mem_of_mem_filter there, found⟩

end

/-! ## Steps -/

/-- What happens to a group between a rejected event and its retry. -/
inductive RetryStep where
  /-- A Modified event of the group. -/
  | modified (added removed : List GroupMember) (env : Env) (order : Supply)
  /-- `CheckToRun` visits the item of the group. -/
  | visit (env : Env) (order : Supply)

namespace RetryStep

def env : RetryStep → Env
  | .modified _ _ env _ => env
  | .visit env _ => env

def step (kind : Bool) (name : String) (s : System) : RetryStep → System
  | .modified added removed env order =>
    GroupStep.step kind name s ⟨.modified added removed, env, order⟩
  | .visit env order =>
    { s with
      reconciler := retryQueueAt.checkToRunItem PendingItem.runOrDeletePendingItem
        PendingItem.runPendingItem (getGroupUniqueName name kind)
        { s.reconciler with env, order } }

/-- The changes of the event are applied. -/
def applyTo (entities : Entities) (members : Set CloudResource) : RetryStep → Set CloudResource
  | .modified added removed _ _ =>
    { resource | resource ∈ entities.resources added ∨
      (resource ∈ members ∧ resource ∉ entities.resources removed) }
  | .visit _ _ => members

end RetryStep

namespace Core

variable (core : Core) (kind : Bool) (name : String)

/-- The members that the item of the group is going to add. -/
def recordedMembers : List GroupMember :=
  match core.retryQueue.items.get? (getGroupUniqueName name kind) with
  | some ⟨.pendingGroup group, _⟩ => group.addedMembers.values
  | _ => []

/-- All members tracked for the group. -/
def allMembers : List CloudResource :=
  (core.groupsByName kind name).flatMap fun c => (core.objects c).members

/-- The item of the group may still be run. -/
def AttemptsLeft : Prop :=
  ∀ counting ∈ core.retryQueue.items.get? (getGroupUniqueName name kind),
    counting.opCnt.all (0 < ·) = true

instance : Decidable (core.AttemptsLeft kind name) :=
  inferInstanceAs (Decidable (∀ counting ∈ core.retryQueue.items.get? _, _))

end Core

namespace RetryStep

variable (entities : Entities) (kind : Bool) (name : String) (s : System)

/-- The controller runs, no deletion is pending, members are entities and attempts are left. -/
def Meant (step : RetryStep) : Prop :=
  s.reconciler.panicked = false ∧
    s.reconciler.pendingDeleteGroups.has (getGroupUniqueName name kind) = false ∧
    match step with
    | .modified added removed _ _ => AllEntities added ∧ AllEntities removed
    | .visit _ _ => s.reconciler.AttemptsLeft kind name

/--
A rejected event removes no tracked member.  An accepted one removes no member
that waits to be added, names no resource twice, and the members of its missing
entities are recognised by their names.
-/
def Harmless : RetryStep → Prop
  | .modified added removed env _ =>
    if env.Accepts added removed then
      (∀ resource ∈ entities.resources added, resource ∉ entities.resources removed) ∧
        (∀ resource ∈ entities.resources removed,
          resource ∉ entities.resources (s.reconciler.recordedMembers kind name)) ∧
        ∀ resource ∈ s.reconciler.allMembers kind name,
          Stale (env.missing removed) resource ↔
            resource ∈ entities.resources (env.absent removed)
    else
      ∀ resource ∈ entities.resources removed,
        resource ∈ s.reconciler.allMembers kind name → resource ∈ entities.resources added
  | .visit _ _ => True

instance (step : RetryStep) : Decidable (step.Meant kind name s) := by
  unfold Meant
  cases step <;> infer_instance

instance (step : RetryStep) : Decidable (step.Harmless entities kind name s) := by
  unfold Harmless
  cases step <;> infer_instance

end RetryStep

/-! ## The invariant -/

/-- The group has no item, or one that waits to add members. -/
def ItemWaits (core : Core) (kind : Bool) (name : String) : Prop :=
  ∀ counting, core.retryQueue.items.get? (getGroupUniqueName name kind) = some counting →
    ∃ group, counting.item = .pendingGroup group ∧ group.event = some .modified ∧ group.Keyed

/-- The item of the group is going to add the member with the text. -/
def Core.RecordsText (core : Core) (kind : Bool) (name text : String) : Prop :=
  ∃ group count, core.retryQueue.items.get? (getGroupUniqueName name kind) =
    some ⟨.pendingGroup group, count⟩ ∧ group.Records text

/-- What is tracked and what waits to be added make up the membership. -/
structure Accounts (entities : Entities) (core : Core) (kind : Bool) (name : String)
    (members : Set CloudResource) : Prop where
  shaped : Shaped core kind name
  item : ItemWaits core kind name
  total : ∀ resource, resource ∈ members ↔
    resource ∈ core.trackedMembers kind name resource.name.vpc ∨
      resource ∈ entities.resources (core.recordedMembers kind name)

section

variable {entities : Entities} {core : Core} {kind : Bool} {name : String}
  {members : Set CloudResource} {resource : CloudResource}

theorem Core.exists_of_tracked {vpc : String}
    (tracked : resource ∈ core.trackedMembers kind name vpc) :
    ∃ c, core.find? kind name vpc = some c ∧ resource ∈ (core.objects c).members := by
  unfold Core.trackedMembers at tracked
  cases found : core.find? kind name vpc with
  | none =>
    rw [found] at tracked
    cases tracked
  | some c =>
    rw [found] at tracked
    exact ⟨c, rfl, tracked⟩

theorem Core.vpc_of_tracked (shaped : Shaped core kind name) {vpc : String}
    (tracked : resource ∈ core.trackedMembers kind name vpc) : resource.name.vpc = vpc := by
  obtain ⟨c, found, member⟩ := Core.exists_of_tracked tracked
  exact (shaped.members vpc c found resource member).2

theorem Core.mem_allMembers_of_tracked {r : Reconciler} (shaped : Shaped r.toCore kind name)
    {vpc : String} (tracked : resource ∈ r.trackedMembers kind name vpc) :
    resource ∈ r.allMembers kind name := by
  obtain ⟨c, found, member⟩ := Core.exists_of_tracked tracked
  exact List.mem_flatMap.mpr ⟨c, Reconciler.mem_groupsByName_of_find? shaped found, member⟩

theorem Core.recordedMembers_of_absent
    (absent : core.retryQueue.items.get? (getGroupUniqueName name kind) = none) :
    core.recordedMembers kind name = [] := by
  rw [Core.recordedMembers, absent]

/-- When no item waits, the membership is tracked. -/
theorem Accounts.tracks (accounts : Accounts entities core kind name members)
    (idle : core.retryQueue.has (getGroupUniqueName name kind) = false) :
    Tracks core kind name members := by
  have nothing : core.recordedMembers kind name = [] :=
    Core.recordedMembers_of_absent (by simpa [PendingItemQueue.has] using idle)
  intro vpc resource
  have total := accounts.total resource
  simp only [nothing, Entities.resources, List.filterMap_nil, List.not_mem_nil, or_false] at total
  constructor
  · intro tracked
    have here := Core.vpc_of_tracked accounts.shaped tracked
    exact ⟨total.mpr (here.symm ▸ tracked), here⟩
  · rintro ⟨member, rfl⟩
    exact total.mp member

/-- The recorded members are those the item records by their texts. -/
theorem mem_resources_recorded (item : ItemWaits core kind name) :
    resource ∈ entities.resources (core.recordedMembers kind name) ↔
      ∃ text, core.RecordsText kind name text ∧ entities text = some resource := by
  rw [Entities.mem_resources]
  refine exists_congr fun text => and_congr_left fun _ => ?_
  unfold Core.RecordsText Core.recordedMembers
  cases found : core.retryQueue.items.get? (getGroupUniqueName name kind) with
  | none => simp [textsOfMembers]
  | some counting =>
    obtain ⟨group, isGroup, _, keyed⟩ := item counting found
    obtain ⟨_, count⟩ := counting
    subst isGroup
    simp only [textsOfMembers, List.mem_filterMap, GoMap.mem_values]
    constructor
    · rintro ⟨member, ⟨key, stored⟩, named⟩
      obtain rfl : key = text := Option.some.inj ((keyed key member stored).symm.trans named)
      exact ⟨group, count, rfl, by simp [PendingGroup.Records, stored]⟩
    · rintro ⟨_, _, same, records⟩
      cases same
      obtain ⟨member, stored⟩ := Option.isSome_iff_exists.mp records
      exact ⟨member, ⟨text, stored⟩, keyed text member stored⟩

end

/-! ## Steps -/

/-- The membership after an event. -/
def Entities.change (entities : Entities) (added removed : List GroupMember)
    (members : Set CloudResource) : Set CloudResource :=
  { resource | resource ∈ entities.resources added ∨
    (resource ∈ members ∧ resource ∉ entities.resources removed) }

section

variable {entities : Entities} {kind : Bool} {name : String} {members : Set CloudResource}

variable {r : Reconciler} {added removed : List GroupMember} {s : System} {env : Env}
  {order : Supply}

/-- The membership after an accepted event of the group. -/
theorem mem_tracked_processMembers (sound : entities.Sound) (agrees : entities.Agrees r.env)
    (shaped : Shaped r.toCore kind name) (accepted : r.env.Accepts added removed)
    (apart : ∀ resource ∈ entities.resources added, resource ∉ entities.resources removed)
    (recognised : ∀ resource ∈ r.allMembers kind name,
      Stale (r.env.missing removed) resource ↔
        resource ∈ entities.resources (r.env.absent removed)) :
    (r.processMembers name .modified kind added removed).1 = false ∧
      (Shaped (r.processMembers name .modified kind added removed).2.toCore kind name ∧
        SameEvents r (r.processMembers name .modified kind added removed).2) ∧
      ∀ resource,
        resource ∈ (r.processMembers name .modified kind added removed).2.trackedMembers kind name
            resource.name.vpc ↔
          resource ∈ entities.resources added ∨
            (resource ∈ r.trackedMembers kind name resource.name.vpc ∧
              resource ∉ entities.resources removed) := by
  have networked (members : List GroupMember) : r.env.Networked members := fun resource listed =>
    Entities.networked_of_mem sound (Entities.mem_of_mem_filterMap agrees listed)
  have apart' : r.env.Apart added removed := fun resource inAdded inRemoved =>
    apart resource (Entities.mem_of_mem_filterMap agrees inAdded)
      (Entities.mem_of_mem_filterMap agrees inRemoved)
  obtain ⟨succeeds, shaped', holding⟩ := Reconciler.processMembers_spec (.inr rfl) shaped
    accepted (networked added) (networked removed) apart'
  refine ⟨succeeds, shaped', fun resource => ?_⟩
  have stale : (∃ before, Holding.dropStale (r.env.missing removed)
        (r.holding kind name resource.name.vpc) = some before ∧ resource ∈ before.members) ↔
      resource ∈ r.trackedMembers kind name resource.name.vpc ∧
        ¬ Stale (r.env.missing removed) resource := by
    rw [Core.mem_trackedMembers]
    cases r.holding kind name resource.name.vpc <;> simp [Holding.dropStale]
  rw [Core.mem_trackedMembers, holding, Holding.mem_apply, stale, Env.mem_resourcesIn,
    Env.mem_resourcesIn, Entities.mem_filterMap_iff agrees accepted.1,
    Entities.mem_resources_iff agrees accepted.2]
  simp only [and_true, not_or]
  refine or_congr_right ?_
  constructor
  · rintro ⟨⟨tracked, fresh⟩, kept⟩
    have known := Core.mem_allMembers_of_tracked shaped tracked
    exact ⟨tracked, kept, fun absent => fresh ((recognised resource known).mpr absent)⟩
  · rintro ⟨tracked, kept, present⟩
    have known := Core.mem_allMembers_of_tracked shaped tracked
    exact ⟨⟨tracked, fun stale => present ((recognised resource known).mp stale)⟩, kept⟩

theorem retryMemberGrp_recorded (item : ItemWaits r.toCore kind name) (inAdded : AllEntities added)
    (inRemoved : AllEntities removed) :
    let r' := r.retryMemberGrp name .modified kind true added removed
    (∃ queue, r' = { r with retryQueue := queue }) ∧ ItemWaits r'.toCore kind name ∧
      ∀ text, r'.RecordsText kind name text ↔ text ∈ textsOfMembers added ∨
        (r.RecordsText kind name text ∧ text ∉ textsOfMembers removed) := by
  intro r'
  let queued := r.retryQueue.add (getGroupUniqueName name kind) (.pendingGroup {})
  have unfolded : r' = { r with retryQueue := queued }.retryQueueUpdate
      (getGroupUniqueName name kind) (.event .modified added removed) := by
    simp [r', queued, Reconciler.retryMemberGrp]
  -- Whether or not something was recorded before, there is a group that is updated.
  have updated (old : PendingGroup) (count : Option Int)
      (found : queued.items.get? (getGroupUniqueName name kind) =
        some ⟨.pendingGroup old, count⟩)
      (keyed : old.Keyed) (event : old.event.getD .modified = .modified)
      (before : ∀ text, r.RecordsText kind name text ↔ old.Records text) :
      (∃ queue, r' = { r with retryQueue := queue }) ∧ ItemWaits r'.toCore kind name ∧
        ∀ text, r'.RecordsText kind name text ↔ text ∈ textsOfMembers added ∨
          (r.RecordsText kind name text ∧ text ∉ textsOfMembers removed) := by
    obtain ⟨recorded, result, keyed, event', _, records⟩ :=
      PendingGroup.updatePendingItem_members (.inr rfl) inAdded inRemoved keyed
    have final : r' = { r with
        retryQueue := queued.setItem (getGroupUniqueName name kind) (.pendingGroup recorded) } := by
      rw [unfolded]
      simp [Reconciler.retryQueueUpdate, QueueAt.update, retryQueueAt, found,
        PendingItem.updatePendingItem, result]
    have lookup : r'.retryQueue.items.get? (getGroupUniqueName name kind) =
        some ⟨.pendingGroup recorded, count⟩ := by
      rw [final]
      simp [PendingItemQueue.get?_setItem, found]
    refine ⟨⟨_, final⟩, fun counting there => ?_, fun text => ?_⟩
    · obtain rfl := Option.some.inj (lookup.symm.trans there)
      exact ⟨recorded, rfl, by rw [event', event], keyed⟩
    · rw [before, ← records]
      constructor
      · rintro ⟨_, _, there, recordsText⟩
        cases lookup.symm.trans there
        exact recordsText
      · exact fun recordsText => ⟨recorded, count, lookup, recordsText⟩
  cases found : r.retryQueue.items.get? (getGroupUniqueName name kind) with
  | none =>
    refine updated {} r.retryQueue.opCnt (by simp [queued, PendingItemQueue.get?_add, found])
      (by rintro _ _ ⟨⟩) rfl fun text => ?_
    simp [Core.RecordsText, found, PendingGroup.Records]
  | some counting =>
    obtain ⟨group, isGroup, event, keyed⟩ := item counting found
    obtain ⟨_, count⟩ := counting
    subst isGroup
    refine updated group count (by simp [queued, PendingItemQueue.get?_add, found]) keyed
      (by rw [event]; rfl) fun text => ?_
    constructor
    · rintro ⟨_, _, there, recordsText⟩
      cases found.symm.trans there
      exact recordsText
    · exact fun recordsText => ⟨group, count, found, recordsText⟩

theorem accounts_accepted (plain : '/' ∉ name.toList) (sound : entities.Sound)
    (agrees : entities.Agrees r.env) (accounts : Accounts entities r.toCore kind name members)
    (accepted : r.env.Accepts added removed)
    (apart : ∀ resource ∈ entities.resources added, resource ∉ entities.resources removed)
    (unrecorded : ∀ resource ∈ entities.resources removed,
      resource ∉ entities.resources (r.recordedMembers kind name))
    (recognised : ∀ resource ∈ r.allMembers kind name,
      Stale (r.env.missing removed) resource ↔
        resource ∈ entities.resources (r.env.absent removed)) :
    Accounts entities (r.processMembers name .modified kind added removed).2.toCore kind name
      (entities.change added removed members) := by
  obtain ⟨_, ⟨shaped, events⟩, tracked⟩ := mem_tracked_processMembers sound agrees
    accounts.shaped accepted apart recognised
  have slashless : '/' ∉ (getGroupUniqueName name kind).toList := by
    rw [toList_getGroupUniqueName]
    split <;> simp [plain]
  have same := events _ slashless
  refine ⟨shaped, fun counting found => accounts.item counting (same ▸ found), fun resource => ?_⟩
  rw [Core.recordedMembers, same, ← Core.recordedMembers, tracked, Entities.change,
    Set.mem_ofPred_eq, accounts.total]
  constructor
  · rintro (put | ⟨old | waits, kept⟩)
    · exact .inl (.inl put)
    · exact .inl (.inr ⟨old, kept⟩)
    · exact .inr waits
  · rintro ((put | ⟨old, kept⟩) | waits)
    · exact .inl put
    · exact .inr ⟨.inl old, kept⟩
    · exact .inr ⟨.inr waits, fun dropped => unrecorded resource dropped waits⟩

theorem accounts_rejected (sound : entities.Sound)
    (accounts : Accounts entities r.toCore kind name members) (inAdded : AllEntities added)
    (inRemoved : AllEntities removed) (untracked : ∀ resource ∈ entities.resources removed,
      resource ∈ r.allMembers kind name → resource ∈ entities.resources added) :
    Accounts entities (r.retryMemberGrp name .modified kind true added removed).toCore kind name
      (entities.change added removed members) := by
  let r' := r.retryMemberGrp name .modified kind true added removed
  obtain ⟨⟨queue, same⟩, item, records⟩ := retryMemberGrp_recorded accounts.item inAdded inRemoved
  have shaped : Shaped r'.toCore kind name := by
    have old := accounts.shaped
    rw [show r' = { r with retryQueue := queue } from same]
    exact ⟨old.index, old.own, old.members⟩
  have tracked (vpc : String) :
      r'.trackedMembers kind name vpc = r.trackedMembers kind name vpc := by
    rw [show r' = { r with retryQueue := queue } from same]
    rfl
  refine ⟨shaped, item, fun resource => ?_⟩
  rw [tracked, mem_resources_recorded item, Entities.change, Set.mem_ofPred_eq, accounts.total,
    mem_resources_recorded accounts.item]
  simp only [records]
  constructor
  · rintro (put | ⟨old | ⟨text, waits, stands⟩, kept⟩)
    · obtain ⟨text, listed, stands⟩ := Entities.mem_resources.mp put
      exact .inr ⟨text, .inl listed, stands⟩
    · exact .inl old
    · refine .inr ⟨text, .inr ⟨waits, fun dropped => kept ?_⟩, stands⟩
      exact Entities.mem_resources.mpr ⟨text, dropped, stands⟩
  · rintro (old | ⟨text, listed | ⟨waits, kept⟩, stands⟩)
    · by_cases dropped : resource ∈ entities.resources removed
      · exact .inl (untracked resource dropped
          (Core.mem_allMembers_of_tracked accounts.shaped old))
      · exact .inr ⟨.inl old, dropped⟩
    · exact .inl (Entities.mem_resources.mpr ⟨text, listed, stands⟩)
    · refine .inr ⟨.inr ⟨text, waits, stands⟩, fun dropped => ?_⟩
      obtain ⟨text', listed, stands'⟩ := Entities.mem_resources.mp dropped
      exact kept (sound.distinct text text' resource stands stands' ▸ listed)

theorem Accounts.enter (accounts : Accounts entities r.toCore kind name members) (env : Env)
    (order : Supply) : Accounts entities { r with env, order }.toCore kind name members :=
  ⟨⟨accounts.shaped.index, accounts.shaped.own, accounts.shaped.members⟩, accounts.item,
    accounts.total⟩

/-- An event of the group keeps the account. -/
theorem accounts_modified (plain : '/' ∉ name.toList) (sound : entities.Sound)
    (agrees : entities.Agrees env)
    (accounts : Accounts entities s.reconciler.toCore kind name members)
    (meant : (RetryStep.modified added removed env order).Meant kind name s)
    (harmless : (RetryStep.modified added removed env order).Harmless entities kind name s) :
    Accounts entities
      ((RetryStep.modified added removed env order).step kind name s).reconciler.toCore kind name
      ((RetryStep.modified added removed env order).applyTo entities members) := by
  obtain ⟨running, unparked, inAdded, inRemoved⟩ := meant
  have entered := accounts.enter env order
  let r : Reconciler := { s.reconciler with env, order }
  let event : GroupEvent := .modified added removed
  have unparked : r.pendingDeleteGroups.has (getGroupUniqueName name kind) = false := unparked
  have final : ((RetryStep.modified added removed env order).step kind name s).reconciler =
      (r.processMembers name .modified kind added removed).2.retryMemberGrp name .modified kind
        (r.processMembers name .modified kind added removed).1 added removed := by
    rw [RetryStep.step, GroupStep.reconciler_step running]
    exact Reconciler.handle_groupEvent event unparked
  rw [final]
  rw [RetryStep.Harmless] at harmless
  split at harmless
  next accepted =>
    obtain ⟨apart, unrecorded, recognised⟩ := harmless
    have succeeds : (r.processMembers name .modified kind added removed).1 = false := by
      rw [Reconciler.processMembers_accepted (.inr rfl) accepted]
    rw [succeeds]
    simp only [Reconciler.retryMemberGrp, Bool.false_eq_true, false_and, if_false, reduceCtorEq]
    exact accounts_accepted plain sound agrees entered accepted apart unrecorded recognised
  next rejected =>
    rw [Reconciler.processMembers_rejected (.inr rfl) rejected]
    exact accounts_rejected sound entered inAdded inRemoved harmless

/-- The members of an item are entities. -/
theorem PendingGroup.allEntities_of_keyed {group : PendingGroup} (keyed : group.Keyed)
    (code : Nat) :
    AllEntities (arrange code group.addedMembers.values) := by
  intro member listed unnamed
  obtain ⟨key, stored⟩ := (GoMap.mem_values _ _).mp ((mem_arrange _ _ _).mp listed)
  have text := keyed key member stored
  simp [GroupMember.text?, unnamed] at text

/-- The item has been run and is taken out of the queue. -/
theorem accounts_dequeued {count : Int} (shaped : Shaped r.toCore kind name)
    (total : ∀ resource, resource ∈ members ↔
      resource ∈ r.trackedMembers kind name resource.name.vpc) :
    Accounts entities ((r.setBudget (getGroupUniqueName name kind) count).dequeue
      (getGroupUniqueName name kind)).toCore kind name members := by
  have gone : ((r.setBudget (getGroupUniqueName name kind) count).dequeue
      (getGroupUniqueName name kind)).retryQueue.items.get? (getGroupUniqueName name kind) =
        none := by
    rw [Reconciler.get?_dequeue, if_pos rfl]
  refine ⟨⟨shaped.index, shaped.own, shaped.members⟩, fun counting found => ?_,
    fun resource => ?_⟩
  · rw [gone] at found
    cases found
  · rw [Core.recordedMembers_of_absent gone, total]
    simp [Entities.resources, Core.trackedMembers, Core.find?, Core.indexer, Reconciler.dequeue,
      Reconciler.setBudget]

/-- The item stays in the queue with fewer attempts. -/
theorem Accounts.setBudget (accounts : Accounts entities r.toCore kind name members) (count : Int) :
    Accounts entities (r.setBudget (getGroupUniqueName name kind) count).toCore kind name
      members := by
  have lookup : (r.setBudget (getGroupUniqueName name kind) count).retryQueue.items.get?
      (getGroupUniqueName name kind) =
        (r.retryQueue.items.get? (getGroupUniqueName name kind)).map fun counting =>
          { counting with opCnt := some count } := by
    simp [Reconciler.setBudget, PendingItemQueue.get?_setCount]
  have recorded : (r.setBudget (getGroupUniqueName name kind) count).recordedMembers kind name =
      r.recordedMembers kind name := by
    rw [Core.recordedMembers, lookup, Core.recordedMembers]
    cases r.retryQueue.items.get? (getGroupUniqueName name kind) with
    | none => rfl
    | some counting =>
      obtain ⟨item, _⟩ := counting
      cases item <;> rfl
  have shaped := accounts.shaped
  refine ⟨⟨shaped.index, shaped.own, shaped.members⟩, fun counting found => ?_,
    fun resource => ?_⟩
  · rw [lookup] at found
    obtain ⟨old, there, rfl⟩ := Option.map_eq_some_iff.mp found
    exact accounts.item old there
  · rw [recorded]
    exact accounts.total resource

/-- A visit of the item of the group keeps the account. -/
theorem accounts_visit (plain : PlainName name) (sound : entities.Sound)
    (agrees : entities.Agrees env) (base : Base s.reconciler.toCore)
    (accounts : Accounts entities s.reconciler.toCore kind name members)
    (meant : (RetryStep.visit env order).Meant kind name s) :
    Accounts entities ((RetryStep.visit env order).step kind name s).reconciler.toCore kind name
      members := by
  obtain ⟨_, unparked, attempts⟩ := meant
  let r : Reconciler := { s.reconciler with env, order }
  have entered : Accounts entities r.toCore kind name members := accounts.enter env order
  change Accounts entities (retryQueueAt.checkToRunItem PendingItem.runOrDeletePendingItem
    PendingItem.runPendingItem (getGroupUniqueName name kind) r).toCore kind name members
  cases found : r.retryQueue.items.get? (getGroupUniqueName name kind) with
  | none =>
    simp only [QueueAt.checkToRunItem, Reconciler.retryQueueAt_get, found]
    exact entered
  | some counting =>
    obtain ⟨group, isGroup, event, keyed⟩ := entered.item counting found
    obtain ⟨⟨count, isCount⟩, known⟩ := base.queue _ counting found
    obtain ⟨_, _⟩ := counting
    subst isGroup isCount
    have left : 0 < count := by simpa using attempts _ found
    rw [Reconciler.checkToRunItem_event known.1 found, if_pos left]
    have recorded : r.recordedMembers kind name = group.addedMembers.values := by
      rw [Core.recordedMembers, found]
    by_cases empty : group.addedMembers.values.length = 0
    · -- Nothing is left to be added, and the item is given up.
      rw [PendingGroup.runPendingItem, if_pos empty]
      refine accounts_dequeued entered.shaped fun resource => ?_
      rw [entered.total, recorded, List.eq_nil_of_length_eq_zero empty]
      simp [Entities.resources]
    · let list := arrange (r.order 0) group.addedMembers.values
      have listed (resource : CloudResource) : resource ∈ entities.resources list ↔
          resource ∈ entities.resources (r.recordedMembers kind name) := by
        rw [recorded]
        simp [Entities.resources, list]
      have drawn : Accounts entities r.advance.toCore kind name members :=
        entered.enter env r.order.tail
      have unparked : r.pendingDeleteGroups.has (getGroupUniqueName name kind) = false :=
        unparked
      rw [PendingGroup.runPendingItem_eq plain empty event unparked]
      simp only [known.1, Option.isSome_none, Bool.false_or]
      by_cases accepted : r.advance.env.Accepts list []
      · obtain ⟨succeeds, ⟨shaped, _⟩, tracked⟩ := mem_tracked_processMembers sound agrees
          drawn.shaped accepted (fun _ _ => List.not_mem_nil)
          (fun resource _ => by simp [Env.missing, Stale, Env.absent, Entities.resources])
        rw [succeeds]
        simp only [Bool.not_false, if_true, Reconciler.retryMemberGrp, Bool.false_eq_true,
          false_and, if_false, reduceCtorEq]
        refine accounts_dequeued shaped fun resource => ?_
        rw [tracked, entered.total, ← listed, or_comm]
        exact or_congr_right ⟨fun old => ⟨old, List.not_mem_nil⟩, And.left⟩
      · have nothing : AllEntities ([] : List GroupMember) := List.forall_mem_nil _
        have again := accounts_rejected sound drawn
          (PendingGroup.allEntities_of_keyed keyed (r.order 0)) nothing
          (fun _ there => absurd there List.not_mem_nil)
        have same : entities.change list [] members = members := by
          ext resource
          refine ⟨?_, fun old => .inr ⟨old, List.not_mem_nil⟩⟩
          rintro (put | ⟨old, _⟩)
          · exact (entered.total resource).mpr (.inr ((listed resource).mp put))
          · exact old
        rw [Reconciler.processMembers_rejected (.inr rfl) accepted]
        exact Accounts.setBudget (same ▸ again) _

end

/-! ## Runs -/

/--
When nothing waits to be retried, the tracked members are those that all Modified
events add up to, rejected or not, in every run in which the events are harmless.
-/
theorem retried_changes_are_kept (entities : Entities) (sound : entities.Sound) (kind : Bool)
    (name : String) (plain : PlainName name) (s : System) (members : Set CloudResource)
    (steps : List RetryStep) (agrees : ∀ step ∈ steps, entities.Agrees step.env)
    (base : Base s.reconciler.toCore) (shaped : Shaped s.reconciler.toCore kind name)
    (idle : s.reconciler.retryQueue.has (getGroupUniqueName name kind) = false)
    (tracks : Tracks s.reconciler.toCore kind name members)
    (allowed : Allowed (RetryStep.step kind name)
      (fun s step => step.Meant kind name s ∧ step.Harmless entities kind name s) s steps)
    (retried : (run (RetryStep.step kind name) s steps).reconciler.retryQueue.has
      (getGroupUniqueName name kind) = false) :
    Tracks (run (RetryStep.step kind name) s steps).reconciler.toCore kind name
      (steps.foldl (fun members step => step.applyTo entities members) members) := by
  suffices accounts : ∀ s members, Base s.reconciler.toCore →
      Accounts entities s.reconciler.toCore kind name members →
      Allowed (RetryStep.step kind name)
        (fun s step => step.Meant kind name s ∧ step.Harmless entities kind name s) s steps →
      Accounts entities (run (RetryStep.step kind name) s steps).reconciler.toCore kind name
        (steps.foldl (fun members step => step.applyTo entities members) members) by
    have absent : s.reconciler.retryQueue.items.get? (getGroupUniqueName name kind) = none := by
      simpa [PendingItemQueue.has] using idle
    refine (accounts s members base ⟨shaped, fun counting found => ?_, fun resource => ?_⟩
      allowed).tracks retried
    · rw [absent] at found
      cases found
    · rw [Core.recordedMembers_of_absent absent, tracks]
      simp [Entities.resources]
  clear retried allowed tracks idle shaped base
  induction steps with
  | nil => exact fun s members _ accounts _ => accounts
  | cons step rest induction =>
    intro s members base accounts allowed
    obtain ⟨⟨meant, harmless⟩, allowed⟩ := allowed
    have here := agrees step List.mem_cons_self
    refine induction (fun step listed => agrees step (List.mem_cons_of_mem _ listed)) _ _ ?_ ?_
      allowed
    · cases step with
      | modified added removed env order => exact s.base_step _ base
      | visit env order =>
        have entered := (Effect.enter env order).base base
        exact entered.effects (Reconciler.checkToRunItem_effects entered _)
    · cases step with
      | modified added removed env order =>
        exact accounts_modified plain.1 sound here accounts meant harmless
      | visit env order => exact accounts_visit plain sound here base accounts meant

namespace Sample

/-- The machines of the samples, by their entities. -/
def entities : Entities := fun text =>
  if text = "ns/a" then some (machine "a" "v1")
  else if text = "ns/b" then some (machine "b" "v1")
  else if text = "ns/c" then some (machine "c" "v2")
  else none

/-- Only the entities with the names can be read. -/
def reading (names : List String) : Env :=
  { env with
    getExternalEntity key :=
      if key.namespace = "ns" ∧ key.name ∈ names then env.getExternalEntity key
      else .error .other }

theorem entities_sound : entities.Sound where
  distinct text text' resource found found' := by
    unfold entities at found found'
    split_ifs at found found' <;> cases found <;> simp_all [machine]
  networked text resource found := by
    unfold entities at found
    split_ifs at found <;> cases found <;> simp [machine]

theorem entities_agree {names : List String} (known : names ⊆ ["a", "b", "c"]) :
    entities.Agrees (reading names) := by
  rintro ⟨_ | ⟨space, name⟩⟩ reads
  · rfl
  · simp only [Env.readError, reading] at reads
    split_ifs at reads with read
    obtain ⟨rfl, listed⟩ := read
    have known := known listed
    simp only [List.mem_cons, List.not_mem_nil, or_false] at known
    obtain rfl | rfl | rfl := known <;> simp only [Env.resource, reading, listed] <;> rfl

end Sample

/--
An addition is rejected twice and made in the end, and the events that come in between
are kept.
-/
theorem sample_changes_are_kept :
    let all := Sample.reading ["a", "b", "c"]
    let some := Sample.reading ["a", "b"]
    let steps : List RetryStep :=
      [.modified [Sample.member "a"] [] all default,
        .modified [Sample.member "c"] [Sample.member "b"] some default, .visit some default,
        .modified [Sample.member "b"] [Sample.member "a"] some default, .visit all default]
    Tracks (run (RetryStep.step true "g") (System.initial fun _ => none) steps).reconciler.toCore
      true "g" (steps.foldl (fun members step => step.applyTo Sample.entities members) ∅) := by
  intro all some steps
  refine retried_changes_are_kept Sample.entities Sample.entities_sound true "g" (by decide) _ _ _
    ?_ base_setup (shaped_of_unknown base_setup fun _ => rfl) rfl (fun _ _ => ?_)
    (by decide +kernel) (by decide +kernel)
  · have agrees : Sample.entities.Agrees all := Sample.entities_agree (by decide)
    have agrees' : Sample.entities.Agrees some := Sample.entities_agree (by decide)
    simp [steps, RetryStep.env, agrees, agrees']
  · simp [Core.trackedMembers, Core.find?, System.initial, Reconciler.setup, Core.indexer]

/-- A machine that is removed by a rejected event is still tracked after the retry. -/
theorem removed_member_is_kept :
    let all := Sample.reading ["a", "b", "c"]
    let steps : List RetryStep :=
      [.modified [Sample.member "a"] [] all default,
        .modified [Sample.member "c"] [Sample.member "a"] (Sample.reading ["a"]) default,
        .visit all default]
    let s := run (RetryStep.step true "g") (System.initial fun _ => none) steps
    Allowed (RetryStep.step true "g") (fun s step => step.Meant true "g" s)
        (System.initial fun _ => none) steps ∧
      s.reconciler.retryQueue.has (getGroupUniqueName "g" true) = false ∧
      ¬ Tracks s.reconciler.toCore true "g"
        (steps.foldl (fun members step => step.applyTo Sample.entities members) ∅) := by
  intro all steps s
  refine ⟨by decide +kernel, by decide +kernel, fun tracks => ?_⟩
  have tracked : Sample.machine "a" "v1" ∈ s.reconciler.trackedMembers true "g" "v1" := by
    decide +kernel
  have kept := ((tracks "v1" _).mp tracked).1
  simp only [steps, List.foldl, RetryStep.applyTo, Set.mem_ofPred_eq] at kept
  exact absurd kept (by decide +kernel)

end Nephe
