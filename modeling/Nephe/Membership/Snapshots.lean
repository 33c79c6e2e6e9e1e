import Nephe.Membership.Events
import Nephe.Safety.RetryTags

/-!
# Snapshots of a group

An Added event lists all members of its group, also when the watch has been
opened again and the group is already known.  `processMemberGrp` merges it into
what is tracked, so a member that is not listed any more stays.
-/

namespace Nephe

open Library

/-! ## Events of one group -/

/-- An event that carries members. -/
inductive GroupEvent where
  | added (members : List GroupMember)
  | modified (added removed : List GroupMember)

namespace GroupEvent

/-- The members the event lists as removed. -/
def removed : GroupEvent → List GroupMember
  | .added _ => []
  | .modified _ dropped => dropped

/-- The members the event lists as present or added. -/
def listed : GroupEvent → List GroupMember
  | .added members => members
  | .modified members _ => members

def type : GroupEvent → EventType
  | .added _ => .added
  | .modified _ _ => .modified

/-- The message on the watch. -/
def event (kind : Bool) (name : String) (event : GroupEvent) : Event :=
  let object : GroupObject :=
    match event with
    | .added members => .complete name members
    | .modified members dropped => .patch name members dropped
  if kind then .addrGroup event.type object else .appliedToGroup event.type object

/-- The event changes a membership as its sender means it. -/
def applyTo (env : Env) (members : Set CloudResource) : GroupEvent → Set CloudResource
  | .added listed => { resource | resource ∈ listed.filterMap env.resource }
  | .modified listed dropped =>
    { resource | resource ∈ listed.filterMap env.resource ∨
      (resource ∈ members ∧ resource ∉ dropped.filterMap env.resource) }

end GroupEvent

/-- An event of the group with the environment and the iteration orders it meets. -/
structure GroupStep where
  event : GroupEvent
  env : Env
  order : Supply := fun _ => 0

namespace GroupStep

variable (kind : Bool) (name : String)

/-- The controller receives the event. -/
def step (s : System) (step : GroupStep) : System :=
  s.step { event := step.event.event kind name, env := step.env, order := step.order }

/-- The event is processed: the controller runs, no deletion is pending, all members can be read. -/
structure Processed (s : System) (step : GroupStep) : Prop where
  running : s.reconciler.panicked = false
  unparked : s.reconciler.pendingDeleteGroups.has (getGroupUniqueName name kind) = false
  reads : step.env.Reads (step.event.listed ++ step.event.removed)
  networked : step.env.Networked (step.event.listed ++ step.event.removed)

instance (s : System) (step : GroupStep) : Decidable (step.Processed kind name s) :=
  decidable_of_iff
    (s.reconciler.panicked = false ∧
      s.reconciler.pendingDeleteGroups.has (getGroupUniqueName name kind) = false ∧
      step.env.Reads (step.event.listed ++ step.event.removed) ∧
      step.env.Networked (step.event.listed ++ step.event.removed))
    ⟨fun ⟨running, unparked, reads, networked⟩ => ⟨running, unparked, reads, networked⟩,
      fun ⟨running, unparked, reads, networked⟩ => ⟨running, unparked, reads, networked⟩⟩

/--
An Added event lists every member that is tracked, and a Modified event does not
add and remove the same resource.
-/
def Consistent (s : System) (step : GroupStep) : Prop :=
  match step.event with
  | .added listed =>
    ∀ c ∈ s.reconciler.groupsByName kind name, ∀ resource ∈ (s.reconciler.objects c).members,
      resource ∈ listed.filterMap step.env.resource
  | .modified added removed => step.env.Apart added removed

instance (s : System) (step : GroupStep) : Decidable (step.Consistent kind name s) := by
  unfold Consistent
  cases step.event <;> infer_instance

end GroupStep

/-! ## What is tracked -/

/-- The members tracked for a group in a VPC. -/
def Core.trackedMembers (core : Core) (kind : Bool) (name vpc : String) : List CloudResource :=
  ((core.find? kind name vpc).map fun c => (core.objects c).members).getD []

/-- Every VPC has those of the members that are in it. -/
def Tracks (core : Core) (kind : Bool) (name : String) (members : Set CloudResource) : Prop :=
  ∀ vpc resource, resource ∈ core.trackedMembers kind name vpc ↔
    resource ∈ members ∧ resource.name.vpc = vpc

variable {core : Core} {kind : Bool} {name vpc : String} {resource : CloudResource}

theorem Core.mem_trackedMembers :
    resource ∈ core.trackedMembers kind name vpc ↔
      ∃ holding, core.holding kind name vpc = some holding ∧ resource ∈ holding.members := by
  unfold trackedMembers holding
  cases core.find? kind name vpc <;> simp [SecurityGroup.holding]

/-- The members of a holding after an event, whether or not there was an object. -/
theorem Holding.mem_apply {env : Env} {eventType : EventType} {added removed : List GroupMember}
    {holding : Option Holding} :
    (∃ after, apply kind env eventType added removed vpc holding = some after ∧
        resource ∈ after.members) ↔
      resource ∈ env.resourcesIn added vpc ∨
        ((∃ before, holding = some before ∧ resource ∈ before.members) ∧
          resource ∉ env.resourcesIn removed vpc) := by
  have members (creates : Prop) [Decidable creates] (addresses dropped : List IPNet)
      (holding : Option Holding) :
      (∃ after, putAddresses creates addresses dropped holding = some after ∧
          resource ∈ after.members) ↔
        ∃ before, holding = some before ∧ resource ∈ before.members := by
    cases holding with
    | none => by_cases made : creates <;> simp [putAddresses, made]
    | some holding => simp [putAddresses]
  have put : (∃ after, put (env.resourcesIn added vpc) (env.resourcesIn removed vpc) holding =
        some after ∧ resource ∈ after.members) ↔
      resource ∈ env.resourcesIn added vpc ∨
        ((∃ before, holding = some before ∧ resource ∈ before.members) ∧
          resource ∉ env.resourcesIn removed vpc) := by
    cases holding with
    | none =>
      by_cases empty : env.resourcesIn added vpc = []
      · simp [Holding.put, empty]
      · simp [Holding.put, empty]
    | some holding => simp [Holding.put]
  unfold apply
  split
  · rw [members, put]
  · exact put

/-- In a state in which the group is not known, there is nothing to be said about it. -/
theorem shaped_of_unknown (base : Base core) (unknown : ∀ vpc, core.find? kind name vpc = none) :
    Shaped core kind name where
  index := base.index
  own vpc c found := by
    rw [unknown] at found
    cases found
  members vpc c found := by
    rw [unknown] at found
    cases found

namespace Reconciler

variable {kind : Bool} {name : String} {r : Reconciler}

/-- An event of a group that is not being deleted goes through `processMembers`. -/
theorem handle_groupEvent (event : GroupEvent)
    (unparked : r.pendingDeleteGroups.has (getGroupUniqueName name kind) = false) :
    r.handle (event.event kind name) =
      (r.processMembers name event.type kind event.listed event.removed).2.retryMemberGrp name
        event.type kind (r.processMembers name event.type kind event.listed event.removed).1
        event.listed event.removed := by
  cases event <;> cases kind <;>
    simp [handle, GroupEvent.event, GroupEvent.type, GroupEvent.listed, GroupEvent.removed,
      processAddrGrp, processAppliedToGrp, processGrpEvent, processMemberGrp, unparked]

end Reconciler

theorem GroupEvent.changesMembers (event : GroupEvent) :
    Reconciler.ChangesMembers event.type event.removed := by
  cases event with
  | added members => exact .inl ⟨rfl, rfl⟩
  | modified added removed => exact .inr rfl

theorem Holding.dropStale_nil (holding : Option Holding) : dropStale [] holding = holding := by
  cases holding <;> simp [dropStale, Stale]

namespace GroupStep

variable {kind : Bool} {name : String} {s : System} {step : GroupStep}

theorem reconciler_step (running : s.reconciler.panicked = false) :
    (step.step kind name s).reconciler =
      (s.reconciler.enter
        { event := step.event.event kind name, env := step.env, order := step.order }).handle
          (step.event.event kind name) := by
  cases kind <;> simp [GroupStep.step, System.step, running, GroupEvent.event]

/-- Processing an event keeps the shape of the group and applies the event to its holdings. -/
theorem step_spec (shaped : Shaped s.reconciler.toCore kind name)
    (processed : step.Processed kind name s)
    (apart : step.env.Apart step.event.listed step.event.removed) :
    Shaped (step.step kind name s).reconciler.toCore kind name ∧
      ∀ vpc, (step.step kind name s).reconciler.holding kind name vpc =
        Holding.apply kind step.env step.event.type step.event.listed step.event.removed vpc
          (s.reconciler.holding kind name vpc) := by
  let r := s.reconciler.enter
    { event := step.event.event kind name, env := step.env, order := step.order }
  have readsListed : r.env.Reads step.event.listed := fun member listed =>
    processed.reads member (List.mem_append_left _ listed)
  have readsRemoved : r.env.Reads step.event.removed := fun member listed =>
    processed.reads member (List.mem_append_right _ listed)
  have networked (members : List GroupMember)
      (part : members ⊆ step.event.listed ++ step.event.removed) : r.env.Networked members :=
    fun resource listed => processed.networked resource
      (List.mem_filterMap.mpr ((List.mem_filterMap.mp listed).imp fun member known =>
        ⟨part known.1, known.2⟩))
  obtain ⟨unbroken, noneMissing⟩ := Env.reads_iff.mp readsRemoved
  have shaped' : Shaped r.toCore kind name := ⟨shaped.index, shaped.own, shaped.members⟩
  obtain ⟨succeeds, ⟨shapedAfter, _⟩, holding⟩ := Reconciler.processMembers_spec
    step.event.changesMembers shaped' ⟨readsListed, unbroken⟩
    (networked _ (List.subset_append_left _ _)) (networked _ (List.subset_append_right _ _)) apart
  have final : (step.step kind name s).reconciler =
      (r.processMembers name step.event.type kind step.event.listed step.event.removed).2 := by
    have unparked : r.pendingDeleteGroups.has (getGroupUniqueName name kind) = false :=
      processed.unparked
    rw [reconciler_step processed.running, Reconciler.handle_groupEvent _ unparked, succeeds]
    cases step.event <;> simp [Reconciler.retryMemberGrp, GroupEvent.type]
  rw [final]
  refine ⟨shapedAfter, fun vpc => ?_⟩
  rw [holding, noneMissing, Holding.dropStale_nil]
  rfl

theorem Consistent.apart (consistent : step.Consistent kind name s) :
    step.env.Apart step.event.listed step.event.removed := by
  unfold Consistent at consistent
  cases event : step.event with
  | added listed => exact fun resource _ => List.not_mem_nil
  | modified listed removed =>
    rw [event] at consistent
    exact consistent

/-- One event changes the tracked membership as its sender means it. -/
theorem tracks_step {members : Set CloudResource} (shaped : Shaped s.reconciler.toCore kind name)
    (tracks : Tracks s.reconciler.toCore kind name members)
    (processed : step.Processed kind name s) (consistent : step.Consistent kind name s) :
    Tracks (step.step kind name s).reconciler.toCore kind name
      (step.event.applyTo step.env members) := by
  intro vpc resource
  obtain ⟨_, holding⟩ := step_spec shaped processed consistent.apart
  rw [Core.mem_trackedMembers, holding, Holding.mem_apply, ← Core.mem_trackedMembers,
    tracks vpc resource, Env.mem_resourcesIn, Env.mem_resourcesIn]
  cases event : step.event with
  | added listed =>
    -- Nothing is dropped; the condition says that nothing had to be.
    simp only [GroupEvent.applyTo, GroupEvent.listed, GroupEvent.removed, List.filterMap_nil,
      List.not_mem_nil, false_and, not_false_eq_true, and_true, Set.mem_ofPred_eq]
    refine ⟨fun known => known.elim id fun ⟨old, here⟩ => ⟨?_, here⟩, .inl⟩
    have there : resource ∈ s.reconciler.trackedMembers kind name vpc :=
      (tracks vpc resource).mpr ⟨old, here⟩
    unfold Core.trackedMembers at there
    cases found : s.reconciler.find? kind name vpc with
    | none =>
      rw [found] at there
      cases there
    | some c =>
      rw [found] at there
      simp only [Consistent, event] at consistent
      exact consistent c (Reconciler.mem_groupsByName_of_find? shaped found) resource there
  | modified listed removed =>
    simp only [GroupEvent.applyTo, GroupEvent.listed, GroupEvent.removed, Set.mem_ofPred_eq]
    constructor
    · rintro (⟨put, here⟩ | ⟨⟨old, here⟩, kept⟩)
      · exact ⟨.inl put, here⟩
      · exact ⟨.inr ⟨old, fun dropped => kept ⟨dropped, here⟩⟩, here⟩
    · rintro ⟨put | ⟨old, kept⟩, here⟩
      · exact .inl ⟨put, here⟩
      · exact .inr ⟨⟨old, here⟩, fun dropped => kept dropped.1⟩

end GroupStep

/-! ## Sequences of events -/

/--
The members tracked for a group are those its events add up to, as long as every
Added event lists the members that are tracked already.
-/
theorem tracked_members_are_folded (kind : Bool) (name : String) (s : System)
    (members : Set CloudResource) (steps : List GroupStep)
    (shaped : Shaped s.reconciler.toCore kind name)
    (tracks : Tracks s.reconciler.toCore kind name members)
    (allowed : Allowed (GroupStep.step kind name)
      (fun s step => step.Processed kind name s ∧ step.Consistent kind name s) s steps) :
    Tracks (run (GroupStep.step kind name) s steps).reconciler.toCore kind name
      (steps.foldl (fun members step => step.event.applyTo step.env members) members) := by
  induction steps generalizing s members with
  | nil => exact tracks
  | cons step rest induction =>
    obtain ⟨⟨processed, consistent⟩, allowed⟩ := allowed
    exact induction _ _ (GroupStep.step_spec shaped processed consistent.apart).1
      (GroupStep.tracks_step shaped tracks processed consistent) allowed

namespace Sample

/-- Events of the group, in the environment of the samples. -/
def groupSteps (events : List GroupEvent) : List GroupStep :=
  events.map fun event => { event, env }

/-- The machine of a member. -/
def machine (name vpc : String) : CloudResource :=
  ⟨.virtualMachine, ⟨name, vpc⟩⟩

end Sample

/-- A group that gets a machine, then another one in place of the first, then a new snapshot. -/
theorem sample_members_are_folded :
    let steps := Sample.groupSteps
      [.added [Sample.member "a"],
        .modified [Sample.member "b", Sample.member "c"] [Sample.member "a"],
        .added [Sample.member "c", Sample.member "b", Sample.member "d"]]
    Tracks (run (GroupStep.step true "g") (System.initial fun _ => none) steps).reconciler.toCore
      true "g" (steps.foldl (fun members step => step.event.applyTo step.env members) ∅) :=
  tracked_members_are_folded true "g" (System.initial fun _ => none) ∅ _
    (shaped_of_unknown base_setup fun _ => rfl)
    (fun _ _ => by
      simp [Core.trackedMembers, Core.find?, System.initial, Reconciler.setup, Core.indexer])
    (by decide +kernel)

/-- A machine that is missing in the second snapshot is still tracked. -/
theorem lost_member_is_tracked :
    let steps := Sample.groupSteps
      [.added [Sample.member "a", Sample.member "b"], .added [Sample.member "a"]]
    Allowed (GroupStep.step true "g") (fun s step => step.Processed true "g" s)
        (System.initial fun _ => none) steps ∧
      ¬ Tracks
        (run (GroupStep.step true "g") (System.initial fun _ => none) steps).reconciler.toCore
        true "g" (steps.foldl (fun members step => step.event.applyTo step.env members) ∅) := by
  intro steps
  refine ⟨by decide +kernel, fun tracks => ?_⟩
  have tracked : Sample.machine "b" "v1" ∈
      (run (GroupStep.step true "g") (System.initial fun _ => none) steps).reconciler.trackedMembers
        true "g" "v1" := by decide +kernel
  have listed : Sample.machine "b" "v1" ∈ [Sample.member "a"].filterMap Sample.env.resource :=
    ((tracks "v1" _).mp tracked).1
  exact absurd listed (by decide +kernel)

end Nephe
