import Nephe.Membership.Accumulator
import Nephe.Membership.Sequences

/-!
# Events of a group that is being deleted

While the deletes of a group are under way its events are recorded in its entry
of `pendingDeleteGroups`.  The entry keeps the type of the first event and the
members that are left, and the last delete replays them as a single event, which
is compared here with processing the events one by one.
-/

namespace Nephe

open Library

/-! ## Members by their texts -/

namespace GroupMember

/-- The member refers to an entity, and a namespace has no slash. -/
def Plain (member : GroupMember) : Prop :=
  member.externalEntity.any (fun key => '/' ∉ key.namespace.toList) = true

instance : DecidablePred Plain :=
  fun _ => inferInstanceAs (Decidable (_ = true))

theorem Plain.text {member : GroupMember} (plain : member.Plain) :
    ∃ key, member.externalEntity = some key ∧ member.text? = some key.string ∧
      '/' ∉ key.namespace.toList := by
  obtain ⟨_ | key⟩ := member
  · cases plain
  · exact ⟨key, rfl, rfl, by simpa [Plain] using plain⟩

/-- Members are told apart by their texts. -/
theorem text_inj {member member' : GroupMember} (plain : member.Plain) (plain' : member'.Plain)
    (same : member.text? = member'.text?) : member = member' := by
  obtain ⟨⟨space, name⟩, refers, text, slashless⟩ := plain.text
  obtain ⟨⟨space', name'⟩, refers', text', slashless'⟩ := plain'.text
  rw [text, text', Option.some.injEq] at same
  have lists (key : NamespacedName) :
      key.string.toList = key.namespace.toList ++ '/' :: key.name.toList := by
    simp [NamespacedName.string]
  obtain ⟨sameSpace, sameName⟩ := append_separator_inj slashless slashless'
    ((lists _).symm.trans ((congrArg String.toList same).trans (lists _)))
  obtain rfl : space = space' := String.toList_inj.mp sameSpace
  obtain rfl : name = name' := String.toList_inj.mp sameName
  cases member
  cases member'
  exact congrArg GroupMember.mk (refers.trans refers'.symm)

end GroupMember

def AllPlain (members : List GroupMember) : Prop :=
  ∀ member ∈ members, member.Plain

instance (members : List GroupMember) : Decidable (AllPlain members) :=
  inferInstanceAs (Decidable (∀ member ∈ members, _))

theorem AllPlain.allEntities {members : List GroupMember} (plain : AllPlain members) :
    AllEntities members := by
  intro member listed
  obtain ⟨key, refers, _⟩ := (plain member listed).text
  simp [refers]

theorem mem_textsOfMembers {members : List GroupMember} (plain : AllPlain members)
    {member : GroupMember} (known : member.Plain) {text : String}
    (named : member.text? = some text) : text ∈ textsOfMembers members ↔ member ∈ members := by
  simp only [textsOfMembers, List.mem_filterMap]
  constructor
  · rintro ⟨other, listed, same⟩
    exact GroupMember.text_inj (plain other listed) known (same.trans named.symm) ▸ listed
  · exact fun listed => ⟨member, listed, named⟩

/-! ## The entry -/

/-- The entry has recorded the events. -/
structure PendingGroup.Recorded (group : PendingGroup) (events : List GroupEvent) : Prop where
  event : group.event = GroupEvent.firstType events
  keyed : group.Keyed
  stored : ∀ key member, group.addedMembers.get? key = some member → member.Plain
  plain : AllPlain (GroupEvent.membersLeft events)
  texts : ∀ key, group.Records key ↔ key ∈ textsOfMembers (GroupEvent.membersLeft events)

namespace PendingGroup.Recorded

variable {group : PendingGroup} {events : List GroupEvent}

/-- The entry stores the members that are left. -/
theorem mem_values (recorded : group.Recorded events) (member : GroupMember) :
    member ∈ group.addedMembers.values ↔ member ∈ GroupEvent.membersLeft events := by
  rw [GoMap.mem_values]
  constructor
  · rintro ⟨key, found⟩
    have records : group.Records key := by simp [Records, found]
    exact (mem_textsOfMembers recorded.plain (recorded.stored key member found)
      (recorded.keyed key member found)).mp ((recorded.texts key).mp records)
  · intro left
    obtain ⟨key, _, named, _⟩ := (recorded.plain member left).text
    have records : group.Records key.string := (recorded.texts _).mpr
      ((mem_textsOfMembers recorded.plain (recorded.plain member left) named).mpr left)
    obtain ⟨other, found⟩ := Option.isSome_iff_exists.mp records
    have same : other = member := GroupMember.text_inj (recorded.stored _ other found)
      (recorded.plain member left) ((recorded.keyed _ other found).trans named.symm)
    exact ⟨key.string, same ▸ found⟩

theorem change (recorded : group.Recorded events) {event : GroupEvent}
    (listed : AllPlain event.listed) (removed : AllPlain event.removed) :
    ∃ group', group.updatePendingItem (.event event.type event.listed event.removed) =
        (group', false) ∧
      group'.Recorded (events ++ [event]) := by
  have known : event.type = .added ∨ event.type = .modified := by
    cases event <;> simp [GroupEvent.type]
  obtain ⟨group', result, keyed, type, stored, texts⟩ := updatePendingItem_members known
    listed.allEntities removed.allEntities recorded.keyed
  have plain : AllPlain (GroupEvent.membersLeft (events ++ [event])) := fun member left =>
    (GroupEvent.mem_membersLeft_concat.mp left).elim (listed member) fun old =>
      recorded.plain member old.1
  refine ⟨group', result, ?_, keyed, ?_, plain, fun key => ?_⟩
  · rw [type, recorded.event]
    cases events <;> simp [GroupEvent.firstType]
  · exact fun key member found =>
      (stored key member found).elim (listed member) (recorded.stored key member)
  · rw [texts, recorded.texts]
    -- A text stands for one member, so the texts change as the members do.
    have member_of (members : List GroupMember) : key ∈ textsOfMembers members ↔
        ∃ member ∈ members, member.text? = some key := by
      simp [textsOfMembers]
    simp only [member_of, GroupEvent.mem_membersLeft_concat]
    constructor
    · rintro (⟨member, here, named⟩ | ⟨⟨member, left, named⟩, kept⟩)
      · exact ⟨member, .inl here, named⟩
      · exact ⟨member, .inr ⟨left, fun dropped => kept ⟨member, dropped, named⟩⟩, named⟩
    · rintro ⟨member, here | ⟨left, kept⟩, named⟩
      · exact .inl ⟨member, here, named⟩
      · refine .inr ⟨⟨member, left, named⟩, ?_⟩
        rintro ⟨other, dropped, same⟩
        exact kept (GroupMember.text_inj (recorded.plain member left) (removed other dropped)
          (named.trans same.symm) ▸ dropped)

/-- An entry without members has recorded nothing. -/
theorem nil (event : group.event = none) (empty : ∀ key, group.addedMembers.get? key = none) :
    group.Recorded [] where
  event := event
  keyed key member found := by simp [empty] at found
  stored key member found := by simp [empty] at found
  plain := List.forall_mem_nil _
  texts key := by
    simp [Records, empty, textsOfMembers, GroupEvent.membersLeft, GroupEvent.remaining]

/-- A Deleted event makes the entry forget what it has recorded. -/
theorem deleted : ∃ group', group.updatePendingItem (.event .deleted [] []) = (group', false) ∧
    group'.Recorded [] :=
  ⟨_, rfl, nil rfl fun _ => rfl⟩

theorem reference (recorded : group.Recorded events) (refCnt : Option Int) (runOnClear : Bool) :
    PendingGroup.Recorded { group with refCnt, runOnClear } events :=
  ⟨recorded.event, recorded.keyed, recorded.stored, recorded.plain, recorded.texts⟩

end PendingGroup.Recorded

/-! ## Steps -/

/-- An event of a group. -/
inductive ParkedEvent where
  | deleted (members : List GroupMember)
  | change (event : GroupEvent)

namespace ParkedEvent

/-- The message on the watch. -/
def event (kind : Bool) (name : String) : ParkedEvent → Event
  | .deleted members =>
    if kind then .addrGroup .deleted (.complete name members)
    else .appliedToGroup .deleted (.complete name members)
  | .change event => event.event kind name

/-- The events since the last Deleted event. -/
def applyTo (events : List GroupEvent) : ParkedEvent → List GroupEvent
  | .deleted _ => []
  | .change event => events ++ [event]

/-- What is recorded in the entry. -/
def updates : ParkedEvent → Updates
  | .deleted _ => .event .deleted [] []
  | .change event => .event event.type event.listed event.removed

end ParkedEvent

/-- The entry of a group that is being deleted. -/
def Core.parked? (core : Core) (kind : Bool) (name : String) : Option PendingGroup :=
  match core.pendingDeleteGroups.items.get? (getGroupUniqueName name kind) with
  | some ⟨.pendingGroup group, _⟩ => some group
  | _ => none

/-- What happens to the entry of a group until the last delete. -/
inductive ParkStep where
  /-- An event of the group arrives. -/
  | receive (event : ParkedEvent) (env : Env) (order : Supply)
  /-- Another delete of the group is issued or answered. -/
  | reference (refCnt : Int) (runOnClear : Bool)

namespace ParkStep

variable (kind : Bool) (name : String)

def step (s : System) : ParkStep → System
  | .receive event env order => s.step { event := event.event kind name, env, order }
  | .reference refCnt runOnClear =>
    { s with
      reconciler := (s.reconciler.pendingDeleteGroupsUpdate (getGroupUniqueName name kind)
        (.reference refCnt runOnClear)).pendingDeleteGroupsCheckRun
          (getGroupUniqueName name kind) }

def applyTo (events : List GroupEvent) : ParkStep → List GroupEvent
  | .receive event _ _ => event.applyTo events
  | .reference _ _ => events

/-- The controller runs, members are entities, and the delete is not the last one. -/
def Parks (s : System) (step : ParkStep) : Prop :=
  s.reconciler.panicked = false ∧
    match step with
    | .receive (.deleted _) _ _ => True
    | .receive (.change event) _ _ => AllPlain event.listed ∧ AllPlain event.removed
    | .reference refCnt runOnClear =>
      ∀ group ∈ s.reconciler.parked? kind name, ∀ count ∈ group.refCnt,
        0 < count + refCnt ∨ runOnClear = false

instance (s : System) (step : ParkStep) : Decidable (step.Parks kind name s) := by
  unfold Parks
  rcases step with ⟨_ | _, _, _⟩ | _ <;> infer_instance

end ParkStep

/-- The events since the last Deleted event. -/
def sinceDeleted (steps : List ParkStep) : List GroupEvent :=
  steps.foldl ParkStep.applyTo []

/-- The group is unknown, and its entry has recorded the events. -/
structure Parked (core : Core) (kind : Bool) (name : String) (events : List GroupEvent) : Prop where
  base : Base core
  unknown : ∀ vpc, core.find? kind name vpc = none
  entry : ∃ group, core.pendingDeleteGroups.items.get? (getGroupUniqueName name kind) =
    some ⟨.pendingGroup group, none⟩ ∧ group.Recorded events

section

variable {kind : Bool} {name : String} {events : List GroupEvent}

variable {core : Core} {group : PendingGroup} {r : Reconciler} {s : System} {env : Env} {c : Ref}
  {steps : List GroupStep}

theorem Base.parked (base : Base core) (parked : core.parked? kind name = some group) :
    core.pendingDeleteGroups.items.get? (getGroupUniqueName name kind) =
      some ⟨.pendingGroup group, none⟩ := by
  unfold Core.parked? at parked
  split at parked
  next group' count found =>
    obtain rfl := Option.some.inj parked
    have unbounded : count = none := (base.entries _ _ found).1
    rw [found, unbounded]
  next => cases parked

theorem Core.parked?_eq {count : Option Int}
    (found : core.pendingDeleteGroups.items.get? (getGroupUniqueName name kind) =
      some ⟨.pendingGroup group, count⟩) : core.parked? kind name = some group := by
  rw [parked?, found]

theorem Base.reference (base : Base r.toCore) (id : String) (n : Int) (b : Bool) :
    Base { r with pendingDeleteGroups := r.pendingDeleteGroups.reference id n b }.toCore where
  index := base.index
  queue := base.queue
  queueBudget := base.queueBudget
  entries _ _ found := Effect.entryOf_reference (base.entries _) (base.entries _) found
  entriesBudget := base.entriesBudget
  messages m member :=
    have known := base.messages m member
    ⟨known.allocated, known.networked, known.call, known.answered⟩
  tracked := base.tracked
  unallocated := base.unallocated
  alive := base.alive
  networked := base.networked
  superseded := base.superseded
  deleting := base.deleting

/-- The entry after another delete has been counted. -/
theorem get?_reference_entry
    (found : r.pendingDeleteGroups.items.get? (getGroupUniqueName name kind) =
      some ⟨.pendingGroup group, none⟩) (n : Int) (b : Bool) :
    (r.pendingDeleteGroups.reference (getGroupUniqueName name kind) n b).items.get?
        (getGroupUniqueName name kind) =
      some ⟨.pendingGroup
        { group with runOnClear := b, refCnt := group.refCnt.map (· + n) }, none⟩ := by
  simp [PendingItemQueue.get?_reference, found, PendingItem.reference]

theorem handle_parked {group' : PendingGroup} (event : ParkedEvent)
    (found : r.pendingDeleteGroups.items.get? (getGroupUniqueName name kind) =
      some ⟨.pendingGroup group, none⟩)
    (result : group.updatePendingItem event.updates = (group', false)) :
    ∃ retryQueue, r.handle (event.event kind name) =
      { r with
        pendingDeleteGroups := r.pendingDeleteGroups.setItem (getGroupUniqueName name kind)
          (.pendingGroup group')
        retryQueue } := by
  have has : r.pendingDeleteGroups.has (getGroupUniqueName name kind) = true := by
    simp [PendingItemQueue.has, found]
  have update (type : EventType) (added removed : List GroupMember)
      (result : group.updatePendingItem (.event type added removed) = (group', false)) :
      r.pendingDeleteGroupsUpdate (getGroupUniqueName name kind) (.event type added removed) =
        { r with
          pendingDeleteGroups := r.pendingDeleteGroups.setItem (getGroupUniqueName name kind)
            (.pendingGroup group') } := by
    simp [Reconciler.pendingDeleteGroupsUpdate, QueueAt.update, pendingDeleteGroupsAt, found,
      PendingItem.updatePendingItem, result]
  cases event with
  | deleted members =>
    refine ⟨r.retryQueue.remove (getGroupUniqueName name kind), ?_⟩
    have updated := update .deleted [] [] result
    cases kind <;>
      simp [Reconciler.handle, ParkedEvent.event, Reconciler.processAddrGrp,
        Reconciler.processAppliedToGrp, Reconciler.processGrpEvent, Reconciler.processMemberGrp,
        has, updated, Reconciler.retryMemberGrp]
  | change event =>
    refine ⟨r.retryQueue, ?_⟩
    have updated := update event.type event.listed event.removed result
    cases event <;> cases kind <;>
      simp_all [Reconciler.handle, ParkedEvent.event, GroupEvent.event, GroupEvent.type,
        GroupEvent.listed, GroupEvent.removed, Reconciler.processAddrGrp,
        Reconciler.processAppliedToGrp, Reconciler.processGrpEvent, Reconciler.processMemberGrp,
        Reconciler.retryMemberGrp]

theorem parked_event {event : ParkedEvent} {order : Supply}
    (parked : Parked s.reconciler.toCore kind name events)
    (parks : (ParkStep.receive event env order).Parks kind name s) :
    Parked ((ParkStep.receive event env order).step kind name s).reconciler.toCore kind name
      (event.applyTo events) := by
  obtain ⟨group, found, recorded⟩ := parked.entry
  obtain ⟨group', result, recorded'⟩ : ∃ group', group.updatePendingItem event.updates =
      (group', false) ∧ group'.Recorded (event.applyTo events) := by
    cases event with
    | deleted members => exact PendingGroup.Recorded.deleted
    | change event => exact recorded.change parks.2.1 parks.2.2
  let label : Label := { event := event.event kind name, env, order }
  have base : Base (s.step label).reconciler.toCore := s.base_step label parked.base
  obtain ⟨retryQueue, handled⟩ :=
    handle_parked (r := s.reconciler.enter label) event found result
  have final : (s.step label).reconciler = { s.reconciler.enter label with
      pendingDeleteGroups := s.reconciler.pendingDeleteGroups.setItem
        (getGroupUniqueName name kind) (.pendingGroup group')
      retryQueue } := by
    rw [← show (s.reconciler.enter label).pendingDeleteGroups = s.reconciler.pendingDeleteGroups
      from rfl, ← handled]
    rcases event with _ | ⟨_ | _⟩ <;> cases kind <;>
      simp [System.step, parks.1, label, ParkedEvent.event, GroupEvent.event]
  refine ⟨base, ?_, group', ?_, recorded'⟩
  · show ∀ vpc, (s.step label).reconciler.find? kind name vpc = none
    rw [final]
    exact parked.unknown
  · show (s.step label).reconciler.pendingDeleteGroups.items.get? _ = _
    rw [final, PendingItemQueue.get?_setItem, if_pos rfl, found]
    rfl

theorem parked_reference {refCnt : Int} {runOnClear : Bool}
    (parked : Parked s.reconciler.toCore kind name events)
    (parks : (ParkStep.reference refCnt runOnClear).Parks kind name s) :
    Parked ((ParkStep.reference refCnt runOnClear).step kind name s).reconciler.toCore kind name
      events := by
  obtain ⟨group, found, recorded⟩ := parked.entry
  obtain ⟨_, group', count, isGroup, counts, _⟩ := parked.base.entries _ _ found
  obtain rfl : group = group' := by simpa using isGroup
  have waits : 0 < count + refCnt ∨ runOnClear = false :=
    parks.2 group (Core.parked?_eq found) count counts
  have entry := get?_reference_entry found refCnt runOnClear
  have final : ((ParkStep.reference refCnt runOnClear).step kind name s).reconciler =
      { s.reconciler with
        pendingDeleteGroups := s.reconciler.pendingDeleteGroups.reference
          (getGroupUniqueName name kind) refCnt runOnClear } := by
    simp [ParkStep.step, Reconciler.pendingDeleteGroupsUpdate_reference (parked.base.entries _),
      Reconciler.pendingDeleteGroupsCheckRun, QueueAt.checkRun, pendingDeleteGroupsAt, entry,
      PendingItem.runOrDeletePendingItem, PendingGroup.runOrDeletePendingItem, counts, waits]
  rw [final]
  exact ⟨parked.base.reference _ _ _, parked.unknown, _, entry, recorded.reference _ _⟩

theorem parked_run {steps : List ParkStep} (parked : Parked s.reconciler.toCore kind name events)
    (parks : Allowed (ParkStep.step kind name) (fun s step => step.Parks kind name s) s steps) :
    Parked (run (ParkStep.step kind name) s steps).reconciler.toCore kind name
      (steps.foldl ParkStep.applyTo events) := by
  induction steps generalizing s events with
  | nil => exact parked
  | cons step rest induction =>
    refine induction ?_ parks.2
    cases step with
    | receive event env order => exact parked_event parked parks.1
    | reference refCnt runOnClear => exact parked_reference parked parks.1

/-- The delete of the object is the last one of its group. -/
structure LastDelete (r : Reconciler) (kind : Bool) (name : String) (c : Ref) : Prop where
  named : (r.objects c).guName = getGroupUniqueName name kind
  done : r.moreOps c = false
  last : ∀ group ∈ r.parked? kind name, ∀ count ∈ group.refCnt, count ≤ 1

instance (r : Reconciler) (kind : Bool) (name : String) (c : Ref) :
    Decidable (LastDelete r kind name c) :=
  decidable_of_iff
    ((r.objects c).guName = getGroupUniqueName name kind ∧ r.moreOps c = false ∧
      ∀ group ∈ r.parked? kind name, ∀ count ∈ group.refCnt, count ≤ 1)
    ⟨fun ⟨named, done, last⟩ => ⟨named, done, last⟩, fun ⟨named, done, last⟩ => ⟨named, done, last⟩⟩

/-- The last delete clears the entry and runs what it has recorded. -/
theorem releaseDelete_last (base : Base r.toCore) (delete : LastDelete r kind name c)
    (found : r.pendingDeleteGroups.items.get? (getGroupUniqueName name kind) =
      some ⟨.pendingGroup group, none⟩) (recorded : group.Recorded events) :
    ∃ group' : PendingGroup, group'.Recorded events ∧ group'.refCnt.isSome = true ∧
      ∃ queue : PendingItemQueue PendingItem,
        queue.has (getGroupUniqueName name kind) = false ∧
        r.releaseDelete c = (group'.runPendingItem (getGroupUniqueName name kind)
          { r with pendingDeleteGroups := queue }).2 := by
  obtain ⟨_, _, count, isGroup, counts, kept⟩ := base.entries _ _ found
  obtain rfl : group = _ := by simpa using isGroup
  have last : count ≤ 1 := delete.last group (Core.parked?_eq found) count counts
  have base' := base.reference (getGroupUniqueName name kind) (-1) true
  let r' : Reconciler := { r with
    pendingDeleteGroups :=
      r.pendingDeleteGroups.reference (getGroupUniqueName name kind) (-1) true }
  let group' : PendingGroup :=
    { group with runOnClear := true, refCnt := group.refCnt.map (· + -1) }
  have entry : r'.pendingDeleteGroups.items.get? (r'.objects c).guName =
      some ⟨.pendingGroup group', none⟩ := by
    rw [show (r'.objects c).guName = _ from delete.named]
    exact get?_reference_entry found (-1) true
  have counts' : group'.refCnt = some (count + -1) := by simp [group', counts]
  refine ⟨group', recorded.reference _ _, by simp [counts'],
    r'.pendingDeleteGroups.remove (getGroupUniqueName name kind), ?_, ?_⟩
  · simp [PendingItemQueue.has, PendingItemQueue.get?_remove]
  · have cleared : ¬ (0 < count + -1 ∨ group'.runOnClear = false) := by
      simp only [group', Bool.true_eq_false, or_false]
      omega
    have run := Reconciler.pendingDeleteGroupsCheckRun_eq base' entry counts' kept
    rw [if_neg cleared, show (r'.objects c).guName = _ from delete.named] at run
    rw [Reconciler.releaseDelete, delete.named, delete.done,
      Reconciler.pendingDeleteGroupsUpdate_reference (base.entries _)]
    exact run

/-- The replay makes what a single event with the members left makes. -/
theorem replay_spec (plain : PlainName name) (parked : Parked r.toCore kind name events)
    (delete : LastDelete r kind name c) (reads : r.env.Reads (GroupEvent.membersLeft events))
    (networked : r.env.Networked (GroupEvent.membersLeft events)) :
    ∃ members, (∀ member, member ∈ members ↔ member ∈ GroupEvent.membersLeft events) ∧
      ∀ vpc, (r.releaseDelete c).holding kind name vpc =
        GroupEvent.replay kind r.env (GroupEvent.firstType events) members vpc := by
  obtain ⟨_, found, recorded⟩ := parked.entry
  obtain ⟨group, recorded, _, queue, unparked, result⟩ :=
    releaseDelete_last parked.base delete found recorded
  have unknown (vpc : String) : r.holding kind name vpc = none := by
    rw [Core.holding, parked.unknown, Option.map_none]
  let r' : Reconciler := { r with pendingDeleteGroups := queue }
  by_cases empty : group.addedMembers.values = []
  · -- Nothing is replayed.
    refine ⟨group.addedMembers.values, recorded.mem_values, fun vpc => ?_⟩
    have ran : group.runPendingItem (getGroupUniqueName name kind) r' = (true, r') := by
      rw [PendingGroup.runPendingItem, if_pos (by rw [empty, List.length_nil])]
    rw [result, ran, show r'.holding kind name vpc = r.holding kind name vpc from rfl, unknown,
      empty]
    simp [GroupEvent.replay, Env.addresses, Env.resourcesIn]
  · let members := arrange (r'.order 0) group.addedMembers.values
    have same (member : GroupMember) :
        member ∈ members ↔ member ∈ GroupEvent.membersLeft events := by
      rw [mem_arrange, recorded.mem_values]
    have filled : members ≠ [] := by
      obtain ⟨member, stored⟩ := List.exists_mem_of_ne_nil _ empty
      exact List.ne_nil_of_mem ((mem_arrange _ _ _).mpr stored)
    refine ⟨members, same, fun vpc => ?_⟩
    cases first : GroupEvent.firstType events with
    | none =>
      -- Without an event there are no members.
      have none_ : events = [] := by
        cases events with
        | nil => rfl
        | cons event rest => simp [GroupEvent.firstType] at first
      subst none_
      obtain ⟨member, listed⟩ := List.exists_mem_of_ne_nil _ filled
      exact absurd ((same member).mp listed) List.not_mem_nil
    | some type =>
      have event : group.event = some type := recorded.event.trans first
      have changes : Reconciler.ChangesMembers type [] := by
        obtain ⟨head, _, rfl⟩ : ∃ head ∈ events.head?, head.type = type := by
          simpa [GroupEvent.firstType] using first
        cases head with
        | added members => exact .inl ⟨rfl, rfl⟩
        | modified added removed => exact .inr rfl
      have networked' : r'.advance.env.Networked members := by
        intro resource listed
        obtain ⟨member, there, stands⟩ := List.mem_filterMap.mp listed
        exact networked resource (List.mem_filterMap.mpr ⟨member, (same member).mp there, stands⟩)
      have shaped : Shaped r'.advance.toCore kind name :=
        have known := shaped_of_unknown parked.base parked.unknown
        ⟨known.index, known.own, known.members⟩
      obtain ⟨succeeds, _, holding⟩ := Reconciler.processMembers_spec changes shaped
        ⟨fun member listed => reads member ((same member).mp listed), rfl⟩ networked'
        (fun _ listed => absurd listed List.not_mem_nil) (fun _ _ => List.not_mem_nil)
      have kept : type ≠ .deleted := by rcases changes with ⟨rfl, _⟩ | rfl <;> simp
      have ran : (group.runPendingItem (getGroupUniqueName name kind) r').2 =
          (r'.advance.processMembers name type kind members []).2 := by
        rw [PendingGroup.runPendingItem_eq plain (by simpa using empty) event unparked]
        change (r'.advance.processMembers name type kind members []).2.retryMemberGrp name type
          kind (r'.advance.processMembers name type kind members []).1 members [] = _
        rw [succeeds]
        simp [Reconciler.retryMemberGrp, kept]
      rw [result, ran, holding, show r'.advance.holding kind name vpc = r.holding kind name vpc
        from rfl, unknown]
      exact GroupEvent.apply_none filled networked'

/-- Events that are processed one by one. -/
theorem process_spec (shaped : Shaped s.reconciler.toCore kind name)
    (same : ∀ step ∈ steps, step.env = env) (allowed : Allowed (GroupStep.step kind name)
      (fun s step => step.Processed kind name s ∧
        step.env.Apart step.event.listed step.event.removed) s steps) (vpc : String) :
    (run (GroupStep.step kind name) s steps).reconciler.holding kind name vpc =
      (steps.map (·.event)).foldl
        (fun holding event =>
          Holding.apply kind env event.type event.listed event.removed vpc holding)
        (s.reconciler.holding kind name vpc) := by
  induction steps generalizing s with
  | nil => rfl
  | cons step rest induction =>
    obtain ⟨⟨processed, apart⟩, allowed⟩ := allowed
    obtain ⟨shaped', holding⟩ := GroupStep.step_spec shaped processed apart
    have here : step.env = env := same step List.mem_cons_self
    rw [List.map_cons, List.foldl_cons, ← here, ← holding, here]
    exact induction shaped' (fun other there => same other (List.mem_cons_of_mem _ there)) allowed

/-- Events that are processed can be read. -/
theorem processed_of_allowed (allowed : Allowed (GroupStep.step kind name)
      (fun s step => step.Processed kind name s ∧
        step.env.Apart step.event.listed step.event.removed) s steps) :
    ∀ step ∈ steps, step.env.Reads step.event.listed ∧ step.env.Networked step.event.listed := by
  induction steps generalizing s with
  | nil => exact List.forall_mem_nil _
  | cons step rest induction =>
    obtain ⟨⟨processed, _⟩, allowed⟩ := allowed
    refine List.forall_mem_cons.mpr ⟨⟨?_, ?_⟩, induction allowed⟩
    · exact fun member listed => processed.reads member (List.mem_append_left _ listed)
    · intro resource listed
      obtain ⟨member, there, stands⟩ := List.mem_filterMap.mp listed
      exact processed.networked resource
        (List.mem_filterMap.mpr ⟨member, List.mem_append_left _ there, stands⟩)

end

/-! ## Runs -/

/--
The events since the last Deleted event, replayed by the last delete, make the
same objects as if they were processed one by one, exactly for the sequences
that are transparent.
-/
theorem parked_events_are_replayed (kind : Bool) (name : String) (plain : PlainName name)
    (env : Env) (order : Supply) (c : Ref) (s s' : System) (parked : List ParkStep)
    (direct : List GroupStep)
    (base : Base s.reconciler.toCore) (base' : Base s'.reconciler.toCore)
    (unknown : ∀ vpc, s.reconciler.find? kind name vpc = none)
    (unknown' : ∀ vpc, s'.reconciler.find? kind name vpc = none)
    (fresh : ∃ group ∈ s.reconciler.parked? kind name,
      group.event = none ∧ group.addedMembers.values = [])
    (parks : Allowed (ParkStep.step kind name) (fun s step => step.Parks kind name s) s parked)
    (delete : LastDelete (run (ParkStep.step kind name) s parked).reconciler kind name c)
    (processed : Allowed (GroupStep.step kind name)
      (fun s step => step.Processed kind name s ∧
        step.env.Apart step.event.listed step.event.removed) s' direct)
    (here : ∀ step ∈ direct, step.env = env)
    (events : direct.map (·.event) = sinceDeleted parked) :
    (∀ vpc,
        ({ (run (ParkStep.step kind name) s parked).reconciler with
            env, order }.releaseDelete c).holding kind name vpc =
          (run (GroupStep.step kind name) s' direct).reconciler.holding kind name vpc) ↔
      GroupEvent.Transparent env kind (sinceDeleted parked) := by
  obtain ⟨group, entry, event, empty⟩ := fresh
  have recorded : group.Recorded [] := .nil event fun key => by
    refine Option.eq_none_iff_forall_ne_some.mpr fun member stored => ?_
    have listed := (GoMap.mem_values group.addedMembers member).mpr ⟨key, stored⟩
    rw [empty] at listed
    exact List.not_mem_nil listed
  have reached := parked_run ⟨base, unknown, group, base.parked entry, recorded⟩ parks
  let r : Reconciler := { (run (ParkStep.step kind name) s parked).reconciler with env, order }
  have parked' : Parked r.toCore kind name (sinceDeleted parked) :=
    ⟨(Effect.enter env order).base reached.base, reached.unknown, reached.entry⟩
  have readable (event : GroupEvent) (there : event ∈ sinceDeleted parked) :
      env.Reads event.listed ∧ env.Networked event.listed := by
    rw [← events] at there
    obtain ⟨step, member, rfl⟩ := List.mem_map.mp there
    exact here step member ▸ processed_of_allowed processed step member
  obtain ⟨members, same, replayed⟩ := replay_spec (r := r) plain parked'
    ⟨delete.named, delete.done, delete.last⟩
    (fun member left => by
      obtain ⟨event, there, listed⟩ := GroupEvent.listed_of_mem_membersLeft left
      exact (readable event there).1 member listed)
    (fun resource left => by
      obtain ⟨member, known, stands⟩ := List.mem_filterMap.mp left
      obtain ⟨event, there, listed⟩ := GroupEvent.listed_of_mem_membersLeft known
      exact (readable event there).2 resource (List.mem_filterMap.mpr ⟨member, listed, stands⟩))
  rw [← GroupEvent.replay_iff same fun event there => (readable event there).2]
  refine forall_congr' fun vpc => ?_
  have nothing : s'.reconciler.holding kind name vpc = none := by
    rw [Core.holding, unknown', Option.map_none]
  rw [process_spec (shaped_of_unknown base' unknown') here processed, events, nothing]
  exact Eq.congr_left (replayed vpc)

namespace Sample

/-- The delete of an address group is under way. -/
def deleting : List Event :=
  bookmarks ++ [.addrGroup .added (.complete "g" [member "a"])] ++ callback 0 none ++
    callback 0 none ++ [.addrGroup .deleted (.complete "g" [])]

/-- Events that arrive, in the environment of the samples. -/
def receiving (events : List ParkedEvent) : List ParkStep :=
  events.map fun event => .receive event env fun _ => 0

theorem unknown_of_empty {s : System} (empty : s.reconciler.addrSGIndexer.values = [])
    (vpc : String) : s.reconciler.find? true "g" vpc = none := by
  refine Option.eq_none_iff_forall_ne_some.mpr fun c found => ?_
  have listed := (GoMap.mem_values s.reconciler.addrSGIndexer c).mpr ⟨_, found⟩
  rw [empty] at listed
  exact List.not_mem_nil listed

end Sample

/-- A group that is made again with a machine in each VPC, and then with another one. -/
theorem sample_events_are_replayed :
    let parked := Sample.receiving
      [.change (.added [Sample.member "d"]), .deleted [],
        .change (.added [Sample.member "a", Sample.member "c"]),
        .change (.modified [Sample.member "b"] [Sample.member "a"])]
    let direct := Sample.groupSteps
      [.added [Sample.member "a", Sample.member "c"],
        .modified [Sample.member "b"] [Sample.member "a"]]
    ∀ vpc,
      ({ (run (ParkStep.step true "g") (Sample.after Sample.deleting) parked).reconciler with
          env := Sample.env, order := fun _ => 0 }.releaseDelete 0).holding true "g" vpc =
        (run (GroupStep.step true "g") (Sample.after Sample.bookmarks)
          direct).reconciler.holding true "g" vpc := by
  intro parked direct
  have here : ∀ step ∈ direct, step.env = Sample.env := by simp [direct, Sample.groupSteps]
  exact (parked_events_are_replayed true "g" (by decide) Sample.env (fun _ => 0) 0
    (Sample.after Sample.deleting) (Sample.after Sample.bookmarks) parked direct
    (System.base_run base_setup _) (System.base_run base_setup _)
    (Sample.unknown_of_empty (by decide +kernel)) (Sample.unknown_of_empty (by decide +kernel))
    ⟨_, rfl, by decide +kernel, by decide +kernel⟩ (by decide +kernel) (by decide +kernel)
    (by decide +kernel) here rfl).mpr (by decide +kernel)

/-- An empty address group that was parked is not represented after the replay. -/
theorem empty_group_is_not_replayed :
    let parked := Sample.receiving [.change (.added [])]
    let direct := Sample.groupSteps [.added []]
    LastDelete (run (ParkStep.step true "g") (Sample.after Sample.deleting) parked).reconciler
        true "g" 0 ∧
      Allowed (ParkStep.step true "g") (fun s step => step.Parks true "g" s)
        (Sample.after Sample.deleting) parked ∧
      Allowed (GroupStep.step true "g") (fun s step => step.Processed true "g" s)
        (Sample.after Sample.bookmarks) direct ∧
      ¬ ∀ vpc,
        ({ (run (ParkStep.step true "g") (Sample.after Sample.deleting) parked).reconciler with
            env := Sample.env, order := fun _ => 0 }.releaseDelete 0).holding true "g" vpc =
          (run (GroupStep.step true "g") (Sample.after Sample.bookmarks)
            direct).reconciler.holding true "g" vpc := by
  intro parked direct
  refine ⟨by decide +kernel, by decide +kernel, by decide +kernel, fun equal => ?_⟩
  have replayed : ({ (run (ParkStep.step true "g") (Sample.after Sample.deleting)
      parked).reconciler with env := Sample.env, order := fun _ => 0 }.releaseDelete 0).find?
        true "g" "" = none := by decide +kernel
  have made : ((run (GroupStep.step true "g") (Sample.after Sample.bookmarks)
      direct).reconciler.find? true "g" "").isSome = true := by decide +kernel
  have placeholder := congrArg Option.isSome (equal "")
  simp only [Core.holding, replayed, Option.map_none, Option.isSome_none, Option.isSome_map,
    made] at placeholder
  cases placeholder

end Nephe
