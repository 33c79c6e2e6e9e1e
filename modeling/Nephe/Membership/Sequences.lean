import Nephe.Membership.Snapshots

/-!
# Sequences of events

What a group that was unknown before holds after a sequence of its events, and
what it would hold if the members left at the end came in a single event of the
type of the first one.
-/

namespace Nephe

open Library

namespace GroupEvent

section

variable {α : Type} [DecidableEq α] (value : GroupMember → List α)

/-! ## What events leave -/

/-- The event drops what its removed members have and puts what its added ones have. -/
def leave (left : List α) (event : GroupEvent) : List α :=
  left.filter (· ∉ event.removed.flatMap value) ++ event.listed.flatMap value

/-- What the events leave. -/
def remaining (events : List GroupEvent) : List α :=
  events.foldl (leave value) []

end

/-- The members that the events leave. -/
def membersLeft (events : List GroupEvent) : List GroupMember :=
  remaining (fun member => [member]) events

/-- The cloud resources that the events leave. -/
def resourcesLeft (env : Env) (events : List GroupEvent) : List CloudResource :=
  remaining (fun member => (env.resource member).toList) events

/-- The event makes the object of the addresses. -/
def opens (env : Env) : GroupEvent → Bool
  | .added members => members = [] ∨ env.addresses members ≠ []
  | .modified _ _ => false

/-- The events from the one on that makes the object of the addresses. -/
def opened (env : Env) (events : List GroupEvent) : List GroupEvent :=
  events.dropWhile fun event => !event.opens env

/-- The addresses that the events leave in their object. -/
def addressesLeft (env : Env) (events : List GroupEvent) : List IPNet :=
  remaining env.memberAddresses (opened env events)

def firstType (events : List GroupEvent) : Option EventType :=
  events.head?.map GroupEvent.type

section

variable {α : Type} [DecidableEq α] {value : GroupMember → List α} {element : α}
  {events : List GroupEvent} {event : GroupEvent}

theorem mem_leave {left : List α} : element ∈ leave value left event ↔
    element ∈ event.listed.flatMap value ∨
      (element ∈ left ∧ element ∉ event.removed.flatMap value) := by
  simp [leave, or_comm]

theorem remaining_concat :
    remaining value (events ++ [event]) = leave value (remaining value events) event := by
  simp [remaining]

theorem mem_membersLeft_concat {member : GroupMember} :
    member ∈ membersLeft (events ++ [event]) ↔
      member ∈ event.listed ∨ (member ∈ membersLeft events ∧ member ∉ event.removed) := by
  rw [membersLeft, remaining_concat, mem_leave, ← membersLeft]
  simp

theorem listed_of_mem_membersLeft {member : GroupMember} (left : member ∈ membersLeft events) :
    ∃ event ∈ events, member ∈ event.listed := by
  induction events using List.reverseRecOn with
  | nil => cases left
  | append_singleton events event induction =>
    rcases mem_membersLeft_concat.mp left with listed | ⟨old, _⟩
    · exact ⟨event, by simp, listed⟩
    · obtain ⟨other, there, listed⟩ := induction old
      exact ⟨other, by simp [there], listed⟩

/-- What is left belongs to a member that is left. -/
theorem member_of_mem_remaining (left : element ∈ remaining value events) :
    ∃ member ∈ membersLeft events, element ∈ value member := by
  induction events using List.reverseRecOn with
  | nil => cases left
  | append_singleton events event induction =>
    rw [remaining_concat, mem_leave, List.mem_flatMap, List.mem_flatMap] at left
    rcases left with ⟨member, listed, here⟩ | ⟨old, kept⟩
    · exact ⟨member, mem_membersLeft_concat.mpr (.inl listed), here⟩
    · obtain ⟨member, known, here⟩ := induction old
      exact ⟨member, mem_membersLeft_concat.mpr
        (.inr ⟨known, fun dropped => kept ⟨member, dropped, here⟩⟩), here⟩

/-- Earlier events leave members only. -/
theorem mem_membersLeft_append (earlier : List GroupEvent) {member : GroupMember}
    (left : member ∈ membersLeft events) : member ∈ membersLeft (earlier ++ events) := by
  induction events using List.reverseRecOn with
  | nil => cases left
  | append_singleton events event induction =>
    rw [← List.append_assoc, mem_membersLeft_concat]
    exact (mem_membersLeft_concat.mp left).imp_right fun ⟨old, kept⟩ => ⟨induction old, kept⟩

end

section

variable {env : Env} {events : List GroupEvent}

theorem mem_resourcesLeft_concat {event : GroupEvent} {resource : CloudResource} :
    resource ∈ resourcesLeft env (events ++ [event]) ↔
      resource ∈ event.listed.filterMap env.resource ∨
        (resource ∈ resourcesLeft env events ∧
          resource ∉ event.removed.filterMap env.resource) := by
  rw [resourcesLeft, remaining_concat, mem_leave, ← resourcesLeft]
  simp

theorem member_of_mem_resourcesLeft {resource : CloudResource}
    (left : resource ∈ resourcesLeft env events) :
    resource ∈ (membersLeft events).filterMap env.resource := by
  obtain ⟨member, known, here⟩ := member_of_mem_remaining left
  exact List.mem_filterMap.mpr ⟨member, known, by simpa using here⟩

theorem member_of_mem_addressesLeft {block : IPNet} (left : block ∈ addressesLeft env events) :
    block ∈ env.addresses (membersLeft events) := by
  obtain ⟨member, known, here⟩ := member_of_mem_remaining left
  refine List.mem_flatMap.mpr ⟨member, ?_, here⟩
  rw [← List.takeWhile_append_dropWhile (p := fun event : GroupEvent => !event.opens env)
    (l := events)]
  exact mem_membersLeft_append _ known

theorem opened_concat (event : GroupEvent) :
    opened env (events ++ [event]) =
      if opened env events = [] then if event.opens env then [event] else []
      else opened env events ++ [event] := by
  simp only [opened, List.dropWhile_append, List.isEmpty_iff]
  congr 1
  cases opening : event.opens env <;> simp [opening]

end

/-! ## What a group holds -/

/-- The holding after the events. -/
def process (kind : Bool) (env : Env) (events : List GroupEvent) (vpc : String) :
    Option Holding :=
  events.foldl
    (fun holding event =>
      Holding.apply kind env event.type event.listed event.removed vpc holding)
    none

variable {kind : Bool} {env : Env} {events : List GroupEvent} {vpc : String}

variable {members : List GroupMember}

theorem resourcesIn_empty (networked : env.Networked members) :
    env.resourcesIn members "" = [] := by
  refine List.eq_nil_iff_forall_not_mem.mpr fun resource there => ?_
  obtain ⟨listed, here⟩ := Env.mem_resourcesIn.mp there
  exact networked resource listed here

theorem process_concat (event : GroupEvent) :
    process kind env (events ++ [event]) vpc =
      Holding.apply kind env event.type event.listed event.removed vpc
        (process kind env events vpc) := by
  simp [process]

/-- An object is made with the first member of its VPC, and stays. -/
theorem process_members (outside : ¬ (kind = true ∧ vpc = "")) :
    process kind env events vpc =
      if ∃ event ∈ events, env.resourcesIn event.listed vpc ≠ [] then
        some ⟨{ resource | resource ∈ resourcesLeft env events ∧ resource.name.vpc = vpc }, ∅⟩
      else none := by
  induction events using List.reverseRecOn with
  | nil => simp [process]
  | append_singleton events event induction =>
    rw [process_concat, induction, Holding.apply, if_neg outside]
    have members (resource : CloudResource) :
        resource ∈ resourcesLeft env (events ++ [event]) ∧ resource.name.vpc = vpc ↔
          resource ∈ env.resourcesIn event.listed vpc ∨
            ((resource ∈ resourcesLeft env events ∧ resource.name.vpc = vpc) ∧
              resource ∉ env.resourcesIn event.removed vpc) := by
      rw [mem_resourcesLeft_concat, Env.mem_resourcesIn, Env.mem_resourcesIn]
      tauto
    by_cases known : ∃ event ∈ events, env.resourcesIn event.listed vpc ≠ []
    · have known' : ∃ other ∈ events ++ [event], env.resourcesIn other.listed vpc ≠ [] := by
        obtain ⟨other, there, filled⟩ := known
        exact ⟨other, List.mem_append_left _ there, filled⟩
      rw [if_pos known, if_pos known']
      simp only [Holding.put, members, Set.mem_ofPred_eq]
    · rw [if_neg known]
      have nothing (resource : CloudResource)
          (left : resource ∈ resourcesLeft env events ∧ resource.name.vpc = vpc) : False := by
        obtain ⟨member, there, found⟩ :=
          List.mem_filterMap.mp (member_of_mem_resourcesLeft left.1)
        obtain ⟨other, earlier, listed⟩ := listed_of_mem_membersLeft there
        refine known ⟨other, earlier, List.ne_nil_of_mem (a := resource) ?_⟩
        exact Env.mem_resourcesIn.mpr
          ⟨List.mem_filterMap.mpr ⟨member, listed, found⟩, left.2⟩
      by_cases empty : env.resourcesIn event.listed vpc = []
      · rw [Holding.put, if_pos empty, if_neg]
        rintro ⟨other, there, filled⟩
        rcases List.mem_append.mp there with earlier | here
        · exact known ⟨other, earlier, filled⟩
        · exact filled (List.mem_singleton.mp here ▸ empty)
      · rw [Holding.put, if_neg empty, if_pos ⟨event, by simp, empty⟩]
        congr 2
        ext resource
        simp only [Set.mem_ofPred_eq, members]
        exact ⟨.inl, fun known => known.elim id fun old => (nothing resource old.1).elim⟩

/-- The object of the addresses is made by the first Added event that has some, or is empty. -/
theorem process_addresses (networked : ∀ event ∈ events, env.Networked event.listed) :
    process true env events "" =
      if opened env events = [] then none
      else some ⟨∅, { block | block ∈ addressesLeft env events }⟩ := by
  induction events using List.reverseRecOn with
  | nil => simp [process, opened]
  | append_singleton events event induction =>
    have networked' : ∀ event ∈ events, env.Networked event.listed := fun other there =>
      networked other (List.mem_append_left _ there)
    have unplaced := resourcesIn_empty (networked event (by simp))
    have creates : (event.type = .added ∧ (event.listed = [] ∨ env.addresses event.listed ≠ [])) ↔
        event.opens env = true := by
      cases event <;> simp [opens, type, listed]
    rw [process_concat, induction networked', Holding.apply, if_pos ⟨rfl, rfl⟩, unplaced]
    simp only [addressesLeft, opened_concat]
    by_cases closed : opened env events = []
    · simp only [closed, if_true, Holding.put, Holding.putAddresses, creates]
      by_cases opening : event.opens env = true
      · have complete : event.removed = [] := by
          cases event with
          | added members => rfl
          | modified members dropped => simp [opens] at opening
        simp [opening, remaining, leave, Env.addresses]
      · simp [opening]
    · simp only [closed, if_false, Holding.put, Holding.putAddresses, remaining_concat, mem_leave]
      simp [Env.addresses]

/-! ## A single event in place of the sequence -/

/-- The holding that a single event with all the members makes. -/
def replay (kind : Bool) (env : Env) (first : Option EventType) (members : List GroupMember)
    (vpc : String) : Option Holding :=
  if kind = true ∧ vpc = "" then
    if first = some .added ∧ env.addresses members ≠ [] then
      some ⟨∅, { block | block ∈ env.addresses members }⟩
    else none
  else if env.resourcesIn members vpc = [] then none
  else some ⟨{ resource | resource ∈ env.resourcesIn members vpc }, ∅⟩

theorem apply_none {type : EventType} (filled : members ≠ []) (networked : env.Networked members) :
    Holding.apply kind env type members [] vpc none = replay kind env (some type) members vpc := by
  unfold Holding.apply replay
  by_cases here : kind = true ∧ vpc = ""
  · obtain ⟨rfl, rfl⟩ := here
    simp [resourcesIn_empty networked, filled, Holding.put, Holding.putAddresses]
  · rw [if_neg here, if_neg here, Holding.put]

/--
A single event does the same as the sequence.

`opened` begins with the event that makes the object of the addresses: events
before it add no addresses that stay.
-/
structure Transparent (env : Env) (kind : Bool) (events : List GroupEvent) : Prop where
  /-- No resource of a member that is left has been removed with another member. -/
  unshared : ∀ resource ∈ (membersLeft events).filterMap env.resource,
    resource ∈ resourcesLeft env events
  /-- A VPC that got a member has one in the end. -/
  populated : ∀ event ∈ events, ∀ resource ∈ event.listed.filterMap env.resource,
    ∃ other ∈ (membersLeft events).filterMap env.resource, other.name.vpc = resource.name.vpc
  /-- The object of the addresses is made by the sequence and by the single event, or by none. -/
  addressed : kind = true →
    if opened env events = [] then
      firstType events ≠ some .added ∨ env.addresses (membersLeft events) = []
    else
      firstType events = some .added ∧ env.addresses (membersLeft events) ≠ [] ∧
        ∀ block ∈ env.addresses (membersLeft events), block ∈ addressesLeft env events

instance : Decidable (Transparent env kind events) :=
  decidable_of_iff
    ((∀ resource ∈ (membersLeft events).filterMap env.resource,
        resource ∈ resourcesLeft env events) ∧
      (∀ event ∈ events, ∀ resource ∈ event.listed.filterMap env.resource,
        ∃ other ∈ (membersLeft events).filterMap env.resource,
          other.name.vpc = resource.name.vpc) ∧
      (kind = true →
        if opened env events = [] then
          firstType events ≠ some .added ∨ env.addresses (membersLeft events) = []
        else
          firstType events = some .added ∧ env.addresses (membersLeft events) ≠ [] ∧
            ∀ block ∈ env.addresses (membersLeft events), block ∈ addressesLeft env events))
    ⟨fun ⟨unshared, populated, addressed⟩ => ⟨unshared, populated, addressed⟩,
      fun ⟨unshared, populated, addressed⟩ => ⟨unshared, populated, addressed⟩⟩

theorem replay_members_iff (same : ∀ member, member ∈ members ↔ member ∈ membersLeft events)
    (outside : ¬ (kind = true ∧ vpc = "")) :
    replay kind env (firstType events) members vpc = process kind env events vpc ↔
      (∀ resource ∈ (membersLeft events).filterMap env.resource, resource.name.vpc = vpc →
          resource ∈ resourcesLeft env events) ∧
        ∀ event ∈ events, ∀ resource ∈ event.listed.filterMap env.resource,
          resource.name.vpc = vpc →
            ∃ other ∈ (membersLeft events).filterMap env.resource, other.name.vpc = vpc := by
  have resources (resource : CloudResource) : resource ∈ env.resourcesIn members vpc ↔
      resource ∈ (membersLeft events).filterMap env.resource ∧ resource.name.vpc = vpc := by
    rw [Env.mem_resourcesIn, List.mem_filterMap, List.mem_filterMap]
    simp only [same]
  rw [process_members outside, replay, if_neg outside]
  by_cases empty : env.resourcesIn members vpc = []
  · have nothing (resource : CloudResource) :
        ¬ (resource ∈ (membersLeft events).filterMap env.resource ∧ resource.name.vpc = vpc) := by
      rw [← resources, empty]
      exact List.not_mem_nil
    rw [if_pos empty]
    constructor
    · intro unmade
      have never : ¬ ∃ event ∈ events, env.resourcesIn event.listed vpc ≠ [] := by
        intro made
        rw [if_pos made] at unmade
        cases unmade
      refine ⟨fun resource left here => (nothing resource ⟨left, here⟩).elim, ?_⟩
      intro event there resource listed here
      exact absurd ⟨event, there, List.ne_nil_of_mem (Env.mem_resourcesIn.mpr ⟨listed, here⟩)⟩ never
    · rintro ⟨_, populated⟩
      rw [if_neg]
      rintro ⟨event, there, filled⟩
      obtain ⟨resource, listed⟩ := List.exists_mem_of_ne_nil _ filled
      obtain ⟨listed, here⟩ := Env.mem_resourcesIn.mp listed
      obtain ⟨other, left, there⟩ := populated event there resource listed here
      exact nothing other ⟨left, there⟩
  · obtain ⟨some_, there⟩ := List.exists_mem_of_ne_nil _ empty
    have made : ∃ event ∈ events, env.resourcesIn event.listed vpc ≠ [] := by
      obtain ⟨left, here⟩ := (resources some_).mp there
      obtain ⟨member, known, found⟩ := List.mem_filterMap.mp left
      obtain ⟨event, earlier, listed⟩ := listed_of_mem_membersLeft known
      exact ⟨event, earlier, List.ne_nil_of_mem (Env.mem_resourcesIn.mpr
        ⟨List.mem_filterMap.mpr ⟨member, listed, found⟩, here⟩)⟩
    rw [if_neg empty, if_pos made]
    simp only [Option.some.injEq, Holding.mk.injEq, and_true, Set.ext_iff, Set.mem_ofPred_eq,
      resources]
    constructor
    · intro equal
      refine ⟨fun resource left here => ((equal resource).mp ⟨left, here⟩).1, ?_⟩
      exact fun _ _ _ _ _ => ⟨some_, (resources some_).mp there⟩
    · rintro ⟨unshared, _⟩ resource
      refine and_congr_left fun here => ⟨fun left => unshared resource left here, ?_⟩
      exact member_of_mem_resourcesLeft

theorem replay_addresses_iff (same : ∀ member, member ∈ members ↔ member ∈ membersLeft events)
    (networked : ∀ event ∈ events, env.Networked event.listed) :
    replay true env (firstType events) members "" = process true env events "" ↔
      if opened env events = [] then
        firstType events ≠ some .added ∨ env.addresses (membersLeft events) = []
      else
        firstType events = some .added ∧ env.addresses (membersLeft events) ≠ [] ∧
          ∀ block ∈ env.addresses (membersLeft events), block ∈ addressesLeft env events := by
  have blocks (block : IPNet) :
      block ∈ env.addresses members ↔ block ∈ env.addresses (membersLeft events) := by
    simp only [Env.addresses, List.mem_flatMap, same]
  have none_ : env.addresses members = [] ↔ env.addresses (membersLeft events) = [] := by
    simp only [List.eq_nil_iff_forall_not_mem, blocks]
  rw [process_addresses networked, replay, if_pos ⟨rfl, rfl⟩]
  simp only [ne_eq, none_, blocks]
  by_cases closed : opened env events = []
  · rw [if_pos closed, if_pos closed]
    by_cases made : firstType events = some .added ∧ ¬ env.addresses (membersLeft events) = []
    · rw [if_pos made]
      exact ⟨by simp, fun unmade => unmade.elim (absurd made.1) fun empty => absurd empty made.2⟩
    · rw [if_neg made]
      exact ⟨fun _ => by tauto, fun _ => rfl⟩
  · rw [if_neg closed, if_neg closed]
    by_cases made : firstType events = some .added ∧ ¬ env.addresses (membersLeft events) = []
    · rw [if_pos made]
      simp only [Option.some.injEq, Holding.mk.injEq, true_and, Set.ext_iff, Set.mem_ofPred_eq]
      refine ⟨fun equal => ⟨made.1, made.2, fun block left => (equal block).mp left⟩, ?_⟩
      rintro ⟨_, _, kept⟩ block
      exact ⟨kept block, member_of_mem_addressesLeft⟩
    · rw [if_neg made]
      exact ⟨by simp, fun kept => absurd ⟨kept.1, kept.2.1⟩ made⟩

/-- The holdings are the same exactly for the sequences described above. -/
theorem replay_iff (same : ∀ member, member ∈ members ↔ member ∈ membersLeft events)
    (networked : ∀ event ∈ events, env.Networked event.listed) :
    (∀ vpc, replay kind env (firstType events) members vpc = process kind env events vpc) ↔
      Transparent env kind events := by
  have placed (resource : CloudResource) (event : GroupEvent) (there : event ∈ events)
      (listed : resource ∈ event.listed.filterMap env.resource) :
      ¬ (kind = true ∧ resource.name.vpc = "") :=
    fun outside => networked event there resource listed outside.2
  constructor
  · intro equal
    refine ⟨fun resource left => ?_, fun event there resource listed => ?_, ?_⟩
    · obtain ⟨member, known, found⟩ := List.mem_filterMap.mp left
      obtain ⟨event, there, listed⟩ := listed_of_mem_membersLeft known
      have outside := placed resource event there (List.mem_filterMap.mpr ⟨member, listed, found⟩)
      exact ((replay_members_iff same outside).mp (equal _)).1 resource left rfl
    · exact ((replay_members_iff same (placed resource event there listed)).mp (equal _)).2
        event there resource listed rfl
    · rintro rfl
      exact (replay_addresses_iff same networked).mp (equal "")
  · rintro ⟨unshared, populated, addressed⟩ vpc
    by_cases here : kind = true ∧ vpc = ""
    · obtain ⟨rfl, rfl⟩ := here
      exact (replay_addresses_iff same networked).mpr (addressed rfl)
    · refine (replay_members_iff same here).mpr ⟨fun resource left _ => unshared resource left, ?_⟩
      rintro event there resource listed rfl
      exact populated event there resource listed

end GroupEvent

end Nephe
