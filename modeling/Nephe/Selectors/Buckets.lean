import Nephe.Library.GoSet
import Nephe.Selectors.Selector

/-!
# Sorting the entries of a selector

Both plug-ins go over the entries of a selector once and sort them into buckets
by the fields that are present (`buildEc2Filters`, `buildQueries`).  The two loops
are the same except that only the one for AWS looks at the names of VPCs, so
there is one loop here with that as a parameter.  What it leaves in the buckets
is described by membership, and from this follows which machines the buckets
stand for.
-/

namespace Nephe

open Library

/-! ## The loop -/

def EntityMatch.isVMIDPresent (vmmatch : EntityMatch) : Bool :=
  !blank vmmatch.matchID

def EntityMatch.isVMNamePresent (vmmatch : EntityMatch) : Bool :=
  !blank vmmatch.matchName

namespace VirtualMachineSelector

def isVpcIDPresent (entry : VirtualMachineSelector) : Bool :=
  entry.vpcMatch.any fun networkMatch => !blank networkMatch.matchID

def isVpcNamePresent (entry : VirtualMachineSelector) : Bool :=
  entry.vpcMatch.any fun networkMatch => !blank networkMatch.matchName

/-- `networkMatch.MatchID`, which is read only where a VPC is asked for. -/
def vpcID (entry : VirtualMachineSelector) : String :=
  (entry.vpcMatch.map (·.matchID)).getD ""

/-- `networkMatch.MatchName`. -/
def vpcName (entry : VirtualMachineSelector) : String :=
  (entry.vpcMatch.map (·.matchName)).getD ""

end VirtualMachineSelector

/--
What is collected.  The matches with both an id and a name, which one of the
loops counts for a log line, are left out.
-/
structure Buckets where
  vpcIDsWithVpcIDOnlyMatches : GoSet String
  vpcIDWithOtherMatches : List VirtualMachineSelector
  vmIDOnlyMatches : List EntityMatch
  vmNameOnlyMatches : List EntityMatch
  vpcNameOnlyMatches : List VirtualMachineSelector

namespace Buckets

def empty : Buckets :=
  ⟨∅, [], [], [], []⟩

/-- The inner loop over the `VMMatch` of an entry; both ways out of it are a `break`. -/
def collectVMMatches (entry : VirtualMachineSelector) :
    List EntityMatch → Buckets → Buckets
  | [], buckets => buckets
  | vmmatch :: rest, buckets =>
    if entry.isVpcIDPresent && (vmmatch.isVMIDPresent || vmmatch.isVMNamePresent) then
      if entry.vpcID ∈ buckets.vpcIDsWithVpcIDOnlyMatches then buckets
      else { buckets with
        vpcIDWithOtherMatches := buckets.vpcIDWithOtherMatches ++ [entry] }
    else
      collectVMMatches entry rest { buckets with
        vmIDOnlyMatches :=
          if vmmatch.isVMIDPresent && !vmmatch.isVMNamePresent && !entry.isVpcIDPresent then
            buckets.vmIDOnlyMatches ++ [vmmatch]
          else buckets.vmIDOnlyMatches
        vmNameOnlyMatches :=
          if vmmatch.isVMNamePresent && !vmmatch.isVMIDPresent && !entry.isVpcIDPresent then
            buckets.vmNameOnlyMatches ++ [vmmatch]
          else buckets.vmNameOnlyMatches }

/-- An entry without `VMMatch`, which asks for a whole VPC. -/
def collectVpc (vpcNames : Bool) (entry : VirtualMachineSelector) (buckets : Buckets) :
    Buckets :=
  { buckets with
    vpcIDsWithVpcIDOnlyMatches :=
      if entry.isVpcIDPresent && entry.vmMatch.isEmpty then
        buckets.vpcIDsWithVpcIDOnlyMatches.add entry.vpcID
      else buckets.vpcIDsWithVpcIDOnlyMatches
    vpcNameOnlyMatches :=
      if vpcNames && entry.isVpcNamePresent && entry.vmMatch.isEmpty &&
          !entry.isVpcIDPresent then
        buckets.vpcNameOnlyMatches ++ [entry]
      else buckets.vpcNameOnlyMatches }

/--
The outer loop.  An entry that asks for nothing ends it, and the caller then
returns nil; `vpcNames` says whether the name of a VPC counts.
-/
def collect (vpcNames : Bool) : List VirtualMachineSelector → Buckets → Option Buckets
  | [], buckets => some buckets
  | entry :: rest, buckets =>
    if !entry.isVpcIDPresent && entry.vmMatch.isEmpty &&
        !(vpcNames && entry.isVpcNamePresent) then
      none
    else
      collect vpcNames rest
        (collectVMMatches entry entry.vmMatch (collectVpc vpcNames entry buckets))

/-! ## What is in the buckets -/

theorem isBlank_eq (item : EntityMatch) :
    item.isBlank = !(item.isVMIDPresent || item.isVMNamePresent) := by
  simp [EntityMatch.isBlank, EntityMatch.isVMIDPresent, EntityMatch.isVMNamePresent]

/-- An entry with a VPC is put aside as a whole when some machine is asked for. -/
theorem collectVMMatches_of_vpcID {entry : VirtualMachineSelector}
    (present : entry.isVpcIDPresent = true) (items : List EntityMatch) (buckets : Buckets) :
    collectVMMatches entry items buckets =
      { buckets with
        vpcIDWithOtherMatches := buckets.vpcIDWithOtherMatches ++
          if (items.any fun item => !item.isBlank) ∧
              entry.vpcID ∉ buckets.vpcIDsWithVpcIDOnlyMatches then [entry] else [] } := by
  induction items generalizing buckets with
  | nil => simp [collectVMMatches]
  | cons item rest induction =>
    rw [collectVMMatches]
    cases given : item.isVMIDPresent || item.isVMNamePresent with
    | true =>
      simp only [present, Bool.and_self, if_true, isBlank_eq, given, List.any_cons,
        Bool.not_not, Bool.true_or, true_and]
      split
      all_goals simp
    | false =>
      simp only [Bool.and_false, Bool.false_eq_true, if_false, induction, isBlank_eq, given,
        List.any_cons, Bool.not_not, Bool.false_or, present, Bool.not_true, Bool.and_false]

/-- Without a VPC the items are sorted one by one. -/
theorem collectVMMatches_of_no_vpcID {entry : VirtualMachineSelector}
    (absent : entry.isVpcIDPresent = false) (items : List EntityMatch) (buckets : Buckets) :
    collectVMMatches entry items buckets =
      { buckets with
        vmIDOnlyMatches := buckets.vmIDOnlyMatches ++
          items.filter fun item => item.isVMIDPresent && !item.isVMNamePresent
        vmNameOnlyMatches := buckets.vmNameOnlyMatches ++
          items.filter fun item => item.isVMNamePresent && !item.isVMIDPresent } := by
  induction items generalizing buckets with
  | nil => simp [collectVMMatches]
  | cons item rest induction =>
    rw [collectVMMatches]
    simp only [absent, Bool.false_and, Bool.false_eq_true, if_false, induction, Bool.not_false,
      Bool.and_true, List.filter_cons]
    cases item.isVMIDPresent <;> cases item.isVMNamePresent <;> simp

/--
What is in the buckets after some entries.  An entry may be missing among those
with other matches when its VPC is selected as a whole.
-/
structure Collected (vpcNames : Bool) (entries : List VirtualMachineSelector)
    (before after : Buckets) : Prop where
  vpcIDOnly : ∀ vpcID, vpcID ∈ after.vpcIDsWithVpcIDOnlyMatches ↔
    vpcID ∈ before.vpcIDsWithVpcIDOnlyMatches ∨ ∃ entry ∈ entries,
      entry.isVpcIDPresent = true ∧ entry.vmMatch = [] ∧ entry.vpcID = vpcID
  otherSound : ∀ entry ∈ after.vpcIDWithOtherMatches, entry ∈ before.vpcIDWithOtherMatches ∨
    entry ∈ entries ∧ entry.isVpcIDPresent = true ∧ entry.hasItem = true
  otherComplete : ∀ entry, entry.vpcID ∉ after.vpcIDsWithVpcIDOnlyMatches →
    (entry ∈ before.vpcIDWithOtherMatches ∨
      entry ∈ entries ∧ entry.isVpcIDPresent = true ∧ entry.hasItem = true) →
    entry ∈ after.vpcIDWithOtherMatches
  vmIDOnly : ∀ item, item ∈ after.vmIDOnlyMatches ↔ item ∈ before.vmIDOnlyMatches ∨
    ∃ entry ∈ entries, entry.isVpcIDPresent = false ∧ item ∈ entry.vmMatch ∧
      item.isVMIDPresent = true ∧ item.isVMNamePresent = false
  vmNameOnly : ∀ item, item ∈ after.vmNameOnlyMatches ↔ item ∈ before.vmNameOnlyMatches ∨
    ∃ entry ∈ entries, entry.isVpcIDPresent = false ∧ item ∈ entry.vmMatch ∧
      item.isVMNamePresent = true ∧ item.isVMIDPresent = false
  vpcNameOnly : ∀ entry, entry ∈ after.vpcNameOnlyMatches ↔ entry ∈ before.vpcNameOnlyMatches ∨
    entry ∈ entries ∧ vpcNames = true ∧ entry.isVpcNamePresent = true ∧ entry.vmMatch = [] ∧
      entry.isVpcIDPresent = false

variable {vpcNames : Bool} {before middle after : Buckets}
  {entries : List VirtualMachineSelector} {entry : VirtualMachineSelector}

theorem Collected.nil : Collected vpcNames [] before before := by
  constructor <;> simp

theorem Collected.cons (first : Collected vpcNames [entry] before middle)
    (others : Collected vpcNames entries middle after) :
    Collected vpcNames (entry :: entries) before after where
  vpcIDOnly vpcID := by
    simp [others.vpcIDOnly, first.vpcIDOnly, or_assoc]
  otherSound other member := by
    rcases others.otherSound other member with earlier | ⟨listed, rest⟩
    · rcases first.otherSound other earlier with start | ⟨here, rest⟩
      · exact .inl start
      · exact .inr ⟨by simp_all, rest⟩
    · exact .inr ⟨List.mem_cons_of_mem _ listed, rest⟩
  otherComplete other free member := by
    refine others.otherComplete other free ?_
    have earlier : other.vpcID ∉ middle.vpcIDsWithVpcIDOnlyMatches := fun superseded =>
      free ((others.vpcIDOnly _).mpr (.inl superseded))
    rcases member with start | ⟨listed, rest⟩
    · exact .inl (first.otherComplete other earlier (.inl start))
    · rcases List.mem_cons.mp listed with rfl | listed
      · exact .inl (first.otherComplete other earlier (.inr ⟨List.mem_singleton_self _, rest⟩))
      · exact .inr ⟨listed, rest⟩
  vmIDOnly item := by
    simp [others.vmIDOnly, first.vmIDOnly, or_assoc]
  vmNameOnly item := by
    simp [others.vmNameOnly, first.vmNameOnly, or_assoc]
  vpcNameOnly other := by
    rw [others.vpcNameOnly, first.vpcNameOnly, List.mem_singleton, List.mem_cons, or_and_right,
      or_assoc]

theorem mem_collectVpc {vpcID : String} :
    vpcID ∈ (collectVpc vpcNames entry before).vpcIDsWithVpcIDOnlyMatches ↔
      vpcID ∈ before.vpcIDsWithVpcIDOnlyMatches ∨
        (entry.isVpcIDPresent = true ∧ entry.vmMatch = [] ∧ entry.vpcID = vpcID) := by
  simp only [collectVpc, Bool.and_eq_true, List.isEmpty_iff]
  split
  next whole =>
    rw [GoSet.mem_add, or_comm, eq_comm]
    simp [whole]
  next other => grind

theorem collected_of_vpcID (present : entry.isVpcIDPresent = true) (before : Buckets) :
    Collected vpcNames [entry] before
      (collectVMMatches entry entry.vmMatch (collectVpc vpcNames entry before)) := by
  rw [collectVMMatches_of_vpcID present]
  constructor
  · intro vpcID
    simp [mem_collectVpc]
  · intro other member
    rcases List.mem_append.mp member with start | here
    · exact .inl start
    · split at here
      next reaches =>
        rw [List.mem_singleton] at here
        subst here
        exact .inr ⟨List.mem_singleton_self _, present, reaches.1⟩
      next => cases here
  · rintro other free (start | ⟨here, -, reaches⟩)
    · exact List.mem_append_left _ start
    · rw [List.mem_singleton] at here
      subst here
      refine List.mem_append_right _ ?_
      rw [if_pos ⟨reaches, free⟩]
      exact List.mem_singleton_self _
  · intro item
    simp [collectVpc, present]
  · intro item
    simp [collectVpc, present]
  · intro other
    simp only [collectVpc, present, Bool.not_true, Bool.and_false, Bool.false_eq_true, if_false,
      List.mem_singleton]
    refine ⟨.inl, ?_⟩
    rintro (start | ⟨rfl, -, -, -, absent⟩)
    · exact start
    · rw [present] at absent
      cases absent

theorem collected_of_no_vpcID (absent : entry.isVpcIDPresent = false) (before : Buckets) :
    Collected vpcNames [entry] before
      (collectVMMatches entry entry.vmMatch (collectVpc vpcNames entry before)) := by
  rw [collectVMMatches_of_no_vpcID absent]
  constructor
  · intro vpcID
    simp [mem_collectVpc]
  · intro other member
    exact .inl member
  · rintro other - (start | ⟨here, present, -⟩)
    · exact start
    · rw [List.mem_singleton] at here
      rw [here, absent] at present
      cases present
  · intro item
    simp [collectVpc, absent]
  · intro item
    simp [collectVpc, absent]
  · intro other
    simp only [collectVpc, absent, Bool.not_false, Bool.and_true, Bool.and_eq_true,
      List.isEmpty_iff, List.mem_singleton]
    split
    next whole => grind
    next other => grind

/-- What is in the buckets when the loop has come to its end. -/
theorem collected_of_collect (finished : collect vpcNames entries before = some after) :
    Collected vpcNames entries before after := by
  induction entries generalizing before with
  | nil =>
    cases finished
    exact .nil
  | cons entry rest induction =>
    rw [collect] at finished
    split at finished
    next => cases finished
    next =>
      have first : Collected vpcNames [entry] before
          (collectVMMatches entry entry.vmMatch (collectVpc vpcNames entry before)) := by
        cases present : entry.isVpcIDPresent with
        | true => exact collected_of_vpcID present before
        | false => exact collected_of_no_vpcID present before
      exact first.cons (induction finished)

/-- The loop ends early when an entry asks for nothing. -/
theorem collect_eq_none_iff : collect vpcNames entries before = none ↔
    ∃ entry ∈ entries, entry.isVpcIDPresent = false ∧ entry.vmMatch = [] ∧
      (vpcNames && entry.isVpcNamePresent) = false := by
  induction entries generalizing before with
  | nil => simp [collect]
  | cons entry rest induction =>
    have asksNothing : (!entry.isVpcIDPresent && entry.vmMatch.isEmpty &&
        !(vpcNames && entry.isVpcNamePresent)) = true ↔
        entry.isVpcIDPresent = false ∧ entry.vmMatch = [] ∧
          (vpcNames && entry.isVpcNamePresent) = false := by
      simp only [Bool.and_eq_true, Bool.not_eq_true', List.isEmpty_iff, and_assoc]
    rw [collect, List.exists_mem_cons_iff]
    split
    next asks => exact iff_of_true rfl (.inl (asksNothing.mp asks))
    next asks =>
      rw [induction]
      exact ⟨.inr, fun found => found.resolve_left fun here => asks (asksNothing.mpr here)⟩

end Buckets

/-! ## What the buckets stand for -/

/-- What the webhook ensures; `vpcNames` says whether a VPC may be asked for by its name. -/
structure Accepted (vpcNames : Bool) (vmSelector : List VirtualMachineSelector) : Prop where
  vpcs : ∀ entry ∈ vmSelector, entry.vpcMatch.any EntityMatch.isDouble = false
  vms : ∀ entry ∈ vmSelector, ∀ item ∈ entry.vmMatch, item.isDouble = false
  names : ∀ entry ∈ vmSelector, entry.isVpcNamePresent = true →
    vpcNames = true ∧ entry.hasItem = false

variable {vmSelector : List VirtualMachineSelector}

theorem accepted_of_aws (accepted : validateMatchSections (.ok .aws) vmSelector = .ok ()) :
    Accepted true vmSelector := by
  simp only [validateMatchSections] at accepted
  split at accepted
  next => cases accepted
  next single =>
    split at accepted
    next => cases accepted
    next names =>
      simp only [List.any_eq_true, Bool.or_eq_true, Bool.and_eq_true, not_exists, not_and,
        not_or, Bool.not_eq_true] at single names
      exact ⟨fun entry listed => (single entry listed).1, fun entry listed =>
        (single entry listed).2, fun entry listed named => ⟨rfl, List.any_eq_false.mpr fun item
          member => Bool.eq_false_iff.mp (names entry listed named item member)⟩⟩

theorem accepted_of_azure (accepted : validateMatchSections (.ok .azure) vmSelector = .ok ()) :
    Accepted false vmSelector := by
  simp only [validateMatchSections] at accepted
  split at accepted
  next => cases accepted
  next single =>
    split at accepted
    next => cases accepted
    next names =>
      simp only [List.any_eq_true, Bool.or_eq_true, not_exists, not_and,
        not_or, Bool.not_eq_true] at single names
      exact ⟨fun entry listed => (single entry listed).1, fun entry listed =>
        (single entry listed).2, fun entry listed named =>
          absurd named (Bool.eq_false_iff.mp (names entry listed))⟩

/-- The machines the buckets stand for; `same` compares a field with an attribute. -/
def Buckets.selects (same : String → String → Bool) (buckets : Buckets) (machine : Machine) :
    Prop :=
  (∃ vpcID ∈ buckets.vpcIDsWithVpcIDOnlyMatches, same vpcID machine.vpcID = true) ∨
    (∃ entry ∈ buckets.vpcIDWithOtherMatches,
      entry.vpcID ∉ buckets.vpcIDsWithVpcIDOnlyMatches ∧
      same entry.vpcID machine.vpcID = true ∧
      ∃ item ∈ entry.vmMatch, item.holds same machine.id machine.name = true) ∨
    (∃ item ∈ buckets.vmIDOnlyMatches, same item.matchID machine.id = true) ∨
    (∃ item ∈ buckets.vmNameOnlyMatches, same item.matchName machine.name = true) ∨
    ∃ entry ∈ buckets.vpcNameOnlyMatches, same entry.vpcName machine.vpcName = true

/-- Nothing was put into any bucket. -/
structure Buckets.IsEmpty (buckets : Buckets) : Prop where
  vpcIDOnly : ∀ vpcID, vpcID ∉ buckets.vpcIDsWithVpcIDOnlyMatches
  other : buckets.vpcIDWithOtherMatches = []
  vmIDOnly : buckets.vmIDOnlyMatches = []
  vmNameOnly : buckets.vmNameOnlyMatches = []
  vpcNameOnly : buckets.vpcNameOnlyMatches = []

section Entries

open VirtualMachineSelector

variable {same : String → String → Bool} {machine : Machine} {vpcNames : Bool}
  {vmSelector : List VirtualMachineSelector} {entry : VirtualMachineSelector} {after : Buckets}

/-- How an entry asks for a VPC: by its id, by its name or not at all. -/
inductive AsksVpc (entry : VirtualMachineSelector) : Prop where
  | byID (present : entry.isVpcIDPresent = true) (isBlank : entry.vpcBlank = false)
      (holds : ∀ same machine, entry.vpcHolds same machine = same entry.vpcID machine.vpcID)
  | byName (absent : entry.isVpcIDPresent = false) (named : entry.isVpcNamePresent = true)
      (isBlank : entry.vpcBlank = false)
      (holds : ∀ same machine, entry.vpcHolds same machine = same entry.vpcName machine.vpcName)
  | nowhere (absent : entry.isVpcIDPresent = false) (unnamed : entry.isVpcNamePresent = false)
      (isBlank : entry.vpcBlank = true)

theorem asksVpc (single : entry.vpcMatch.any EntityMatch.isDouble = false) : AsksVpc entry := by
  cases asked : entry.vpcMatch with
  | none =>
    refine .nowhere ?_ ?_ ?_ <;> simp [isVpcIDPresent, isVpcNamePresent, vpcBlank, asked]
  | some vpc =>
    simp only [asked, Option.any_some, EntityMatch.isDouble] at single
    cases byID : blank vpc.matchID with
    | false =>
      have unnamed : blank vpc.matchName = true := by simpa [byID] using single
      refine .byID ?_ ?_ ?_ <;>
        simp [isVpcIDPresent, vpcBlank, vpcHolds, vpcID, asked, EntityMatch.isBlank,
          EntityMatch.holds, byID, unnamed]
    | true =>
      cases byName : blank vpc.matchName with
      | false =>
        refine .byName ?_ ?_ ?_ ?_ <;>
          simp [isVpcIDPresent, isVpcNamePresent, vpcBlank, vpcHolds, vpcName, asked,
            EntityMatch.isBlank, EntityMatch.holds, byID, byName]
      | true =>
        refine .nowhere ?_ ?_ ?_ <;>
          simp [isVpcIDPresent, isVpcNamePresent, vpcBlank, asked, EntityMatch.isBlank,
            byID, byName]

theorem kept_iff_of_vpc (somewhere : entry.vpcBlank = false) :
    entry.kept same machine = true ↔ entry.vpcHolds same machine = true ∧
      (entry.vmMatch = [] ∨ entry.hasItem = true ∧
        ∃ item ∈ entry.vmMatch, item.holds same machine.id machine.name = true) := by
  cases items : entry.vmMatch with
  | nil => simp [kept, reaches, somewhere, items]
  | cons item rest => simp [kept, reaches, somewhere, items, and_assoc]

theorem kept_iff_of_no_vpc (anywhere : entry.vpcBlank = true)
    (single : ∀ item ∈ entry.vmMatch, item.isDouble = false) :
    entry.kept same machine = true ↔ ∃ item ∈ entry.vmMatch,
      (item.isVMIDPresent = true ∧ item.isVMNamePresent = false ∧
        same item.matchID machine.id = true) ∨
      (item.isVMNamePresent = true ∧ item.isVMIDPresent = false ∧
        same item.matchName machine.name = true) := by
  have each : ∀ item ∈ entry.vmMatch,
      ((item.holds same machine.id machine.name = true ∧ item.isBlank = false) ↔
        (item.isVMIDPresent = true ∧ item.isVMNamePresent = false ∧
          same item.matchID machine.id = true) ∨
        (item.isVMNamePresent = true ∧ item.isVMIDPresent = false ∧
          same item.matchName machine.name = true)) := by
    intro item member
    have double := single item member
    simp only [EntityMatch.isDouble] at double
    simp only [EntityMatch.holds, EntityMatch.isBlank, EntityMatch.isVMIDPresent,
      EntityMatch.isVMNamePresent]
    cases byID : blank item.matchID <;> cases byName : blank item.matchName <;> simp_all
  simp only [kept, reaches, hasItem, vpcHolds_of_vpcBlank anywhere, anywhere, Bool.true_and,
    Bool.not_true, Bool.false_and, Bool.or_false, Bool.and_eq_true, Bool.or_eq_true,
    List.any_eq_true, Bool.not_eq_true', List.isEmpty_iff]
  constructor
  · rintro ⟨⟨some, member, given⟩, none | ⟨item, member', found⟩⟩
    · rw [none] at member
      cases member
    · exact ⟨item, member', (each item member').mp found⟩
  · rintro ⟨item, member, found⟩
    have kept := (each item member).mpr found
    exact ⟨⟨item, member, kept.2⟩, .inr ⟨item, member, kept⟩⟩

/-- An item that is sorted on its own belongs to an entry without a VPC. -/
theorem vpcBlank_of_item (accepted : Accepted vpcNames vmSelector) (listed : entry ∈ vmSelector)
    (absent : entry.isVpcIDPresent = false) (item : entry.hasItem = true) :
    entry.vpcBlank = true := by
  cases asksVpc (accepted.vpcs entry listed) with
  | byID present => rw [absent] at present; cases present
  | byName _ named =>
    rw [(accepted.names entry listed named).2] at item
    cases item
  | nowhere _ _ isBlank => exact isBlank

theorem vpcBlank_of_vpcID (present : entry.isVpcIDPresent = true) : entry.vpcBlank = false := by
  unfold isVpcIDPresent at present
  unfold vpcBlank
  cases asked : entry.vpcMatch with
  | none => rw [asked] at present; cases present
  | some vpc =>
    rw [asked, Option.any_some, Bool.not_eq_true'] at present
    simp [EntityMatch.isBlank, present]

theorem blank_vpcID (present : entry.isVpcIDPresent = true) : blank entry.vpcID = false := by
  unfold isVpcIDPresent at present
  unfold vpcID
  cases asked : entry.vpcMatch with
  | none => rw [asked] at present; cases present
  | some vpc => simpa [asked] using present

theorem blank_vpcName (present : entry.isVpcNamePresent = true) :
    blank entry.vpcName = false := by
  unfold isVpcNamePresent at present
  unfold vpcName
  cases asked : entry.vpcMatch with
  | none => rw [asked] at present; cases present
  | some vpc => simpa [asked] using present

theorem vpcHolds_of_vpcID (accepted : Accepted vpcNames vmSelector)
    (listed : entry ∈ vmSelector) (present : entry.isVpcIDPresent = true) :
    entry.vpcHolds same machine = same entry.vpcID machine.vpcID := by
  cases asksVpc (accepted.vpcs entry listed) with
  | byID _ _ holds => exact holds same machine
  | byName absent => rw [absent] at present; cases present
  | nowhere absent => rw [absent] at present; cases present

/-- If every comparison succeeded, each entry in a bucket would select every machine. -/
theorem kept_always (entry : VirtualMachineSelector) (machine : Machine) :
    entry.kept (fun _ _ => true) machine = entry.reaches := by
  have holds (item : EntityMatch) (id name : String) :
      item.holds (fun _ _ => true) id name = true := by simp [EntityMatch.holds]
  have vpcHolds : entry.vpcHolds (fun _ _ => true) machine = true := by
    cases asked : entry.vpcMatch <;> simp [VirtualMachineSelector.vpcHolds, asked, holds]
  simp only [kept, vpcHolds, holds, Bool.true_and]
  cases anywhere : entry.vpcBlank <;> cases items : entry.vmMatch <;>
    simp [reaches, hasItem, anywhere, items]

section Finished

variable (accepted : Accepted vpcNames vmSelector)
  (finished : Buckets.collect vpcNames vmSelector .empty = some after)

include accepted finished

/-- Whatever a bucket stands for is kept for an entry. -/
theorem exists_kept_of_selects (selects : after.selects same machine) :
    ∃ entry ∈ vmSelector, entry.kept same machine = true := by
  have collected := Buckets.collected_of_collect finished
  rcases selects with ⟨vpcID, whole, holds⟩ | ⟨entry, other, -, holds, items⟩ |
    ⟨item, byID, holds⟩ | ⟨item, byName, holds⟩ | ⟨entry, named, holds⟩
  · rcases (collected.vpcIDOnly vpcID).mp whole with none | ⟨entry, listed, present, empty, rfl⟩
    · cases none
    · refine ⟨entry, listed, (kept_iff_of_vpc (vpcBlank_of_vpcID present)).mpr ⟨?_, .inl empty⟩⟩
      rw [vpcHolds_of_vpcID accepted listed present, holds]
  · rcases collected.otherSound entry other with none | ⟨listed, present, reaches⟩
    · cases none
    · refine ⟨entry, listed, (kept_iff_of_vpc (vpcBlank_of_vpcID present)).mpr
        ⟨?_, .inr ⟨reaches, items⟩⟩⟩
      rw [vpcHolds_of_vpcID accepted listed present, holds]
  · rcases (collected.vmIDOnly item).mp byID with none | ⟨entry, listed, absent, member, given⟩
    · cases none
    · have reaches : entry.hasItem = true :=
        List.any_eq_true.mpr ⟨item, member, by simp [Buckets.isBlank_eq, given.1]⟩
      exact ⟨entry, listed, (kept_iff_of_no_vpc
        (vpcBlank_of_item accepted listed absent reaches)
        (accepted.vms entry listed)).mpr ⟨item, member, .inl ⟨given.1, given.2, holds⟩⟩⟩
  · rcases (collected.vmNameOnly item).mp byName with none | ⟨entry, listed, absent, member, given⟩
    · cases none
    · have reaches : entry.hasItem = true :=
        List.any_eq_true.mpr ⟨item, member, by simp [Buckets.isBlank_eq, given.1]⟩
      exact ⟨entry, listed, (kept_iff_of_no_vpc
        (vpcBlank_of_item accepted listed absent reaches)
        (accepted.vms entry listed)).mpr ⟨item, member, .inr ⟨given.1, given.2, holds⟩⟩⟩
  · rcases (collected.vpcNameOnly entry).mp named with none | ⟨listed, -, named, empty, absent⟩
    · cases none
    · cases asksVpc (accepted.vpcs entry listed) with
      | byID present => rw [absent] at present; cases present
      | byName _ _ somewhere agrees =>
        exact ⟨entry, listed, (kept_iff_of_vpc somewhere).mpr
          ⟨(agrees same machine).trans holds, .inl empty⟩⟩
      | nowhere _ unnamed => rw [unnamed] at named; cases named

/-- Whatever is kept for an entry, a bucket stands for it. -/
theorem selects_of_kept (listed : entry ∈ vmSelector) (kept : entry.kept same machine = true) :
    after.selects same machine := by
  have collected := Buckets.collected_of_collect finished
  cases asksVpc (accepted.vpcs entry listed) with
  | byID present somewhere agrees =>
    obtain ⟨holds, empty | ⟨reaches, items⟩⟩ := (kept_iff_of_vpc somewhere).mp kept
    · exact .inl ⟨entry.vpcID, (collected.vpcIDOnly _).mpr
        (.inr ⟨entry, listed, present, empty, rfl⟩), (agrees same machine).symm.trans holds⟩
    · by_cases superseded : entry.vpcID ∈ after.vpcIDsWithVpcIDOnlyMatches
      · exact .inl ⟨entry.vpcID, superseded, (agrees same machine).symm.trans holds⟩
      · exact .inr (.inl ⟨entry, collected.otherComplete entry superseded
          (.inr ⟨listed, present, reaches⟩), superseded,
          (agrees same machine).symm.trans holds, items⟩)
  | byName absent named somewhere agrees =>
    obtain ⟨vpcNames, noItem⟩ := accepted.names entry listed named
    obtain ⟨holds, empty | ⟨reaches, -⟩⟩ := (kept_iff_of_vpc somewhere).mp kept
    · exact .inr (.inr (.inr (.inr ⟨entry, (collected.vpcNameOnly entry).mpr
        (.inr ⟨listed, vpcNames, named, empty, absent⟩), (agrees same machine).symm.trans holds⟩)))
    · rw [noItem] at reaches
      cases reaches
  | nowhere absent _ anywhere =>
    obtain ⟨item, member, ⟨id, noName, holds⟩ | ⟨name, noID, holds⟩⟩ :=
      (kept_iff_of_no_vpc anywhere (accepted.vms entry listed)).mp kept
    · exact .inr (.inr (.inl ⟨item, (collected.vmIDOnly item).mpr
        (.inr ⟨entry, listed, absent, member, id, noName⟩), holds⟩))
    · exact .inr (.inr (.inr (.inl ⟨item, (collected.vmNameOnly item).mpr
        (.inr ⟨entry, listed, absent, member, name, noID⟩), holds⟩)))

theorem selects_iff_exists_kept :
    after.selects same machine ↔ ∃ entry ∈ vmSelector, entry.kept same machine = true :=
  ⟨exists_kept_of_selects accepted finished, fun ⟨_, listed, kept⟩ =>
    selects_of_kept accepted finished listed kept⟩

theorem isEmpty_iff :
    after.IsEmpty ↔ ∀ entry ∈ vmSelector, entry.reaches = false := by
  let machine : Machine := ⟨"", "", "", ""⟩
  have selects : after.selects (fun _ _ => true) machine ↔
      ∃ entry ∈ vmSelector, entry.kept (fun _ _ => true) machine = true :=
    selects_iff_exists_kept accepted finished
  have none : after.IsEmpty ↔ ¬ after.selects (fun _ _ => true) machine := by
    constructor
    · rintro empty (⟨vpcID, whole, -⟩ | ⟨entry, other, -⟩ | ⟨item, byID, -⟩ | ⟨item, byName, -⟩ |
        ⟨entry, named, -⟩)
      · exact empty.vpcIDOnly vpcID whole
      · simp [empty.other] at other
      · simp [empty.vmIDOnly] at byID
      · simp [empty.vmNameOnly] at byName
      · simp [empty.vpcNameOnly] at named
    · intro none
      have vpcIDOnly : ∀ vpcID, vpcID ∉ after.vpcIDsWithVpcIDOnlyMatches := fun vpcID whole =>
        none (.inl ⟨vpcID, whole, rfl⟩)
      refine ⟨vpcIDOnly, ?_, ?_, ?_, ?_⟩
      · refine List.eq_nil_iff_forall_not_mem.mpr fun entry other => ?_
        obtain absurd | ⟨-, -, reaches⟩ :=
          (Buckets.collected_of_collect finished).otherSound entry other
        · cases absurd
        · obtain ⟨item, member, -⟩ := List.any_eq_true.mp reaches
          exact none (.inr (.inl ⟨entry, other, vpcIDOnly _, rfl, item, member,
            by simp [EntityMatch.holds]⟩))
      · exact List.eq_nil_iff_forall_not_mem.mpr fun item member =>
          none (.inr (.inr (.inl ⟨item, member, rfl⟩)))
      · exact List.eq_nil_iff_forall_not_mem.mpr fun item member =>
          none (.inr (.inr (.inr (.inl ⟨item, member, rfl⟩))))
      · exact List.eq_nil_iff_forall_not_mem.mpr fun entry member =>
          none (.inr (.inr (.inr (.inr ⟨entry, member, rfl⟩))))
  rw [none, selects]
  simp [kept_always]

end Finished

/-- The loop ends early when some entry asks for nothing. -/
theorem collect_eq_none_iff_selectsAll (accepted : Accepted vpcNames vmSelector) :
    Buckets.collect vpcNames vmSelector .empty = none ↔
      ∃ entry ∈ vmSelector, entry.selectsAll = true := by
  rw [Buckets.collect_eq_none_iff]
  refine exists_congr fun entry => and_congr_right fun listed => ?_
  rw [selectsAll, Bool.and_eq_true, List.isEmpty_iff]
  cases asksVpc (accepted.vpcs entry listed) with
  | byID present somewhere => simp [present, somewhere]
  | byName absent named somewhere =>
    simp [absent, named, somewhere, (accepted.names entry listed named).1]
  | nowhere absent unnamed anywhere => simp [absent, unnamed, anywhere]

end Entries

end Nephe
