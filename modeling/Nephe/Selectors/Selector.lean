import Nephe.Library.Text

/-!
# Cloud entity selectors

A `CloudEntitySelector` says which virtual machines of an account the
controller manages (`apis/crd/v1alpha1`).  This module has the selector itself,
the checks of the webhook, and the documented meaning: the entries of a list are
alternatives, an entry asks for a VPC and for one of some machines, and a blank
field asks for nothing.

Both plug-ins translate a selector by sorting its entries by the fields that are
blank.  What their translations have in common is described here once, with the
exact condition under which it has the documented meaning.
-/

namespace Nephe

open Library

/-! ## Selectors -/

/-- `EntityMatch`. -/
structure EntityMatch where
  matchName : String
  matchID : String
deriving DecidableEq, Repr

/-- `VirtualMachineSelector`. -/
structure VirtualMachineSelector where
  vpcMatch : Option EntityMatch
  vmMatch : List EntityMatch
deriving DecidableEq, Repr

/-- Both fields are given. -/
def EntityMatch.isDouble (entity : EntityMatch) : Bool :=
  !blank entity.matchID && !blank entity.matchName

/-- Neither field is given. -/
def EntityMatch.isBlank (entity : EntityMatch) : Bool :=
  blank entity.matchID && blank entity.matchName

inductive CloudProviderType where
  | aws
  | azure
deriving DecidableEq, Repr

/--
`validateMatchSections`.  The provider is that of the owner account, which is
looked up after the first loop; both lookups may fail.
-/
def validateMatchSections (owner : Except String CloudProviderType)
    (vmSelector : List VirtualMachineSelector) : Except String Unit :=
  if vmSelector.any fun m => m.vpcMatch.any EntityMatch.isDouble ||
      m.vmMatch.any EntityMatch.isDouble then
    .error ("matchID and matchName are not supported together, " ++
      "configure either matchID or matchName in an EntityMatch")
  else
    match owner with
    | .error error => .error error
    | .ok .azure =>
      if vmSelector.any fun m => m.vpcMatch.any fun vpc => !blank vpc.matchName then
        .error ("matchName is not supported in vpcMatch, " ++
          "use matchID instead of matchName")
      else .ok ()
    | .ok .aws =>
      if vmSelector.any fun m => (m.vpcMatch.any fun vpc => !blank vpc.matchName) &&
          m.vmMatch.any fun vm => !vm.isBlank then
        .error ("vpc matchName with either vm matchID" ++
          " or vm matchName is not supported, use vpc matchID instead" ++
          " of vpc matchName")
      else .ok ()

/-! ## The documented meaning -/

/-- What a selector is about: a virtual machine and its VPC. -/
structure Machine where
  vpcID : String
  vpcName : String
  id : String
  name : String
deriving DecidableEq, Repr

/-- The fields that are given agree; `same` compares a field with an attribute. -/
def EntityMatch.holds (same : String → String → Bool) (entity : EntityMatch) (id name : String) :
    Bool :=
  (blank entity.matchID || same entity.matchID id) &&
    (blank entity.matchName || same entity.matchName name)

namespace VirtualMachineSelector

variable (same : String → String → Bool)

def vpcHolds (entry : VirtualMachineSelector) (machine : Machine) : Bool :=
  entry.vpcMatch.all fun vpc => vpc.holds same machine.vpcID machine.vpcName

/-- The documented meaning of an entry. -/
def selects (entry : VirtualMachineSelector) (machine : Machine) : Bool :=
  entry.vpcHolds same machine &&
    (entry.vmMatch.isEmpty || entry.vmMatch.any fun vm => vm.holds same machine.id machine.name)

/-! ## What a translation makes of an entry -/

/-- The entry does not ask for a VPC. -/
def vpcBlank (entry : VirtualMachineSelector) : Bool :=
  entry.vpcMatch.all EntityMatch.isBlank

/-- The entry asks for nothing at all. -/
def selectsAll (entry : VirtualMachineSelector) : Bool :=
  entry.vpcBlank && entry.vmMatch.isEmpty

/-- Some machine is asked for. -/
def hasItem (entry : VirtualMachineSelector) : Bool :=
  entry.vmMatch.any fun vm => !vm.isBlank

/-- Some item of the machines is blank. -/
def hasBlankItem (entry : VirtualMachineSelector) : Bool :=
  entry.vmMatch.any EntityMatch.isBlank

/-- The entry gets into one of the buckets. -/
def reaches (entry : VirtualMachineSelector) : Bool :=
  entry.hasItem || (!entry.vpcBlank && entry.vmMatch.isEmpty)

/-- The machines that are selected for an entry: without a VPC the blank items are skipped. -/
def kept (entry : VirtualMachineSelector) (machine : Machine) : Bool :=
  entry.vpcHolds same machine && entry.reaches &&
    (entry.vmMatch.isEmpty || entry.vmMatch.any fun vm =>
      vm.holds same machine.id machine.name && !(entry.vpcBlank && vm.isBlank))

/-- An entry that asks for everything by a blank item, which is skipped. -/
def losesAll (entry : VirtualMachineSelector) : Bool :=
  entry.vpcBlank && entry.hasBlankItem

/-- An entry that asks for a whole VPC by blank items only, which gets into no bucket. -/
def losesVpc (entry : VirtualMachineSelector) : Bool :=
  !entry.vpcBlank && !entry.reaches

/-- An entry for which every machine of the VPC is selected. -/
def whole (entry : VirtualMachineSelector) (machine : Machine) : Bool :=
  entry.vpcHolds same machine && entry.reaches && !entry.vpcBlank &&
    (entry.vmMatch.isEmpty || entry.hasBlankItem)

end VirtualMachineSelector

/-- The documented meaning of a list of entries. -/
def Documented (same : String → String → Bool) (vmSelector : List VirtualMachineSelector)
    (machine : Machine) : Prop :=
  ∃ entry ∈ vmSelector, entry.selects same machine = true

/--
What a translation selects: everything when an entry asks for nothing or when no
entry gets into a bucket, and otherwise what the entries contribute.
-/
def Translated (same : String → String → Bool) (vmSelector : List VirtualMachineSelector)
    (machine : Machine) : Prop :=
  (∃ entry ∈ vmSelector, entry.selectsAll = true) ∨
    (∀ entry ∈ vmSelector, entry.reaches = false) ∨
    ∃ entry ∈ vmSelector, entry.kept same machine = true

/-! ## When the two agree -/

/--
The machines of a cloud.  There are always machines that no field of a given list
speaks of, in a VPC of their own or in that of a given machine.
-/
structure Cloudscape where
  same : String → String → Bool
  Valid : Machine → Prop
  elsewhere : ∀ used : List String, ∃ machine, Valid machine ∧ ∀ s ∈ used, blank s = false →
    same s machine.vpcID = false ∧ same s machine.vpcName = false ∧
      same s machine.id = false ∧ same s machine.name = false
  beside : ∀ machine, Valid machine → ∀ used : List String, ∃ other, Valid other ∧
    other.vpcID = machine.vpcID ∧ other.vpcName = machine.vpcName ∧
    ∀ s ∈ used, blank s = false → same s other.id = false ∧ same s other.name = false

/--
No entry is lost, or what it asks for is selected all the same.

An entry may be lost when some entry asks for nothing.  If some entry gets into a
bucket, no blank item may ask for every machine, and each VPC that is asked for by
blank items only has to be selected as a whole for another entry.  If none does,
everything is selected, and a blank item has to ask for that.
-/
def Faithful (cloud : Cloudscape) (vmSelector : List VirtualMachineSelector) : Prop :=
  (∃ entry ∈ vmSelector, entry.selectsAll = true) ∨
    ((∃ entry ∈ vmSelector, entry.reaches = true) ∧
      (∀ entry ∈ vmSelector, entry.losesAll = false) ∧
      ∀ entry ∈ vmSelector, entry.losesVpc = true → ∀ machine, cloud.Valid machine →
        entry.vpcHolds cloud.same machine = true →
        ∃ other ∈ vmSelector, other.whole cloud.same machine = true) ∨
    ((∀ entry ∈ vmSelector, entry.reaches = false) ∧
      ∃ entry ∈ vmSelector, entry.losesAll = true)

namespace VirtualMachineSelector

variable {same : String → String → Bool} {entry : VirtualMachineSelector} {machine : Machine}

theorem holds_of_isBlank {item : EntityMatch} (isBlank : item.isBlank = true)
    (id name : String) : item.holds same id name = true := by
  rw [EntityMatch.isBlank, Bool.and_eq_true] at isBlank
  rw [EntityMatch.holds, isBlank.1, isBlank.2]
  rfl

theorem vpcHolds_of_vpcBlank (isBlank : entry.vpcBlank = true) :
    entry.vpcHolds same machine = true := by
  unfold vpcBlank at isBlank
  unfold vpcHolds
  cases asked : entry.vpcMatch with
  | none => rfl
  | some vpc =>
    rw [asked] at isBlank
    exact holds_of_isBlank isBlank _ _

theorem selects_iff_of_vpcBlank (anywhere : entry.vpcBlank = true)
    (asks : entry.vmMatch.isEmpty = false) :
    entry.selects same machine = true ↔
      entry.kept same machine = true ∨ entry.losesAll = true := by
  simp only [selects, kept, reaches, losesAll, hasItem, hasBlankItem,
    vpcHolds_of_vpcBlank anywhere, anywhere, asks, Bool.true_and, Bool.false_or, Bool.not_true,
    Bool.false_and, Bool.or_false, Bool.and_eq_true, List.any_eq_true, Bool.not_eq_true']
  constructor
  · rintro ⟨item, member, holds⟩
    cases isBlank : item.isBlank with
    | true => exact .inr ⟨item, member, isBlank⟩
    | false => exact .inl ⟨⟨item, member, isBlank⟩, item, member, holds, isBlank⟩
  · rintro (⟨-, item, member, holds, -⟩ | ⟨item, member, isBlank⟩)
    · exact ⟨item, member, holds⟩
    · exact ⟨item, member, holds_of_isBlank isBlank _ _⟩

/-- An entry that is in no bucket has only blank items, and at least one. -/
theorem exists_blank_of_losesVpc (loses : entry.losesVpc = true) :
    ∃ item ∈ entry.vmMatch, item.isBlank = true := by
  simp only [losesVpc, reaches, hasItem, Bool.and_eq_true, Bool.not_eq_true', Bool.or_eq_false_iff,
    List.any_eq_false] at loses
  obtain ⟨present, blanks, filled⟩ := loses
  rw [present, Bool.not_false, Bool.true_and] at filled
  cases items : entry.vmMatch with
  | nil =>
    rw [items] at filled
    cases filled
  | cons item rest =>
    have here := blanks item (by rw [items]; exact List.mem_cons_self)
    exact ⟨item, List.mem_cons_self, by simpa using here⟩

theorem selects_iff_of_vpc (somewhere : entry.vpcBlank = false) :
    entry.selects same machine = true ↔ entry.kept same machine = true ∨
      (entry.losesVpc = true ∧ entry.vpcHolds same machine = true) := by
  cases reaches : entry.reaches with
  | true =>
    have found : entry.losesVpc = false := by rw [losesVpc, reaches, Bool.not_true, Bool.and_false]
    simp [selects, kept, reaches, somewhere, found]
  | false =>
    have lost : entry.losesVpc = true := by rw [losesVpc, somewhere, reaches]; rfl
    obtain ⟨item, member, isBlank⟩ := exists_blank_of_losesVpc lost
    have any : (entry.vmMatch.any fun vm => vm.holds same machine.id machine.name) = true :=
      List.any_eq_true.mpr ⟨item, member, holds_of_isBlank isBlank _ _⟩
    simp [selects, kept, reaches, lost, any]

/-- An entry that asks for something selects what is kept for it and what it loses. -/
theorem selects_iff (asks : entry.selectsAll = false) :
    entry.selects same machine = true ↔ entry.kept same machine = true ∨
      entry.losesAll = true ∨
      (entry.losesVpc = true ∧ entry.vpcHolds same machine = true) := by
  cases anywhere : entry.vpcBlank with
  | true =>
    rw [selectsAll, anywhere, Bool.true_and] at asks
    rw [selects_iff_of_vpcBlank anywhere asks]
    simp [losesVpc, anywhere]
  | false =>
    rw [selects_iff_of_vpc anywhere]
    simp [losesAll, anywhere]

theorem selects_of_selectsAll (all : entry.selectsAll = true) :
    entry.selects same machine = true := by
  rw [selectsAll, Bool.and_eq_true] at all
  rw [selects, vpcHolds_of_vpcBlank all.1, all.2]
  rfl

/-- A machine that is selected with its whole VPC is selected. -/
theorem kept_of_whole (whole : entry.whole same machine = true) :
    entry.kept same machine = true := by
  simp only [VirtualMachineSelector.whole, Bool.and_eq_true, Bool.not_eq_true',
    Bool.or_eq_true] at whole
  obtain ⟨⟨⟨holds, reaches⟩, somewhere⟩, empty | blanks⟩ := whole
  · simp [kept, holds, reaches, empty]
  · obtain ⟨item, member, isBlank⟩ := List.any_eq_true.mp blanks
    have any : (entry.vmMatch.any fun vm => vm.holds same machine.id machine.name) = true :=
      List.any_eq_true.mpr ⟨item, member, holds_of_isBlank isBlank _ _⟩
    simp [kept, holds, reaches, somewhere, any]

/-- The fields of the items of an entry. -/
def itemFields (entry : VirtualMachineSelector) : List String :=
  entry.vmMatch.flatMap fun item => [item.matchID, item.matchName]

/-- The fields of an entry. -/
def fields (entry : VirtualMachineSelector) : List String :=
  (entry.vpcMatch.toList ++ entry.vmMatch).flatMap fun item => [item.matchID, item.matchName]

/-- An item that speaks of nothing the machine has holds only when it is blank. -/
theorem isBlank_of_holds {item : EntityMatch} {id name : String}
    (stranger : ∀ s ∈ [item.matchID, item.matchName], blank s = false →
      same s id = false ∧ same s name = false)
    (holds : item.holds same id name = true) : item.isBlank = true := by
  rw [EntityMatch.holds, Bool.and_eq_true, Bool.or_eq_true, Bool.or_eq_true] at holds
  rw [EntityMatch.isBlank, Bool.and_eq_true]
  constructor
  · rcases holds.1 with isBlank | agrees
    · exact isBlank
    · by_contra given
      rw [(stranger item.matchID (by simp) (by simpa using given)).1] at agrees
      cases agrees
  · rcases holds.2 with isBlank | agrees
    · exact isBlank
    · by_contra given
      rw [(stranger item.matchName (by simp) (by simpa using given)).2] at agrees
      cases agrees

/-- A machine no item speaks of is kept only with its whole VPC. -/
theorem whole_of_kept
    (stranger : ∀ s ∈ entry.itemFields, blank s = false →
      same s machine.id = false ∧ same s machine.name = false)
    (kept : entry.kept same machine = true) : entry.whole same machine = true := by
  simp only [VirtualMachineSelector.kept, Bool.and_eq_true, Bool.or_eq_true,
    List.any_eq_true, Bool.not_eq_true', Bool.and_eq_false_iff] at kept
  obtain ⟨⟨holds, reaches⟩, empty | ⟨item, member, agrees, given⟩⟩ := kept
  · have somewhere : entry.vpcBlank = false := by
      rw [VirtualMachineSelector.reaches, hasItem, List.isEmpty_iff.mp empty] at reaches
      simpa using reaches
    simp [VirtualMachineSelector.whole, holds, reaches, somewhere, empty]
  · have isBlank : item.isBlank = true := isBlank_of_holds (fun s field =>
      stranger s (List.mem_flatMap.mpr ⟨item, member, field⟩)) agrees
    have somewhere : entry.vpcBlank = false := by
      rcases given with somewhere | given
      · exact somewhere
      · rw [isBlank] at given
        cases given
    have blanks : entry.hasBlankItem = true := List.any_eq_true.mpr ⟨item, member, isBlank⟩
    simp [VirtualMachineSelector.whole, holds, reaches, somewhere, blanks]

/-- In a VPC no field speaks of, only entries without a VPC hold. -/
theorem vpcBlank_of_vpcHolds
    (stranger : ∀ s ∈ entry.fields, blank s = false →
      same s machine.vpcID = false ∧ same s machine.vpcName = false)
    (holds : entry.vpcHolds same machine = true) : entry.vpcBlank = true := by
  unfold vpcHolds at holds
  unfold vpcBlank
  cases asked : entry.vpcMatch with
  | none => rfl
  | some vpc =>
    rw [asked] at holds
    refine isBlank_of_holds (fun s field => stranger s ?_) holds
    rw [fields, asked]
    exact List.mem_flatMap.mpr ⟨vpc, List.mem_cons_self, field⟩

theorem vpcBlank_of_losesVpc (loses : entry.losesVpc = true) : entry.vpcBlank = false := by
  simp only [losesVpc, Bool.and_eq_true, Bool.not_eq_true'] at loses
  exact loses.1

theorem whole_cases (whole : entry.whole same machine = true) :
    entry.vpcHolds same machine = true ∧ entry.vpcBlank = false := by
  simp only [VirtualMachineSelector.whole, Bool.and_eq_true, Bool.not_eq_true'] at whole
  exact ⟨whole.1.1.1, whole.1.2⟩

/-- Whether the VPC is the right one does not depend on the machine. -/
theorem vpcHolds_congr {other : Machine} (sameID : other.vpcID = machine.vpcID)
    (sameName : other.vpcName = machine.vpcName) :
    entry.vpcHolds same other = entry.vpcHolds same machine := by
  rw [vpcHolds, vpcHolds, sameID, sameName]

theorem mem_fields_of_mem_itemFields {s : String} (field : s ∈ entry.itemFields) :
    s ∈ entry.fields := by
  rw [fields, List.flatMap_append]
  exact List.mem_append_right _ field

end VirtualMachineSelector

section Agreement

open VirtualMachineSelector

variable {cloud : Cloudscape} {vmSelector : List VirtualMachineSelector}

/-- What the list means when no entry asks for nothing. -/
theorem documented_iff (asks : ∀ entry ∈ vmSelector, entry.selectsAll = false)
    (same : String → String → Bool) (machine : Machine) :
    Documented same vmSelector machine ↔ ∃ entry ∈ vmSelector,
      entry.kept same machine = true ∨ entry.losesAll = true ∨
        (entry.losesVpc = true ∧ entry.vpcHolds same machine = true) := by
  constructor
  · rintro ⟨entry, listed, selects⟩
    exact ⟨entry, listed, (selects_iff (asks entry listed)).mp selects⟩
  · rintro ⟨entry, listed, reason⟩
    exact ⟨entry, listed, (selects_iff (asks entry listed)).mpr reason⟩

/-- A machine that no entry speaks of. -/
theorem exists_unmentioned (cloud : Cloudscape) (vmSelector : List VirtualMachineSelector) :
    ∃ machine, cloud.Valid machine ∧ ∀ entry ∈ vmSelector,
      (entry.vpcHolds cloud.same machine = true → entry.vpcBlank = true) ∧
      entry.kept cloud.same machine = false := by
  obtain ⟨machine, valid, stranger⟩ := cloud.elsewhere (vmSelector.flatMap fields)
  have alone : ∀ entry ∈ vmSelector,
      entry.vpcHolds cloud.same machine = true → entry.vpcBlank = true := by
    intro entry listed
    refine vpcBlank_of_vpcHolds fun s field given => ?_
    obtain ⟨vpcID, vpcName, -, -⟩ :=
      stranger s (List.mem_flatMap.mpr ⟨entry, listed, field⟩) given
    exact ⟨vpcID, vpcName⟩
  refine ⟨machine, valid, fun entry listed => ⟨alone entry listed, ?_⟩⟩
  by_contra kept
  have whole : entry.whole cloud.same machine = true := by
    refine whole_of_kept (fun s field given => ?_) (by simpa using kept)
    exact (stranger s (List.mem_flatMap.mpr
      ⟨entry, listed, mem_fields_of_mem_itemFields field⟩) given).2.2
  obtain ⟨holds, somewhere⟩ := whole_cases whole
  rw [alone entry listed holds] at somewhere
  cases somewhere

/-- A machine that no entry speaks of, in the VPC of another one. -/
theorem exists_unmentioned_beside {machine : Machine} (valid : cloud.Valid machine)
    (vmSelector : List VirtualMachineSelector) :
    ∃ other, cloud.Valid other ∧ ∀ entry ∈ vmSelector,
      entry.vpcHolds cloud.same other = entry.vpcHolds cloud.same machine ∧
      (entry.kept cloud.same other = true → entry.whole cloud.same machine = true) := by
  obtain ⟨other, valid', sameID, sameName, stranger⟩ :=
    cloud.beside machine valid (vmSelector.flatMap itemFields)
  refine ⟨other, valid', fun entry listed => ⟨vpcHolds_congr sameID sameName, fun kept => ?_⟩⟩
  have whole : entry.whole cloud.same other = true := whole_of_kept (fun s field =>
    stranger s (List.mem_flatMap.mpr ⟨entry, listed, field⟩)) kept
  rwa [VirtualMachineSelector.whole, vpcHolds_congr sameID sameName] at whole

theorem kept_iff_documented (asks : ∀ entry ∈ vmSelector, entry.selectsAll = false) :
    (∀ machine, cloud.Valid machine →
      ((∃ entry ∈ vmSelector, entry.kept cloud.same machine = true) ↔
        Documented cloud.same vmSelector machine)) ↔
    (∀ entry ∈ vmSelector, entry.losesAll = false) ∧
      ∀ entry ∈ vmSelector, entry.losesVpc = true → ∀ machine, cloud.Valid machine →
        entry.vpcHolds cloud.same machine = true →
        ∃ other ∈ vmSelector, other.whole cloud.same machine = true := by
  constructor
  · intro agree
    constructor
    · intro entry listed
      by_contra loses
      -- the machine no entry speaks of is asked for by the blank item only
      obtain ⟨machine, valid, alone⟩ := exists_unmentioned cloud vmSelector
      obtain ⟨other, listed', kept⟩ := (agree machine valid).mpr ((documented_iff asks _ _).mpr
        ⟨entry, listed, .inr (.inl (by simpa using loses))⟩)
      rw [(alone other listed').2] at kept
      cases kept
    · intro entry listed loses machine valid holds
      obtain ⟨beside, valid', facts⟩ := exists_unmentioned_beside valid vmSelector
      obtain ⟨other, listed', kept⟩ := (agree beside valid').mpr ((documented_iff asks _ _).mpr
        ⟨entry, listed, .inr (.inr ⟨loses, (facts entry listed).1.trans holds⟩)⟩)
      exact ⟨other, listed', (facts other listed').2 kept⟩
  · rintro ⟨none, covered⟩ machine valid
    rw [documented_iff asks]
    constructor
    · rintro ⟨entry, listed, kept⟩
      exact ⟨entry, listed, .inl kept⟩
    · rintro ⟨entry, listed, kept | loses | ⟨loses, holds⟩⟩
      · exact ⟨entry, listed, kept⟩
      · rw [none entry listed] at loses
        cases loses
      · obtain ⟨other, listed', whole⟩ := covered entry listed loses machine valid holds
        exact ⟨other, listed', kept_of_whole whole⟩

/-- Every machine is asked for only by a blank item; this is for when everything is selected. -/
theorem documented_everywhere_iff (asks : ∀ entry ∈ vmSelector, entry.selectsAll = false) :
    (∀ machine, cloud.Valid machine → Documented cloud.same vmSelector machine) ↔
      ∃ entry ∈ vmSelector, entry.losesAll = true := by
  constructor
  · intro agree
    obtain ⟨machine, valid, alone⟩ := exists_unmentioned cloud vmSelector
    obtain ⟨entry, listed, kept | loses | ⟨loses, holds⟩⟩ :=
      (documented_iff asks _ _).mp (agree machine valid)
    · rw [(alone entry listed).2] at kept
      cases kept
    · exact ⟨entry, listed, loses⟩
    · have somewhere := vpcBlank_of_losesVpc loses
      rw [(alone entry listed).1 holds] at somewhere
      cases somewhere
  · rintro ⟨entry, listed, loses⟩ machine valid
    exact (documented_iff asks _ _).mpr ⟨entry, listed, .inr (.inl loses)⟩

/-- A translation has the documented meaning exactly when it is faithful. -/
theorem translated_iff_faithful (cloud : Cloudscape) (vmSelector : List VirtualMachineSelector) :
    (∀ machine, cloud.Valid machine →
      (Translated cloud.same vmSelector machine ↔ Documented cloud.same vmSelector machine)) ↔
      Faithful cloud vmSelector := by
  by_cases all : ∃ entry ∈ vmSelector, entry.selectsAll = true
  · obtain ⟨entry, listed, selectsAll⟩ := all
    refine iff_of_true (fun machine valid => iff_of_true (.inl ⟨entry, listed, selectsAll⟩) ?_)
      (.inl ⟨entry, listed, selectsAll⟩)
    exact ⟨entry, listed, selects_of_selectsAll selectsAll⟩
  · have asks : ∀ entry ∈ vmSelector, entry.selectsAll = false := fun entry listed => by
      by_contra selectsAll
      exact all ⟨entry, listed, by simpa using selectsAll⟩
    by_cases into : ∃ entry ∈ vmSelector, entry.reaches = true
    · have notOut : ¬ ∀ entry ∈ vmSelector, entry.reaches = false := by
        rintro out
        obtain ⟨entry, listed, reaches⟩ := into
        rw [out entry listed] at reaches
        cases reaches
      simp only [Translated, Faithful, all, into, notOut, false_or, false_and, true_and, or_false]
      exact kept_iff_documented asks
    · have out : ∀ entry ∈ vmSelector, entry.reaches = false := fun entry listed => by
        by_contra reaches
        exact into ⟨entry, listed, by simpa using reaches⟩
      simp only [Translated, Faithful, all, into, false_or, false_and]
      rw [← documented_everywhere_iff asks]
      exact ⟨fun agree => ⟨out, fun machine valid => (agree machine valid).mp (.inl out)⟩,
        fun agree machine valid => iff_of_true (.inl out) (agree.2 machine valid)⟩

end Agreement

end Nephe
