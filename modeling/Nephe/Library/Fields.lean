import Mathlib.Data.Fintype.EquivFin

/-!
# Fields that may be left open

An item with an optional field matches one value, or every value when the field is
absent.  A field is at least as wide as another when it matches whatever the other one
matches.  Among finitely many fields one value tells the wider ones from the rest.
-/

namespace Nephe.Library

variable {α : Type}

/-- The field matches the value: it is absent, or it is this value. -/
def Matches (field : Option α) (value : α) : Prop :=
  ∀ given ∈ field, value = given

/-- The field is at least as wide as the other one. -/
def Wider (field other : Option α) : Prop :=
  field = none ∨ field = other

theorem Wider.matches {field other : Option α} {value : α} (wider : Wider field other)
    (fits : Matches other value) : Matches field value := by
  rcases wider with rfl | rfl
  · rintro _ ⟨⟩
  · exact fits

/-- Some value of a field is matched by the wider ones of the fields only. -/
theorem exists_telling [Infinite α] (field : Option α) (fields : List (Option α)) :
    ∃ value, Matches field value ∧ ∀ other ∈ fields, Matches other value → Wider other field := by
  classical
  cases field with
  | some given =>
    refine ⟨given, fun _ same => (Option.some.inj same).symm ▸ rfl, fun other _ fits => ?_⟩
    cases other with
    | none => exact .inl rfl
    | some found => exact .inr (congrArg some (fits found rfl).symm)
  | none =>
    -- A value that no field of the list has is only matched by an absent one.
    obtain ⟨fresh, notUsed⟩ := Infinite.exists_notMem_finset (fields.filterMap id).toFinset
    refine ⟨fresh, by rintro _ ⟨⟩, fun other member fits => ?_⟩
    cases other with
    | none => exact .inl rfl
    | some found =>
      cases fits found rfl
      have used : fresh ∈ fields.filterMap id := List.mem_filterMap.mpr ⟨_, member, rfl⟩
      exact absurd (List.mem_toFinset.mpr used) notUsed

end Nephe.Library
