/-!
# Runs of a step function

All choices of a system are in its labels, so a run is a fold of the step
function over a list of labels.
-/

namespace Nephe.Library

variable {σ ℓ : Type} (step : σ → ℓ → σ)

/-- The state after a list of labels. -/
def run (state : σ) (labels : List ℓ) : σ :=
  labels.foldl step state

/-- Every label is allowed in the state in which it is taken. -/
def Allowed (allowed : σ → ℓ → Prop) : σ → List ℓ → Prop
  | _, [] => True
  | state, label :: rest =>
    allowed state label ∧ Allowed allowed (step state label) rest

instance Allowed.decidable (allowed : σ → ℓ → Prop)
    [∀ state label, Decidable (allowed state label)] :
    (state : σ) → (labels : List ℓ) → Decidable (Allowed step allowed state labels)
  | _, [] => isTrue trivial
  | state, label :: rest =>
    have := Allowed.decidable allowed (step state label) rest
    inferInstanceAs (Decidable (allowed state label ∧ _))

variable {step}

variable {allowed : σ → ℓ → Prop} {state : σ} {labels : List ℓ}

/-- An invariant of every allowed step is an invariant of every allowed run. -/
theorem run_invariant (invariant : σ → Prop) (preserved : ∀ state label, allowed state label →
      invariant state → invariant (step state label))
    (runAllowed : Allowed step allowed state labels) (initially : invariant state) :
    invariant (run step state labels) := by
  induction labels generalizing state with
  | nil => exact initially
  | cons label rest induction =>
    exact induction runAllowed.2
      (preserved state label runAllowed.1 initially)

/-- What no step regains and holds at the end of a run held at its start. -/
theorem initially_of_run (good : σ → Prop)
    (never : ∀ state label, good (step state label) → good state)
    (last : good (run step state labels)) : good state := by
  induction labels generalizing state with
  | nil => exact last
  | cons label rest induction => exact never state label (induction last)

/--
A property that is never regained holds at the end of a run exactly if every step keeps it.
What keeps it may depend on an invariant.
-/
theorem run_iff_allowed {keeps : σ → ℓ → Prop} {good : σ → Prop} (invariant : σ → Prop)
    (preserved : ∀ state label, allowed state label →
      invariant state → invariant (step state label))
    (kept : ∀ state label, allowed state label → invariant state → good state →
      (good (step state label) ↔ keeps state label))
    (never : ∀ state label, good (step state label) → good state)
    (runAllowed : Allowed step allowed state labels) (initially : invariant state)
    (start : good state) : good (run step state labels) ↔ Allowed step keeps state labels := by
  induction labels generalizing state with
  | nil => exact ⟨fun _ => trivial, fun _ => start⟩
  | cons label rest induction =>
    have first := kept state label runAllowed.1 initially start
    have later := induction runAllowed.2 (preserved state label runAllowed.1 initially)
    constructor
    · intro (last : good (run step (step state label) rest))
      have next := initially_of_run good never last
      exact ⟨first.mp next, (later next).mp last⟩
    · rintro ⟨keeps, restKeeps⟩
      exact (later (first.mpr keeps)).mpr restKeeps

/-- Both parts of an allowed run are allowed. -/
theorem Allowed.append {first second : List ℓ}
    (runAllowed : Allowed step allowed state (first ++ second)) :
    Allowed step allowed state first ∧ Allowed step allowed (run step state first) second := by
  induction first generalizing state with
  | nil => exact ⟨trivial, runAllowed⟩
  | cons label rest induction =>
    obtain ⟨before, after⟩ := induction runAllowed.2
    exact ⟨⟨runAllowed.1, before⟩, after⟩

/-- A condition that always holds allows every run. -/
theorem allowed_of_forall (always : ∀ state label, allowed state label) (state : σ)
    (labels : List ℓ) : Allowed step allowed state labels := by
  induction labels generalizing state with
  | nil => trivial
  | cons label rest induction =>
    exact ⟨always state label, induction _⟩

end Nephe.Library
