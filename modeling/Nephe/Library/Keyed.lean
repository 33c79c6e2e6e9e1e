import Nephe.Library.GoMap

/-!
# Loops over a map that treat every key on its own

A loop over the bindings of a map whose body changes, of everything that is
looked at, only what belongs to the key at hand.  What the body does to one key
is then what the loop does to it.
-/

namespace Nephe.Library

variable {σ κ α β : Type} (body : σ → κ × α → σ) (view : σ → κ → β) (invariant : σ → Prop)
  (related : κ → α → β → β → Prop)

/-- A visit keeps the invariant, treats the key of its entry and leaves the others alone. -/
def Visits (entry : κ × α) : Prop :=
  ∀ state, invariant state → invariant (body state entry) ∧
    related entry.1 entry.2 (view state entry.1) (view (body state entry) entry.1) ∧
    ∀ key, key ≠ entry.1 → view (body state entry) key = view state key

variable {body view invariant related}

theorem foldl_visits {entries : List (κ × α)} (distinct : (entries.map (·.1)).Nodup)
    (visits : ∀ entry ∈ entries, Visits body view invariant related entry)
    {state : σ} (initially : invariant state) :
    invariant (entries.foldl body state) ∧
      ∀ key, (key ∉ entries.map (·.1) → view (entries.foldl body state) key = view state key) ∧
        ∀ value, (key, value) ∈ entries →
          related key value (view state key) (view (entries.foldl body state) key) := by
  induction entries generalizing state with
  | nil => exact ⟨initially, fun _ => ⟨fun _ => rfl, by simp⟩⟩
  | cons entry rest induction =>
    obtain ⟨fresh, distinct⟩ := List.nodup_cons.mp distinct
    obtain ⟨kept, here, others⟩ := visits entry List.mem_cons_self state initially
    obtain ⟨invariant, later⟩ := induction distinct
      (fun entry member => visits entry (List.mem_cons_of_mem _ member)) kept
    refine ⟨invariant, fun key => ⟨fun absent => ?_, fun value member => ?_⟩⟩
    · rw [List.map_cons, List.mem_cons, not_or] at absent
      exact ((later key).1 absent.2).trans (others key absent.1)
    · rcases List.mem_cons.mp member with rfl | member
      · rw [List.foldl_cons, (later _).1 fresh]
        exact here
      · -- The entry at hand has another key, so it has not touched this one.
        have other : key ≠ entry.1 := by
          rintro rfl
          exact fresh (List.mem_map.mpr ⟨_, member, rfl⟩)
        rw [← others key other]
        exact (later key).2 value member

/-- A loop over a map, in any order. -/
theorem foldl_bindings [DecidableEq κ] (code : Nat) (map : GoMap κ α)
    (visits : ∀ key value, map.get? key = some value →
      Visits body view invariant related (key, value))
    {state : σ} (initially : invariant state) :
    invariant ((arrange code map.bindings).foldl body state) ∧
      ∀ key, (map.get? key = none →
          view ((arrange code map.bindings).foldl body state) key = view state key) ∧
        ∀ value, map.get? key = some value →
          related key value (view state key)
            (view ((arrange code map.bindings).foldl body state) key) := by
  have listed (key : κ) (value : α) :
      (key, value) ∈ arrange code map.bindings ↔ map.get? key = some value := by
    rw [mem_arrange, GoMap.mem_bindings]
  have distinct : ((arrange code map.bindings).map (·.1)).Nodup :=
    ((arrange_perm code map.bindings).map (·.1)).nodup_iff.mpr map.nodup_bindings
  obtain ⟨kept, treated⟩ := foldl_visits distinct
    (fun entry member => visits entry.1 entry.2 ((listed _ _).mp member)) initially
  refine ⟨kept, fun key => ⟨fun absent => (treated key).1 fun there => ?_,
    fun value found => (treated key).2 value ((listed key value).mpr found)⟩⟩
  obtain ⟨entry, member, rfl⟩ := List.mem_map.mp there
  have found := (listed _ _).mp member
  rw [absent] at found
  cases found

end Nephe.Library
