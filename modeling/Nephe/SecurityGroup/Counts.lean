import Nephe.SecurityGroup.Merge

/-!
# Counting names

Lists of names are compared by counting one of them up and the other one down
in a map.  A name that has not been counted counts as zero.
-/

namespace Nephe

open Library

/-- How often a name has been counted. -/
def counted (temp : GoMap String Int) (name : String) : Int :=
  (temp.get? name).getD 0

@[simp]
theorem counted_empty (name : String) : counted ∅ name = 0 := rfl

theorem counted_set (temp : GoMap String Int) (key : String) (value : Int) (name : String) :
    counted (temp.set key value) name = if name = key then value else counted temp name := by
  unfold counted
  rw [GoMap.get?_set]
  split <;> rfl

theorem counted_countUp (temp : GoMap String Int) (names : List String) (name : String) :
    counted (countUp temp names) name = counted temp name + names.count name := by
  induction names generalizing temp with
  | nil => simp [countUp]
  | cons head tail induction =>
    have step : countUp temp (head :: tail) =
        countUp (temp.set head (counted temp head + 1)) tail := rfl
    rw [step, induction, counted_set, List.count_cons]
    by_cases same : name = head
    · subst same
      simp
      omega
    · simp [same, Ne.symm same]

theorem counted_countDown (temp : GoMap String Int) (names : List String) (name : String) :
    counted (countDown temp names) name = counted temp name - names.count name := by
  induction names generalizing temp with
  | nil => simp [countDown]
  | cons head tail induction =>
    have step : countDown temp (head :: tail) =
        countDown (temp.set head (counted temp head - 1)) tail := rfl
    rw [step, induction, counted_set, List.count_cons]
    by_cases same : name = head
    · subst same
      simp
      omega
    · simp [same, Ne.symm same]

/-- No value of the map is different from zero when every name counts as zero. -/
theorem any_ne_zero_iff (temp : GoMap String Int) :
    (temp.values.any (· ≠ 0)) = true ↔ ∃ name, counted temp name ≠ 0 := by
  simp only [List.any_eq_true, decide_eq_true_eq]
  constructor
  · rintro ⟨value, member, nonzero⟩
    obtain ⟨name, found⟩ := (temp.mem_values value).mp member
    refine ⟨name, ?_⟩
    rw [counted, found]
    exact nonzero
  · rintro ⟨name, nonzero⟩
    cases found : temp.get? name with
    | none =>
      rw [counted, found] at nonzero
      exact absurd rfl nonzero
    | some value =>
      rw [counted, found] at nonzero
      exact ⟨value, (temp.mem_values value).mpr ⟨name, found⟩, nonzero⟩

/-! ## Differences -/

variable {code : Nat} {temp : GoMap String Int} {name : String}

/-- The names whose count passes a test that zero does not pass. -/
theorem mem_names_counted (test : Int → Bool) (rejects : test 0 = false) :
    name ∈ ((arrange code temp.bindings).filter fun entry => test entry.2).map (·.1) ↔
      test (counted temp name) = true := by
  simp only [List.mem_map, List.mem_filter, mem_arrange, Prod.exists, GoMap.mem_bindings]
  constructor
  · rintro ⟨key, value, ⟨found, passes⟩, rfl⟩
    rw [counted, found]
    exact passes
  · intro passes
    cases found : temp.get? name with
    | none =>
      rw [counted, found] at passes
      exact absurd (rejects.symm.trans passes) (by simp)
    | some value =>
      rw [counted, found] at passes
      exact ⟨name, value, ⟨found, passes⟩, rfl⟩

/-- The removed names are those that are counted above zero. -/
theorem mem_diffCounts_removed : name ∈ (diffCounts code temp).2 ↔ 0 < counted temp name := by
  rw [diffCounts, mem_names_counted (fun count => 0 < count) rfl, decide_eq_true_eq]

/-- A name is removed when it occurs less often than before. -/
theorem mem_diffAppliedToGrp_removed {a b : List String} :
    name ∈ (diffAppliedToGrp code a b).2 ↔ b.count name < a.count name := by
  rw [diffAppliedToGrp, mem_diffCounts_removed, counted_countDown, counted_countUp,
    counted_empty]
  omega

theorem mem_diffAddressGrp_removed {a b : List NetworkPolicyRule} :
    name ∈ (diffAddressGrp code a b).2 ↔
      (b.flatMap NetworkPolicyRule.peerGroups).count name <
        (a.flatMap NetworkPolicyRule.peerGroups).count name := by
  rw [diffAddressGrp, mem_diffCounts_removed, counted_countDown, counted_countUp, counted_empty]
  omega

end Nephe
