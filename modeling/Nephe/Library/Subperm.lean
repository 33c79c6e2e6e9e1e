import Mathlib.Data.List.Perm.Subperm
import Mathlib.Data.List.Flatten
import Mathlib.Data.List.Dedup

/-!
# Parts of lists up to order

A list that is part of another one up to order, and has the same length, is a
rearrangement of it.  For lists that are put together from pieces the same
holds piece by piece.  For lists that are read as sets it holds when they have as
many repetitions.
-/

namespace Nephe.Library

variable {α β κ : Type}

variable {left left' right right' : List α}

/-- Two parts whose concatenations are rearrangements are rearrangements themselves. -/
theorem perm_of_subperm_append (subLeft : left.Subperm left') (subRight : right.Subperm right')
    (same : (left ++ right).Perm (left' ++ right')) : left.Perm left' ∧ right.Perm right' := by
  have lengths := same.length_eq
  rw [List.length_append, List.length_append] at lengths
  have lengthLeft := subLeft.length_le
  have lengthRight := subRight.length_le
  exact ⟨subLeft.perm_of_length_le (by omega), subRight.perm_of_length_le (by omega)⟩

theorem subperm_append (subLeft : left.Subperm left') (subRight : right.Subperm right') :
    (left ++ right).Subperm (left' ++ right') := by
  obtain ⟨part, permLeft, sublist⟩ := subLeft
  obtain ⟨part', permRight, sublist'⟩ := subRight
  exact ⟨part ++ part', permLeft.append permRight, sublist.append sublist'⟩

theorem subperm_map (f : α → β) (sub : left.Subperm right) :
    (left.map f).Subperm (right.map f) := by
  obtain ⟨part, perm, sublist⟩ := sub
  exact ⟨part.map f, perm.map f, sublist.map f⟩

section

variable {part whole : α → List β} {list : List α}

theorem subperm_flatMap (sub : ∀ element ∈ list, (part element).Subperm (whole element)) :
    (list.flatMap part).Subperm (list.flatMap whole) := by
  induction list with
  | nil => exact List.nil_subperm
  | cons head tail induction =>
    rw [List.flatMap_cons, List.flatMap_cons]
    exact subperm_append (sub head List.mem_cons_self)
      (induction fun element member => sub element (List.mem_cons_of_mem _ member))

/-- Pieces whose concatenations are rearrangements are rearrangements piece by piece. -/
theorem perm_flatMap_iff (sub : ∀ element ∈ list, (part element).Subperm (whole element)) :
    (list.flatMap part).Perm (list.flatMap whole) ↔
      ∀ element ∈ list, (part element).Perm (whole element) := by
  constructor
  · intro same
    induction list with
    | nil => exact fun _ member => absurd member List.not_mem_nil
    | cons head tail induction =>
      have subTail := fun element member => sub element (List.mem_cons_of_mem head member)
      rw [List.flatMap_cons, List.flatMap_cons] at same
      obtain ⟨sameHead, sameTail⟩ :=
        perm_of_subperm_append (sub head List.mem_cons_self) (subperm_flatMap subTail) same
      exact List.forall_mem_cons.mpr ⟨sameHead, induction subTail sameTail⟩
  · intro same
    induction list with
    | nil => exact List.Perm.refl _
    | cons head tail induction =>
      rw [List.flatMap_cons, List.flatMap_cons]
      exact (same head List.mem_cons_self).append
        (induction (fun element member => sub element (List.mem_cons_of_mem _ member))
          fun element member => same element (List.mem_cons_of_mem _ member))

end

/-- Sorting a list by keys rearranges it. -/
theorem flatMap_filter_perm [DecidableEq κ] (key : α → κ) {keys : List κ} (distinct : keys.Nodup)
    {list : List α} (covered : ∀ element ∈ list, key element ∈ keys) :
    (keys.flatMap fun k => list.filter fun element => key element = k).Perm list := by
  induction keys generalizing list with
  | nil =>
    have empty : list = [] :=
      List.eq_nil_iff_forall_not_mem.mpr fun element member =>
        absurd (covered element member) List.not_mem_nil
    rw [empty, List.flatMap_nil]
  | cons head tail induction =>
    obtain ⟨fresh, distinct⟩ := List.nodup_cons.mp distinct
    -- The elements with another key are sorted by the other keys.
    have others : (tail.flatMap fun k => (list.filter fun element => ¬ key element = head).filter
        fun element => key element = k).Perm (list.filter fun element => ¬ key element = head) :=
      induction distinct fun element member => by
        rw [List.mem_filter, decide_eq_true_eq] at member
        exact (List.mem_cons.mp (covered element member.1)).resolve_left member.2
    have same : (tail.flatMap fun k => list.filter fun element => key element = k) =
        tail.flatMap fun k => (list.filter fun element => ¬ key element = head).filter
          fun element => key element = k := by
      refine List.flatMap_congr fun k inTail => ?_
      rw [List.filter_filter]
      refine List.filter_congr fun element _ => ?_
      have different : k ≠ head := fun equal => fresh (equal ▸ inTail)
      by_cases isKey : key element = k <;> simp [isKey, different]
    rw [List.flatMap_cons, same]
    refine (others.append_left _).trans ?_
    have split := List.filter_append_perm (fun element => decide (key element = head)) list
    simpa using split

section

variable [DecidableEq α] {left right : List α}

/-- How many entries of a list are there again. -/
def repetitions (list : List α) : Nat :=
  list.length - list.dedup.length

theorem length_eq_iff_repetitions_eq (same : ∀ element, element ∈ left ↔ element ∈ right) :
    left.length = right.length ↔ repetitions left = repetitions right := by
  have distinct : left.dedup.length = right.dedup.length :=
    ((List.perm_ext_iff_of_nodup left.nodup_dedup right.nodup_dedup).mpr fun element => by
      rw [List.mem_dedup, List.mem_dedup, same element]).length_eq
  have short := left.dedup_sublist.length_le
  have short' := right.dedup_sublist.length_le
  simp only [repetitions]
  omega

/-- Equally long lists with as many repetitions have as many different elements. -/
theorem mem_iff_of_subset (among : left ⊆ right) (equal : left.length = right.length)
    (repeated : repetitions left = repetitions right) (element : α) :
    element ∈ left ↔ element ∈ right := by
  have distinct : left.dedup.Subperm right.dedup := left.nodup_dedup.subperm fun element member =>
    List.mem_dedup.mpr (among (List.mem_dedup.mp member))
  have short := left.dedup_sublist.length_le
  have short' := right.dedup_sublist.length_le
  have perm : left.dedup.Perm right.dedup := distinct.perm_of_length_le (by
    simp only [repetitions] at repeated
    omega)
  rw [← List.mem_dedup, ← List.mem_dedup (l := right), perm.mem_iff]

end

end Nephe.Library
