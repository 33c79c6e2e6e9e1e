import Nephe.Library.GoMap

/-!
# Sets

A set of a program is a map whose values say nothing; it is read through the
list of its keys, in which no key stands twice.
-/

namespace Nephe.Library

variable {κ : Type}

/-- A finite set of keys. -/
abbrev GoSet (κ : Type) := GoMap κ Unit

namespace GoSet

variable [DecidableEq κ]

/-- Put a key into a set. -/
def add (set : GoSet κ) (key : κ) : GoSet κ :=
  GoMap.set set key ()

/-- Take a key out of a set. -/
def drop (set : GoSet κ) (key : κ) : GoSet κ :=
  GoMap.remove set key

/-- The set of the elements of a list. -/
def ofList (list : List κ) : GoSet κ :=
  list.foldl add ∅

variable {set : GoSet κ} {key other : κ} {list : List κ}

@[simp]
theorem mem_add : other ∈ set.add key ↔ other = key ∨ other ∈ set :=
  AList.mem_insert set

@[simp]
theorem mem_drop : other ∈ set.drop key ↔ other ≠ key ∧ other ∈ set :=
  AList.mem_erase

@[simp]
theorem mem_foldl_add : key ∈ list.foldl add set ↔ key ∈ list ∨ key ∈ set := by
  induction list generalizing set with
  | nil => simp
  | cons head tail induction =>
    rw [List.foldl_cons, induction, mem_add, List.mem_cons]
    tauto

@[simp]
theorem mem_ofList : key ∈ ofList list ↔ key ∈ list := by
  rw [ofList, mem_foldl_add]
  exact or_iff_left (AList.notMem_empty key)

omit [DecidableEq κ] in
theorem keys_eq_nil : set.keys = [] ↔ ∀ key, key ∉ set := by
  rw [List.eq_nil_iff_forall_not_mem]
  rfl

end GoSet

end Nephe.Library
