import Mathlib.Data.List.AList
import Mathlib.Data.List.Perm.Basic
import Mathlib.Data.List.Perm.Subperm
import Mathlib.Data.List.InsertIdx

/-!
# Finite maps and their iteration order

A map of a program is an association list with distinct keys.  The order of
that list carries no meaning: whoever ranges over a map or over an index first
rearranges the elements by a code drawn from a supply.  Every code is a
rearrangement and every rearrangement has a code, so a statement about all
supplies is a statement about all iteration orders.
-/

namespace Nephe.Library

variable {κ α β : Type}

/-! ## Maps -/

/-- A finite map from `κ` to `α`. -/
abbrev GoMap (κ α : Type) := AList (fun _ : κ => α)

namespace GoMap

variable [DecidableEq κ]

/-- The value stored under a key. -/
def get? (map : GoMap κ α) (key : κ) : Option α :=
  AList.lookup key map

/-- Store a value under a key, replacing the previous one. -/
def set (map : GoMap κ α) (key : κ) (value : α) : GoMap κ α :=
  AList.insert key value map

/-- Remove a key. -/
def remove (map : GoMap κ α) (key : κ) : GoMap κ α :=
  AList.erase key map

/-- Replace the value of a key, when the key is present. -/
def adjust (map : GoMap κ α) (key : κ) (change : α → α) : GoMap κ α :=
  match map.get? key with
  | none => map
  | some value => map.set key (change value)

/-- All bindings. -/
def bindings (map : GoMap κ α) : List (κ × α) :=
  map.entries.map fun entry => (entry.1, entry.2)

/-- All values. -/
def values (map : GoMap κ α) : List α :=
  map.entries.map fun entry => entry.2

@[simp]
theorem get?_empty (key : κ) :
    get? (∅ : GoMap κ α) key = none := rfl

@[simp]
theorem get?_set_self
    (map : GoMap κ α) (key : κ) (value : α) :
    (map.set key value).get? key = some value :=
  AList.lookup_insert map

variable {key other : κ} {map : GoMap κ α}

@[simp]
theorem get?_set_of_ne (map : GoMap κ α) (value : α) (different : other ≠ key) :
    (map.set key value).get? other = map.get? other :=
  AList.lookup_insert_ne different

theorem get?_set
    (map : GoMap κ α) (key other : κ) (value : α) :
    (map.set key value).get? other =
      if other = key then some value else map.get? other := by
  split
  next equal => subst equal; simp
  next different => simp [different]

theorem set_set (map : GoMap κ α) (key : κ) (value value' : α) :
    (map.set key value).set key value' = map.set key value' :=
  AList.insert_insert map

@[simp]
theorem get?_remove_self (map : GoMap κ α) (key : κ) :
    (map.remove key).get? key = none :=
  AList.lookup_erase key map

@[simp]
theorem get?_remove_of_ne (map : GoMap κ α) (different : other ≠ key) :
    (map.remove key).get? other = map.get? other :=
  AList.lookup_erase_ne different

theorem get?_remove (map : GoMap κ α) (key other : κ) :
    (map.remove key).get? other =
      if other = key then none else map.get? other := by
  split
  next equal => subst equal; simp
  next different => simp [different]

/-- Removing a key that is absent changes nothing. -/
theorem remove_of_get?_eq_none (absent : map.get? key = none) : map.remove key = map := by
  have missing : key ∉ AList.keys map :=
    fun member => AList.lookup_eq_none.mp absent (AList.mem_keys.mpr member)
  exact AList.ext (List.kerase_of_notMem_keys missing)

theorem get?_adjust
    (map : GoMap κ α) (key other : κ) (change : α → α) :
    (map.adjust key change).get? other =
      if other = key then (map.get? key).map change
      else map.get? other := by
  unfold adjust
  cases found : map.get? key with
  | none =>
    simp only [Option.map_none]
    by_cases equal : other = key
    · rw [if_pos equal, equal, found]
    · rw [if_neg equal]
  | some value =>
    simp only [get?_set, Option.map_some]

@[simp]
theorem mem_bindings
    (map : GoMap κ α) (key : κ) (value : α) :
    (key, value) ∈ map.bindings ↔ map.get? key = some value := by
  have lookup : map.get? key = some value ↔
      (⟨key, value⟩ : Sigma fun _ : κ => α) ∈ map.entries :=
    AList.mem_lookup_iff
  rw [lookup, bindings, List.mem_map]
  constructor
  · rintro ⟨⟨_, _⟩, member, equal⟩
    cases equal
    exact member
  · intro member
    exact ⟨_, member, rfl⟩

omit [DecidableEq κ] in
theorem nodup_bindings (map : GoMap κ α) : (map.bindings.map (·.1)).Nodup := by
  rw [bindings, List.map_map]
  exact map.nodupKeys

theorem bindings_eq_nil : map.bindings = [] ↔ ∀ key, map.get? key = none := by
  constructor
  · intro empty key
    refine Option.eq_none_iff_forall_ne_some.mpr fun value found => ?_
    rw [← mem_bindings, empty] at found
    cases found
  · intro absent
    refine List.eq_nil_iff_forall_not_mem.mpr fun entry member => ?_
    rw [mem_bindings, absent] at member
    cases member

theorem mem_keys (map : GoMap κ α) (key : κ) :
    key ∈ map.bindings.map (·.1) ↔ map.get? key ≠ none := by
  simp only [List.mem_map, Prod.exists, mem_bindings, exists_and_right, exists_eq_right,
    Option.ne_none_iff_exists']

/-- Maps with as many keys that agree wherever the first one has a key agree everywhere. -/
theorem agree_iff (view : α → β) {left right : GoMap κ α} :
    (left.bindings.length = right.bindings.length ∧
        ∀ key value, left.get? key = some value →
          (right.get? key).map view = some (view value)) ↔
      ∀ key, (left.get? key).map view = (right.get? key).map view := by
  constructor
  · rintro ⟨equal, among⟩ key
    have subset : left.bindings.map (·.1) ⊆ right.bindings.map (·.1) := by
      intro key member
      rw [mem_keys] at member ⊢
      obtain ⟨value, found⟩ := Option.ne_none_iff_exists'.mp member
      intro absent
      simpa [absent] using among key value found
    have perm := (left.nodup_bindings.subperm subset).perm_of_length_le (by simp [equal])
    cases found : left.get? key with
    | some value => exact (among key value found).symm
    | none =>
      have absent : key ∉ right.bindings.map (·.1) := by
        rw [← perm.mem_iff, mem_keys, found]
        exact not_not.mpr rfl
      rw [mem_keys, not_not] at absent
      rw [absent]
  · intro same
    have perm : (left.bindings.map (·.1)).Perm (right.bindings.map (·.1)) := by
      refine (List.perm_ext_iff_of_nodup left.nodup_bindings right.nodup_bindings).mpr
        fun key => ?_
      rw [mem_keys, mem_keys, not_iff_not, ← Option.map_eq_none_iff (f := view), same key,
        Option.map_eq_none_iff]
    refine ⟨by simpa using perm.length_eq, fun key value found => ?_⟩
    rw [← same key, found, Option.map_some]

theorem mem_values (map : GoMap κ α) (value : α) :
    value ∈ map.values ↔ ∃ key, map.get? key = some value := by
  constructor
  · intro member
    obtain ⟨⟨key, stored⟩, present, rfl⟩ := List.mem_map.mp member
    exact ⟨key, AList.mem_lookup_iff.mpr present⟩
  · rintro ⟨key, found⟩
    exact List.mem_map.mpr ⟨_, AList.mem_lookup_iff.mp found, rfl⟩

/-- A map that sends every key to itself has no value twice. -/
theorem nodup_values {map : GoMap κ κ} (fixed : ∀ key value, map.get? key = some value →
    key = value) : map.values.Nodup := by
  have same : map.values = map.entries.map fun entry => entry.1 := by
    refine List.map_congr_left fun entry member => ?_
    exact (fixed entry.1 entry.2 (AList.mem_lookup_iff.mpr member)).symm
  rw [same]
  exact map.nodupKeys

/-! ## Writing a list -/

section

variable (key : β → κ) (value : β → α)

variable {list : List β} {map : GoMap κ α} {k : κ}

/-- Writing elements under other keys leaves a key alone. -/
theorem get?_foldl_set_of_not_mem (absent : k ∉ list.map key) :
    (list.foldl (fun map element => map.set (key element) (value element)) map).get? k =
      map.get? k := by
  induction list generalizing map with
  | nil => rfl
  | cons head tail induction =>
    simp only [List.map_cons, List.mem_cons, not_or] at absent
    rw [List.foldl_cons, induction absent.2, get?_set, if_neg absent.1]

/-- Writing elements leaves one of them under each of their keys. -/
theorem get?_foldl_set_of_mem (present : k ∈ list.map key) :
    ∃ element ∈ list, key element = k ∧
      (list.foldl (fun map element => map.set (key element) (value element)) map).get? k =
        some (value element) := by
  induction list generalizing map with
  | nil => cases present
  | cons head tail induction =>
    rw [List.foldl_cons]
    by_cases later : k ∈ tail.map key
    · obtain ⟨element, member, same, found⟩ := induction later
      exact ⟨element, List.mem_cons_of_mem _ member, same, found⟩
    · have here : k = key head := by
        rcases List.mem_cons.mp (List.map_cons .. ▸ present) with here | inTail
        · exact here
        · exact absurd inTail later
      refine ⟨head, List.mem_cons_self, here.symm, ?_⟩
      rw [get?_foldl_set_of_not_mem key value later, here, get?_set_self]

/-- Of the elements written under a key the last one stays. -/
theorem get?_foldl_set (list : List β) (map : GoMap κ α) (k : κ) :
    (list.foldl (fun map element => map.set (key element) (value element)) map).get? k =
      ((list.reverse.find? fun element => key element = k).map value).or (map.get? k) := by
  induction list generalizing map with
  | nil => rfl
  | cons head tail induction =>
    rw [List.foldl_cons, induction, List.reverse_cons, List.find?_append, get?_set]
    cases tail.reverse.find? fun element => key element = k with
    | some element => rfl
    | none =>
      by_cases here : k = key head
      · simp [here]
      · simp [here, Ne.symm here]

theorem get?_foldl_remove (list : List β) (map : GoMap κ α) (k : κ) :
    (list.foldl (fun map element => map.remove (key element)) map).get? k =
      if k ∈ list.map key then none else map.get? k := by
  induction list generalizing map with
  | nil => rfl
  | cons head tail induction =>
    rw [List.foldl_cons, induction, get?_remove]
    by_cases here : k = key head
    · simp [here]
    · simp [here]

end

end GoMap

/-! ## Iteration order -/

/-- Rearrange a list; the code says where each head goes. -/
def arrange : Nat → List α → List α
  | _, [] => []
  | code, head :: tail =>
    (arrange (code / (tail.length + 1)) tail).insertIdx
      (code % (tail.length + 1)) head

@[simp]
theorem length_arrange (code : Nat) (list : List α) :
    (arrange code list).length = list.length := by
  induction list generalizing code with
  | nil => rfl
  | cons head tail induction =>
    have bound : code % (tail.length + 1) ≤ tail.length :=
      Nat.lt_succ_iff.mp (Nat.mod_lt _ (Nat.succ_pos _))
    rw [arrange, List.length_insertIdx_of_le_length (by rw [induction]; exact bound),
      induction, List.length_cons]

theorem arrange_perm (code : Nat) (list : List α) :
    (arrange code list).Perm list := by
  induction list generalizing code with
  | nil => exact List.Perm.refl _
  | cons head tail induction =>
    have bound : code % (tail.length + 1) ≤
        (arrange (code / (tail.length + 1)) tail).length := by
      rw [length_arrange]
      exact Nat.lt_succ_iff.mp (Nat.mod_lt _ (Nat.succ_pos _))
    exact (List.perm_insertIdx head _ bound).trans
      ((induction _).cons head)

@[simp]
theorem mem_arrange
    (code : Nat) (list : List α) (element : α) :
    element ∈ arrange code list ↔ element ∈ list :=
  (arrange_perm code list).mem_iff

@[simp]
theorem arrange_eq_nil (code : Nat) (list : List α) :
    arrange code list = [] ↔ list = [] := by
  constructor
  · intro empty
    apply List.eq_nil_of_length_eq_zero
    rw [← length_arrange code, empty, List.length_nil]
  · rintro rfl
    rfl

/-- An endless supply of codes. -/
abbrev Supply := Nat → Nat

namespace Supply

/-- What is left after one code is drawn. -/
def tail (supply : Supply) : Supply :=
  fun index => supply (index + 1)

/-- The half of a supply that a called function may use up. -/
def left (supply : Supply) : Supply :=
  fun index => supply (2 * index)

/-- The half of a supply that the caller keeps. -/
def right (supply : Supply) : Supply :=
  fun index => supply (2 * index + 1)

end Supply

end Nephe.Library
