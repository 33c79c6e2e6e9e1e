import Mathlib.Algebra.Order.BigOperators.Group.List
import Mathlib.Algebra.Order.Group.Nat
import Mathlib.Algebra.GroupWithZero.Nat
import Nephe.Library.Case

/-!
# Texts

The functions of Go's `strings` that programs compare texts with, on lists of
characters so that they can be evaluated, and texts that differ from given ones.
-/

namespace Nephe.Library

/-! ## Case and beginnings -/

/-- `strings.ToLower`. -/
def toLower (s : String) : String :=
  String.ofList (s.toList.map lowerChar)

/-- `strings.TrimPrefix`. -/
def trimPrefix (s start : String) : String :=
  if start.toList.isPrefixOf s.toList then
    String.ofList (s.toList.drop start.toList.length)
  else s

variable {c : Char} {s : String} {α : Type} {first second : Nat}

theorem toNat_lt_of_isAlphanum (plain : c.isAlphanum = true) : c.toNat < 128 := by
  have ranges : (decide (c.val ≥ 'A'.val ∧ c.val ≤ 'Z'.val) ||
      decide (c.val ≥ 'a'.val) && decide (c.val ≤ 'z'.val) ||
      decide (c.val ≥ '0'.val) && decide (c.val ≤ '9'.val)) = true := plain
  simp only [Bool.or_eq_true, Bool.and_eq_true, decide_eq_true_eq, ge_iff_le,
    UInt32.le_iff_toNat_le] at ranges
  have upper : ('Z'.val.toNat : Nat) = 90 := rfl
  have lower : ('z'.val.toNat : Nat) = 122 := rfl
  have digit : ('9'.val.toNat : Nat) = 57 := rfl
  simp only [Char.toNat]
  omega

theorem isAlphanum_lowerChar (plain : c.isAlphanum = true) : (lowerChar c).isAlphanum = true :=
  forall_ascii (motive := fun c => c.isAlphanum = true → (lowerChar c).isAlphanum = true)
    (by decide +kernel) (toNat_lt_of_isAlphanum plain) plain

theorem toLower_toLower (s : String) : toLower (toLower s) = toLower s := by
  unfold toLower
  rw [String.toList_ofList, List.map_map]
  congr 1
  exact List.map_congr_left fun c _ => lowerChar_idem c

theorem toLower_append (s t : String) : toLower (s ++ t) = toLower s ++ toLower t := by
  unfold toLower
  rw [String.toList_append, List.map_append, String.ofList_append]

theorem trimPrefix_append (start s : String) : trimPrefix (start ++ s) start = s := by
  have starts : start.toList.isPrefixOf (start.toList ++ s.toList) = true := by simp
  rw [trimPrefix, String.toList_append, if_pos starts, List.drop_left, String.ofList_toList]

theorem length_toLower (s : String) : (toLower s).length = s.length := by
  rw [toLower, String.length_ofList, List.length_map, String.length_toList]

theorem toLower_eq_self_iff : toLower s = s ↔ ∀ c ∈ s.toList, lowerChar c = c := by
  rw [toLower, ← String.toList_inj, String.toList_ofList]
  conv_lhs => rw [← s.toList.map_id, List.map_map]
  exact List.map_inj_left

/-! ## Parts between separators -/

theorem mem_of_mem_splitOn [BEq α] {separator x : α} {list part : List α}
    (isPart : part ∈ list.splitOn separator) (member : x ∈ part) : x ∈ list := by
  induction list generalizing part with
  | nil =>
    rw [List.splitOn_nil, List.mem_singleton] at isPart
    rwa [isPart] at member
  | cons first rest induction =>
    rw [List.splitOn_cons_eq_if_modifyHead] at isPart
    split at isPart
    next =>
      rcases List.mem_cons.mp isPart with rfl | later
      · cases member
      · exact List.mem_cons_of_mem _ (induction later member)
    next =>
      cases parts : rest.splitOn separator with
      | nil => exact absurd parts (List.splitOn_ne_nil _ _)
      | cons head tail =>
        rw [parts] at isPart induction
        rcases List.mem_cons.mp isPart with rfl | later
        · rcases List.mem_cons.mp member with rfl | inHead
          · exact List.mem_cons_self
          · exact List.mem_cons_of_mem _ (induction List.mem_cons_self inHead)
        · exact List.mem_cons_of_mem _ (induction (List.mem_cons_of_mem _ later) member)

/-! ## White space -/

/-- `unicode.IsSpace`. -/
def isSpace (c : Char) : Bool :=
  [0x09, 0x0a, 0x0b, 0x0c, 0x0d, 0x20, 0x85, 0xa0, 0x1680, 0x2028, 0x2029, 0x202f, 0x205f,
    0x3000].contains c.toNat || (0x2000 ≤ c.toNat && c.toNat ≤ 0x200a)

/-- `len(strings.TrimSpace(s)) == 0`. -/
def blank (s : String) : Bool :=
  s.toList.all isSpace

/-! ## Numbers -/

theorem toDigits_inj (same : Nat.toDigits 10 first = Nat.toDigits 10 second) : first = second := by
  rw [← Nat.ofDigitChars_ten_toDigits (n := first), same, Nat.ofDigitChars_ten_toDigits]

theorem not_mem_toDigits (other : c.isDigit = false) (number : Nat) :
    c ∉ Nat.toDigits 10 number := by
  intro member
  have digit := Nat.isDigit_of_mem_toDigits (by decide) (by decide) member
  rw [other] at digit
  cases digit

theorem toList_toString_ofNat (number : Nat) :
    (toString (number : Int)).toList = Nat.toDigits 10 number := by
  simp [toString, Int.repr]

theorem toList_toString_negSucc (number : Nat) :
    (toString (Int.negSucc number)).toList = '-' :: Nat.toDigits 10 (number + 1) := by
  simp [toString, Int.repr]

/-- The text of a whole number has only digits in it, and perhaps a sign. -/
theorem toString_ne_of_mem (other : c.isDigit = false) (unsigned : c ≠ '-') (value : Int)
    (member : c ∈ s.toList) : toString value ≠ s := by
  rintro rfl
  cases value with
  | ofNat number =>
    rw [Int.ofNat_eq_natCast, toList_toString_ofNat] at member
    exact not_mem_toDigits other number member
  | negSucc number =>
    rw [toList_toString_negSucc] at member
    rcases List.mem_cons.mp member with sign | digit
    · exact unsigned sign
    · exact not_mem_toDigits other _ digit

theorem toString_int_inj {first second : Int} (same : toString first = toString second) :
    first = second := by
  have text := congrArg String.toList same
  have sign : Char.isDigit '-' = false := by decide
  cases first with
  | ofNat first =>
    rw [Int.ofNat_eq_natCast, toList_toString_ofNat] at text
    cases second with
    | ofNat second =>
      rw [Int.ofNat_eq_natCast, toList_toString_ofNat] at text
      rw [toDigits_inj text]
    | negSucc second =>
      rw [toList_toString_negSucc] at text
      exact absurd (text ▸ List.mem_cons_self) (not_mem_toDigits sign first)
  | negSucc first =>
    rw [toList_toString_negSucc] at text
    cases second with
    | ofNat second =>
      rw [Int.ofNat_eq_natCast, toList_toString_ofNat] at text
      exact absurd (text ▸ List.mem_cons_self) (not_mem_toDigits sign second)
    | negSucc second =>
      rw [toList_toString_negSucc] at text
      rw [Nat.succ.inj (toDigits_inj (List.cons.inj text).2)]

/-- The last separator is where a list is cut. -/
theorem append_cons_inj {separator : α} {first second rest others : List α}
    (absent : separator ∉ rest) (absent' : separator ∉ others) :
    first ++ separator :: rest = second ++ separator :: others ↔
      first = second ∧ rest = others := by
  refine ⟨fun same => ?_, by rintro ⟨rfl, rfl⟩; rfl⟩
  rcases List.append_eq_append_iff.mp same with ⟨between, longer, tails⟩ | ⟨between, longer, tails⟩
  all_goals
    cases between with
    | nil =>
      rw [List.append_nil] at longer
      exact ⟨by rw [longer], by rw [(List.cons.inj tails).2]⟩
    | cons c between =>
      have tail := (List.cons.inj tails).2
      simp [tail] at absent absent'

/-- A name and a number with a hyphen between them can be told from the text. -/
theorem append_hyphen_inj {t : String} :
    s ++ "-" ++ toString first = t ++ "-" ++ toString second ↔ s = t ∧ first = second := by
  have hyphen : Char.isDigit '-' = false := by decide
  rw [← String.toList_inj]
  simp only [String.toList_append, Nat.toString_eq_ofList_toDigits, String.toList_ofList,
    List.append_assoc]
  refine (append_cons_inj (not_mem_toDigits hyphen first)
    (not_mem_toDigits hyphen second)).trans (and_congr String.toList_inj ?_)
  exact ⟨toDigits_inj, congrArg _⟩

/-! ## Other texts -/

/-- A text that is longer than all the given ones. -/
def fresh (used : List String) : String :=
  String.ofList (List.replicate ((used.map String.length).sum + 1) 'a')

theorem length_lt_fresh {used : List String} (member : s ∈ used) :
    s.length < (fresh used).length := by
  have bound : s.length ≤ (used.map String.length).sum :=
    List.le_sum_of_mem (List.mem_map_of_mem member)
  rw [fresh, String.length_ofList, List.length_replicate]
  omega

end Nephe.Library
