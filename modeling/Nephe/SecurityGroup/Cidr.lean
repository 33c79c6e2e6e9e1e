import Nephe.SecurityGroup.Types

/-!
# The text of an address block

Go's `net` package writes an IPv4 block as four octets and the length of the
mask, and reads it back with the host bits cleared.  The plug-ins keep blocks in
the cloud in this form.
-/

namespace Nephe

/-! ## Writing -/

/-- One octet of the address, counted from the right. -/
def IPNet.octet (block : IPNet) (index : Nat) : Nat :=
  block.ip.toNat / 256 ^ index % 256

/-- `IPNet.String`. -/
def IPNet.string (block : IPNet) : String :=
  let octet (position : Nat) : String := toString ((block.ip >>> (8 * position)).toNat % 256)
  octet 3 ++ "." ++ octet 2 ++ "." ++ octet 1 ++ "." ++ octet 0 ++ "/" ++
    toString block.ones.val

theorem IPNet.string_eq (block : IPNet) :
    block.string = toString (block.octet 3) ++ "." ++ toString (block.octet 2) ++ "." ++
      toString (block.octet 1) ++ "." ++ toString (block.octet 0) ++ "/" ++
      toString block.ones.val := by
  have shifted (position : Nat) :
      (block.ip >>> (8 * position)).toNat % 256 = block.octet position := by
    rw [IPNet.octet, BitVec.toNat_ushiftRight, Nat.shiftRight_eq_div_pow, Nat.pow_mul]
  simp only [IPNet.string, shifted]

/-! ## Reading -/

/-- The digits in front, and what follows them. -/
def readDigits (chars : List Char) : List Char × List Char :=
  (chars.takeWhile Char.isDigit, chars.dropWhile Char.isDigit)

/-- A number below 256 without leading zeros, followed by a separator. -/
def readOctet (separator : Char) (chars : List Char) : Option (Nat × List Char) :=
  let digits := (readDigits chars).1
  let number := Nat.ofDigitChars 10 digits 0
  match (readDigits chars).2 with
  | [] => none
  | first :: rest =>
    if digits ≠ [] ∧ (digits.head? = some '0' → digits.length = 1) ∧ number < 256 ∧
        first = separator then some (number, rest)
    else none

/-- The address with the host bits cleared. -/
def maskIP (ip : BitVec 32) (ones : Nat) : BitVec 32 :=
  (ip >>> (32 - ones)) <<< (32 - ones)

/-- `net.ParseCIDR`, for IPv4. -/
def parseCIDR (s : String) : Option IPNet := do
  let (first, rest) ← readOctet '.' s.toList
  let (second, rest) ← readOctet '.' rest
  let (third, rest) ← readOctet '.' rest
  let (fourth, rest) ← readOctet '/' rest
  let digits := readDigits rest
  let ones := Nat.ofDigitChars 10 digits.1 0
  if bound : digits.1 ≠ [] ∧ digits.2 = [] ∧ ones < 33 then
    let ip := BitVec.ofNat 32 (first * 256 ^ 3 + second * 256 ^ 2 + third * 256 + fourth)
    some ⟨maskIP ip ones, ⟨ones, bound.2.2⟩⟩
  else none

/-! ## Reading what was written -/

theorem readDigits_toDigits (number : Nat) (rest : List Char)
    (stops : rest.head?.all (fun c => !c.isDigit) = true) :
    readDigits (Nat.toDigits 10 number ++ rest) = (Nat.toDigits 10 number, rest) := by
  have digits : ∀ c ∈ Nat.toDigits 10 number, c.isDigit = true := fun c member =>
    Nat.isDigit_of_mem_toDigits (by decide) (by decide) member
  rw [readDigits, List.takeWhile_append_of_pos digits, List.dropWhile_append_of_pos digits]
  cases rest with
  | nil => simp
  | cons c rest =>
    have other : c.isDigit = false := by simpa using stops
    simp [other]

theorem toDigits_ne_nil (number : Nat) : Nat.toDigits 10 number ≠ [] := by
  intro empty
  have length := Nat.length_toDigits_pos (b := 10) (n := number)
  rw [empty] at length
  simp at length

/-- A written octet has no leading zero. -/
theorem toDigits_head (number : Nat) (bound : number < 256) :
    (Nat.toDigits 10 number).head? = some '0' → (Nat.toDigits 10 number).length = 1 := by
  revert number
  decide +kernel

theorem readOctet_toDigits (number : Nat) (bound : number < 256) {separator : Char}
    (stops : separator.isDigit = false) (rest : List Char) :
    readOctet separator (Nat.toDigits 10 number ++ separator :: rest) = some (number, rest) := by
  have read := readDigits_toDigits number (separator :: rest) (by simp [stops])
  simp only [readOctet, read, Nat.ofDigitChars_ten_toDigits]
  exact if_pos ⟨toDigits_ne_nil number, toDigits_head number bound, bound, trivial⟩

/-- The block has no host bits. -/
def IPNet.Canonical (block : IPNet) : Prop :=
  maskIP block.ip block.ones = block.ip

instance (block : IPNet) : Decidable block.Canonical :=
  inferInstanceAs (Decidable (_ = _))

theorem IPNet.octets (block : IPNet) :
    BitVec.ofNat 32 (block.octet 3 * 256 ^ 3 + block.octet 2 * 256 ^ 2 + block.octet 1 * 256 +
      block.octet 0) = block.ip := by
  apply BitVec.eq_of_toNat_eq
  have bound := block.ip.isLt
  simp only [BitVec.toNat_ofNat, octet]
  omega

/-- A block is read back with its host bits cleared. -/
theorem parseCIDR_string_mask (block : IPNet) :
    parseCIDR block.string = some ⟨maskIP block.ip block.ones, block.ones⟩ := by
  have octet (index : Nat) : block.octet index < 256 := Nat.mod_lt _ (by decide)
  have text : block.string.toList =
      Nat.toDigits 10 (block.octet 3) ++ '.' :: (Nat.toDigits 10 (block.octet 2) ++ '.' ::
        (Nat.toDigits 10 (block.octet 1) ++ '.' :: (Nat.toDigits 10 (block.octet 0) ++ '/' ::
          (Nat.toDigits 10 block.ones.val ++ [])))) := by
    simp [IPNet.string_eq]
  have last := readDigits_toDigits block.ones.val [] rfl
  simp only [parseCIDR, text, Option.bind_eq_bind,
    readOctet_toDigits _ (octet _) (by decide : Char.isDigit '.' = false),
    readOctet_toDigits _ (octet _) (by decide : Char.isDigit '/' = false),
    Option.bind_some, last, Nat.ofDigitChars_ten_toDigits]
  refine (dif_pos ⟨toDigits_ne_nil _, trivial, block.ones.isLt⟩).trans ?_
  rw [block.octets]

/-- A block without host bits is read back as it was written. -/
theorem parseCIDR_string {block : IPNet} (canonical : block.Canonical) :
    parseCIDR block.string = some block := by
  rw [parseCIDR_string_mask, canonical]

theorem maskIP_shift (ip : BitVec 32) (ones : Nat) :
    maskIP ip ones >>> (32 - ones) = ip >>> (32 - ones) := by
  apply BitVec.eq_of_getLsbD_eq
  intro i _
  simp only [maskIP, BitVec.getLsbD_ushiftRight, BitVec.getLsbD_shiftLeft]
  by_cases inside : 32 - ones + i < 32
  · simp [inside]
  · simp [inside, BitVec.getLsbD_of_ge ip _ (Nat.le_of_not_lt inside)]

/-- Clearing the host bits leaves the addresses of a block as they are. -/
theorem IPNet.contains_mask (block : IPNet) (ip : BitVec 32) :
    IPNet.contains ⟨maskIP block.ip block.ones, block.ones⟩ ip = block.contains ip := by
  simp only [IPNet.contains, maskIP_shift]

end Nephe
