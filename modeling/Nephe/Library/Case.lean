import Mathlib.Data.Nat.Init
import Mathlib.Tactic.Common

/-!
# Lower case

`unicode.ToLower` of Go, with the simple case mappings of Unicode 13.
-/

namespace Nephe.Library

/--
The capital letters beyond ASCII, by ranges: the first and the last one, and what the first
one is mapped to.  Where letters alternate with their capitals, so that a letter is mapped to
its successor, only every second character of the range is a capital.
-/
def capitals : List (Nat × Nat × Nat) :=
  [(192, 214, 224), (216, 222, 248), (256, 302, 257), (304, 304, 105), (306, 310, 307),
   (313, 327, 314), (330, 374, 331), (376, 376, 255), (377, 381, 378), (385, 385, 595),
   (386, 388, 387), (390, 390, 596), (391, 391, 392), (393, 394, 598), (395, 395, 396),
   (398, 398, 477), (399, 399, 601), (400, 400, 603), (401, 401, 402), (403, 403, 608),
   (404, 404, 611), (406, 406, 617), (407, 407, 616), (408, 408, 409), (412, 412, 623),
   (413, 413, 626), (415, 415, 629), (416, 420, 417), (422, 422, 640), (423, 423, 424),
   (425, 425, 643), (428, 428, 429), (430, 430, 648), (431, 431, 432), (433, 434, 650),
   (435, 437, 436), (439, 439, 658), (440, 440, 441), (444, 444, 445), (452, 452, 454),
   (453, 453, 454), (455, 455, 457), (456, 456, 457), (458, 458, 460), (459, 475, 460),
   (478, 494, 479), (497, 497, 499), (498, 500, 499), (502, 502, 405), (503, 503, 447),
   (504, 542, 505), (544, 544, 414), (546, 562, 547), (570, 570, 11365), (571, 571, 572),
   (573, 573, 410), (574, 574, 11366), (577, 577, 578), (579, 579, 384), (580, 580, 649),
   (581, 581, 652), (582, 590, 583), (880, 882, 881), (886, 886, 887), (895, 895, 1011),
   (902, 902, 940), (904, 906, 941), (908, 908, 972), (910, 911, 973), (913, 929, 945),
   (931, 939, 963), (975, 975, 983), (984, 1006, 985), (1012, 1012, 952), (1015, 1015, 1016),
   (1017, 1017, 1010), (1018, 1018, 1019), (1021, 1023, 891), (1024, 1039, 1104),
   (1040, 1071, 1072), (1120, 1152, 1121), (1162, 1214, 1163), (1216, 1216, 1231),
   (1217, 1229, 1218), (1232, 1326, 1233), (1329, 1366, 1377), (4256, 4293, 11520),
   (4295, 4295, 11559), (4301, 4301, 11565), (5024, 5103, 43888), (5104, 5109, 5112),
   (7312, 7354, 4304), (7357, 7359, 4349), (7680, 7828, 7681), (7838, 7838, 223),
   (7840, 7934, 7841), (7944, 7951, 7936), (7960, 7965, 7952), (7976, 7983, 7968),
   (7992, 7999, 7984), (8008, 8013, 8000), (8025, 8025, 8017), (8027, 8027, 8019),
   (8029, 8029, 8021), (8031, 8031, 8023), (8040, 8047, 8032), (8072, 8079, 8064),
   (8088, 8095, 8080), (8104, 8111, 8096), (8120, 8121, 8112), (8122, 8123, 8048),
   (8124, 8124, 8115), (8136, 8139, 8050), (8140, 8140, 8131), (8152, 8153, 8144),
   (8154, 8155, 8054), (8168, 8169, 8160), (8170, 8171, 8058), (8172, 8172, 8165),
   (8184, 8185, 8056), (8186, 8187, 8060), (8188, 8188, 8179), (8486, 8486, 969), (8490, 8490, 107),
   (8491, 8491, 229), (8498, 8498, 8526), (8544, 8559, 8560), (8579, 8579, 8580),
   (9398, 9423, 9424), (11264, 11310, 11312), (11360, 11360, 11361), (11362, 11362, 619),
   (11363, 11363, 7549), (11364, 11364, 637), (11367, 11371, 11368), (11373, 11373, 593),
   (11374, 11374, 625), (11375, 11375, 592), (11376, 11376, 594), (11378, 11378, 11379),
   (11381, 11381, 11382), (11390, 11391, 575), (11392, 11490, 11393), (11499, 11501, 11500),
   (11506, 11506, 11507), (42560, 42604, 42561), (42624, 42650, 42625), (42786, 42798, 42787),
   (42802, 42862, 42803), (42873, 42875, 42874), (42877, 42877, 7545), (42878, 42886, 42879),
   (42891, 42891, 42892), (42893, 42893, 613), (42896, 42898, 42897), (42902, 42920, 42903),
   (42922, 42922, 614), (42923, 42923, 604), (42924, 42924, 609), (42925, 42925, 620),
   (42926, 42926, 618), (42928, 42928, 670), (42929, 42929, 647), (42930, 42930, 669),
   (42931, 42931, 43859), (42932, 42942, 42933), (42946, 42946, 42947), (42948, 42948, 42900),
   (42949, 42949, 642), (42950, 42950, 7566), (42951, 42953, 42952), (42997, 42997, 42998),
   (65313, 65338, 65345), (66560, 66599, 66600), (66736, 66771, 66776), (68736, 68786, 68800),
   (71840, 71871, 71872), (93760, 93791, 93792), (125184, 125217, 125218)]

/-- The character is a capital of the range. -/
def isCapital (code : Nat) : Nat × Nat × Nat → Bool
  | (first, last, target) => first.ble code && code.ble last &&
      (!target.beq (first + 1) || ((code - first) % 2).beq 0)

/-- `unicode.ToLower`. -/
def lowerChar (c : Char) : Char :=
  if c.toNat < 128 then c.toLower
  else
    match capitals.find? (isCapital c.toNat) with
    | some range => Char.ofNat (range.2.2 + (c.toNat - range.1))
    | none => c

/-- What holds for the first 128 characters holds for every one of them. -/
theorem forall_ascii {c : Char} {motive : Char → Prop}
    (holds : ∀ n < 128, motive (Char.ofNat n)) (ascii : c.toNat < 128) : motive c :=
  Char.ofNat_toNat c ▸ holds c.toNat ascii

/-- The range is mapped to characters, which are none of the first ones of ASCII. -/
def mapsToCharacters : Nat × Nat × Nat → Bool
  | (first, last, target) => Nat.ble 97 target &&
      ((target + (last - first)).blt 0xd800 ||
        Nat.ble 0xe000 target && (target + (last - first)).blt 0x110000)

/-- No capital of the first range is mapped to one of the second. -/
def apart : Nat × Nat × Nat → Nat × Nat × Nat → Bool
  | (first, last, target), (first', last', target') =>
    (target + (last - first)).blt first' || last'.blt target ||
      (target.beq (first + 1) || first.beq last) && target'.beq (first' + 1) &&
        ((target + first') % 2).beq 1

theorem all_capitals : (capitals.all fun range =>
    mapsToCharacters range && capitals.all (apart range)) = true := by
  decide +kernel

theorem toNat_lowered {range : Nat × Nat × Nat} {code : Nat}
    (maps : mapsToCharacters range = true) (capital : isCapital code range = true) :
    (Char.ofNat (range.2.2 + (code - range.1))).toNat = range.2.2 + (code - range.1) ∧
      97 ≤ range.2.2 := by
  obtain ⟨first, last, target⟩ := range
  simp only [mapsToCharacters, isCapital, Bool.and_eq_true, Bool.or_eq_true, Nat.ble_eq,
    Nat.blt_eq] at maps capital
  refine ⟨?_, maps.1⟩
  have valid : Nat.isValidChar (target + (code - first)) := by
    simp only [Nat.isValidChar]
    omega
  have made : Char.ofNat (target + (code - first)) = Char.ofNatAux _ valid := dif_pos valid
  exact congrArg Char.toNat made

theorem isCapital_lowered {range other : Nat × Nat × Nat} {code : Nat}
    (disjoint : apart range other = true) (capital : isCapital code range = true) :
    isCapital (range.2.2 + (code - range.1)) other = false := by
  obtain ⟨first, last, target⟩ := range
  obtain ⟨first', last', target'⟩ := other
  rw [← Bool.not_eq_true]
  simp only [apart, isCapital, Bool.and_eq_true, Bool.or_eq_true, Bool.not_eq_true',
    ← Bool.not_eq_true, Nat.ble_eq, Nat.blt_eq, Nat.beq_eq] at disjoint capital ⊢
  omega

/-- A character stays as it is, or becomes a letter that stays as it is. -/
theorem lowerChar_cases (c : Char) :
    lowerChar c = c ∨ 97 ≤ (lowerChar c).toNat ∧ lowerChar (lowerChar c) = lowerChar c := by
  by_cases ascii : c.toNat < 128
  · exact forall_ascii (motive := fun c => lowerChar c = c ∨ 97 ≤ (lowerChar c).toNat ∧
      lowerChar (lowerChar c) = lowerChar c) (by decide +kernel) ascii
  cases found : capitals.find? (isCapital c.toNat) with
  | none => exact .inl (by simp only [lowerChar, if_neg ascii, found])
  | some range =>
    have lowered : lowerChar c = Char.ofNat (range.2.2 + (c.toNat - range.1)) := by
      simp only [lowerChar, if_neg ascii, found]
    have capital := List.find?_some found
    have checked := List.all_eq_true.mp all_capitals range (List.mem_of_find?_eq_some found)
    obtain ⟨maps, disjoint⟩ := Bool.and_eq_true_iff.mp checked
    obtain ⟨code, large⟩ := toNat_lowered maps capital
    refine .inr ⟨by rw [lowered, code]; omega, ?_⟩
    rw [lowered]
    generalize Char.ofNat (range.2.2 + (c.toNat - range.1)) = d at code
    by_cases ascii' : d.toNat < 128
    · -- Only the letters i and k of ASCII are reached.
      exact forall_ascii (motive := fun d => 97 ≤ d.toNat → lowerChar d = d)
        (by decide +kernel) ascii' (by omega)
    · have none_ : capitals.find? (isCapital d.toNat) = none :=
        List.find?_eq_none.mpr fun other member => by
          rw [code, isCapital_lowered (List.all_eq_true.mp disjoint other member) capital]
          exact Bool.false_ne_true
      simp only [lowerChar, if_neg ascii', none_]

theorem lowerChar_idem (c : Char) : lowerChar (lowerChar c) = lowerChar c := by
  rcases lowerChar_cases c with same | ⟨_, same⟩
  · rw [same, same]
  · exact same

/-- A character before the letters is not reached from another one. -/
theorem lowerChar_eq_iff {c d : Char} (small : d.toNat < 65) : lowerChar c = d ↔ c = d := by
  constructor
  · rintro rfl
    rcases lowerChar_cases c with same | ⟨large, _⟩
    · exact same.symm
    · omega
  · rintro rfl
    exact forall_ascii (motive := fun c => c.toNat < 65 → lowerChar c = c) (by decide +kernel)
      (by omega) small

end Nephe.Library
