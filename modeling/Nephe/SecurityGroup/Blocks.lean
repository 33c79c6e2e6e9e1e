import Mathlib.Data.Set.Lattice
import Mathlib.Order.CompletePartialOrder
import Nephe.SecurityGroup.Cidr
import Nephe.SecurityGroup.Merge

/-!
# Address blocks

Two blocks are nested or disjoint.  Of the blocks that hold an address,
`deduplicateIP` keeps one of the widest, so that what it returns covers the
addresses of its input without overlaps.
-/

namespace Nephe

open Library

/-! ## Nested blocks -/

namespace IPNet

/-- A block that contains the address of a smaller block contains the whole block. -/
theorem contains_trans {large small : IPNet} (wider : large.ones ≤ small.ones)
    (inside : large.contains small.ip = true) {ip : BitVec 32}
    (member : small.contains ip = true) : large.contains ip = true := by
  simp only [contains, beq_iff_eq] at inside member ⊢
  have bound : small.ones.val ≤ 32 := Nat.le_of_lt_succ small.ones.isLt
  have wider : large.ones.val ≤ small.ones.val := wider
  have shift : 32 - large.ones.val =
      (32 - small.ones.val) + (small.ones.val - large.ones.val) := by omega
  rw [inside, shift, BitVec.shiftRight_add, BitVec.shiftRight_add, member]

/-- Of two blocks with a common address the wider one contains the other. -/
theorem contains_of_common {large small : IPNet} (wider : large.ones ≤ small.ones)
    {ip : BitVec 32} (inLarge : large.contains ip = true) (inSmall : small.contains ip = true) :
    large.contains small.ip = true := by
  let moved : IPNet := ⟨ip, small.ones⟩
  have inside : moved.contains small.ip = true := by
    simp only [contains, beq_iff_eq] at inSmall ⊢
    exact inSmall.symm
  have wider : large.ones ≤ moved.ones := wider
  exact contains_trans wider inLarge inside

theorem contains_self (block : IPNet) : block.contains block.ip = true := by
  simp [contains]

/-- The addresses of a block. -/
def addresses (block : IPNet) : Set (BitVec 32) :=
  {ip | block.contains ip = true}

/-- A block that lies in another one is not the wider of the two. -/
theorem ones_le_of_subset {large small : IPNet} (inside : small.addresses ⊆ large.addresses) :
    large.ones ≤ small.ones := by
  by_contra narrower
  have narrower : small.ones.val < large.ones.val := not_le.mp narrower
  have bound : large.ones.val ≤ 32 := Nat.le_of_lt_succ large.ones.isLt
  -- The lowest bit that counts for the larger block is free in the smaller one.
  let bit := 32 - large.ones.val
  let other := small.ip ^^^ BitVec.twoPow 32 bit
  have inSmall : small.contains other = true := by
    simp only [contains, beq_iff_eq]
    apply BitVec.eq_of_getLsbD_eq
    intro i _
    have apart : ¬ (bit = 32 - small.ones.val + i) := by omega
    simp [other, BitVec.getLsbD_ushiftRight, BitVec.getLsbD_twoPow, apart]
  have first : large.contains small.ip = true := inside small.contains_self
  have second : large.contains other = true := inside inSmall
  simp only [contains, beq_iff_eq] at first second
  have same := congrArg (fun word : BitVec 32 => word.getLsbD 0) (first.symm.trans second)
  simp only [BitVec.getLsbD_ushiftRight, Nat.add_zero, other, BitVec.getLsbD_xor,
    BitVec.getLsbD_twoPow] at same
  have low : bit < 32 := by omega
  simp [bit, low] at same

/-- Blocks without host bits are told apart by their addresses. -/
theorem eq_of_contains {first second : IPNet} (canonical : first.Canonical)
    (canonical' : second.Canonical) (same : first.ones = second.ones)
    (inside : first.contains second.ip = true) : first = second := by
  have agree : first.ip >>> (32 - first.ones.val) = second.ip >>> (32 - second.ones.val) := by
    rw [← same]
    simpa only [contains, beq_iff_eq] using inside
  have ips : first.ip = second.ip := by
    rw [← canonical, ← canonical', maskIP, maskIP, agree, same]
  cases first
  cases second
  simp_all

end IPNet

/-- The block that `overlap` returns lies in the other one. -/
theorem overlap_cases {first second smaller : IPNet}
    (found : overlap first second = some smaller) :
    (smaller = second ∧ first.ones < second.ones ∧ first.contains second.ip = true) ∨
      (smaller = first ∧ second.ones ≤ first.ones ∧ second.contains first.ip = true) := by
  unfold overlap at found
  split at found
  next less =>
    split at found
    next inside => exact .inl ⟨(Option.some.inj found).symm, less, inside⟩
    next => cases found
  next notLess =>
    split at found
    next inside => exact .inr ⟨(Option.some.inj found).symm, not_lt.mp notLess, inside⟩
    next => cases found

theorem mem_pairsInOrder {blocks : List IPNet} {pair : IPNet × IPNet}
    (member : pair ∈ pairsInOrder blocks) : pair.1 ∈ blocks ∧ pair.2 ∈ blocks := by
  induction blocks with
  | nil => cases member
  | cons head tail induction =>
    rcases List.mem_append.mp member with here | later
    · obtain ⟨second, inTail, rfl⟩ := List.mem_map.mp here
      exact ⟨List.mem_cons_self, List.mem_cons_of_mem _ inTail⟩
    · obtain ⟨first, second⟩ := induction later
      exact ⟨List.mem_cons_of_mem _ first, List.mem_cons_of_mem _ second⟩

/-- No comparison of two blocks of the list drops the block. -/
def Kept (blocks : List IPNet) (block : IPNet) : Prop :=
  ∀ pair ∈ pairsInOrder blocks, overlap pair.1 pair.2 ≠ some block

theorem Kept.head {head : IPNet} {tail : List IPNet} (fresh : head ∉ tail)
    (widest : ∀ second ∈ tail, second.contains head.ip = true → head.ones < second.ones) :
    Kept (head :: tail) head := by
  intro pair inPairs dropped
  rcases List.mem_append.mp inPairs with here | inTail
  · obtain ⟨second, inTail, rfl⟩ := List.mem_map.mp here
    rcases overlap_cases dropped with ⟨rfl, _⟩ | ⟨_, notNarrower, inside⟩
    · exact fresh inTail
    · exact absurd (widest second inTail inside) (not_lt.mpr notNarrower)
  · obtain ⟨first, second⟩ := mem_pairsInOrder inTail
    rcases overlap_cases dropped with ⟨rfl, _⟩ | ⟨rfl, _⟩
    · exact fresh second
    · exact fresh first

theorem Kept.cons {head block : IPNet} {tail : List IPNet} (fresh : head ∉ tail)
    (member : block ∈ tail) (kept : Kept tail block)
    (outside : head.ones < block.ones → head.contains block.ip = false) :
    Kept (head :: tail) block := by
  intro pair inPairs dropped
  rcases List.mem_append.mp inPairs with here | inTail
  · obtain ⟨second, inTail, rfl⟩ := List.mem_map.mp here
    rcases overlap_cases dropped with ⟨rfl, less, inside⟩ | ⟨rfl, _⟩
    · exact absurd (inside.symm.trans (outside less)) (by simp)
    · exact fresh member
  · exact kept pair inTail dropped

/--
An address in some block is in a block that is kept.

The widest block with the address is kept, and of several such blocks the last.
-/
theorem exists_kept {blocks : List IPNet} (distinct : blocks.Nodup) {ip : BitVec 32}
    (covered : ∃ block ∈ blocks, block.contains ip = true) :
    ∃ block ∈ blocks, block.contains ip = true ∧ Kept blocks block ∧
      ∀ other ∈ blocks, other.contains ip = true → block.ones ≤ other.ones := by
  induction blocks with
  | nil =>
    obtain ⟨_, member, _⟩ := covered
    cases member
  | cons head tail induction =>
    obtain ⟨fresh, distinct⟩ := List.nodup_cons.mp distinct
    -- The head is the widest, or the widest block of the tail stays the widest.
    by_cases best : head.contains ip = true ∧
        ∀ other ∈ tail, other.contains ip = true → head.ones < other.ones
    · obtain ⟨contains, widest⟩ := best
      refine ⟨head, List.mem_cons_self, contains, .head fresh fun second inTail inside => ?_,
        List.forall_mem_cons.mpr ⟨fun _ => le_refl _, fun other inTail there =>
          (widest other inTail there).le⟩⟩
      by_contra notWider
      exact notWider (widest second inTail
        (IPNet.contains_trans (not_lt.mp notWider) inside contains))
    · have later : ∃ block ∈ tail, block.contains ip = true := by
        obtain ⟨block, inList, contains⟩ := covered
        rcases List.mem_cons.mp inList with rfl | inTail
        · by_contra none_
          exact best ⟨contains, fun other inTail there =>
            absurd ⟨other, inTail, there⟩ none_⟩
        · exact ⟨block, inTail, contains⟩
      obtain ⟨block, member, contains, kept, widest⟩ := induction distinct later
      have notWider : head.contains ip = true → block.ones ≤ head.ones := by
        intro there
        by_contra wider
        exact best ⟨there, fun other inTail there' =>
          (not_le.mp wider).trans_le (widest other inTail there')⟩
      refine ⟨block, List.mem_cons_of_mem _ member, contains, kept.cons fresh member ?_,
        List.forall_mem_cons.mpr ⟨notWider, widest⟩⟩
      intro less
      by_contra inside
      exact absurd (notWider (IPNet.contains_trans less.le (by simpa using inside) contains))
        (not_le.mpr less)

/-- The distinct blocks of a list, as the first loop of `deduplicateIP` finds them. -/
theorem distinct_loop (list : List IPNet) (seen : List IPNet) (existing : GoMap IPNet IPNet)
    (distinct : seen.Nodup)
    (stored : ∀ block, existing.get? block = if block ∈ seen then some block else none) :
    ∃ blocks : List IPNet, ∃ existing' : GoMap IPNet IPNet,
      list.foldl
        (fun (state : List IPNet × GoMap IPNet IPNet) ip =>
          if (state.2.get? ip).isSome then state
          else (state.1 ++ [ip], state.2.set ip ip)) (seen, existing) = (blocks, existing') ∧
      blocks.Nodup ∧ (∀ block, block ∈ blocks ↔ block ∈ seen ∨ block ∈ list) ∧
      (∀ block, existing'.get? block = if block ∈ blocks then some block else none) ∧
      ((seen ++ list).Nodup → blocks = seen ++ list) := by
  induction list generalizing seen existing with
  | nil => exact ⟨seen, existing, rfl, distinct, by simp, stored, by simp⟩
  | cons head tail induction =>
    rw [List.foldl_cons]
    by_cases old : head ∈ seen
    · have isSome : (existing.get? head).isSome = true := by simp [stored, old]
      obtain ⟨blocks, existing', same, distinct', members, stored', unchanged⟩ :=
        induction seen existing distinct stored
      refine ⟨blocks, existing', ?_, distinct', fun block => ?_, stored', fun nodup => ?_⟩
      · simpa only [isSome, if_true] using same
      · rw [members block, List.mem_cons]
        constructor
        · rintro (inSeen | inTail)
          · exact .inl inSeen
          · exact .inr (.inr inTail)
        · rintro (inSeen | rfl | inTail)
          · exact .inl inSeen
          · exact .inl old
          · exact .inr inTail
      · exact absurd old fun inSeen =>
          (List.nodup_append.mp nodup).2.2 head inSeen head List.mem_cons_self rfl
    · have isNone : (existing.get? head).isSome = false := by simp [stored, old]
      obtain ⟨blocks, existing', same, distinct', members, stored', unchanged⟩ :=
        induction (seen ++ [head]) (existing.set head head)
          (List.nodup_append.mpr ⟨distinct, List.nodup_singleton head, by
            intro a inSeen b isHead
            rw [List.mem_singleton.mp isHead]
            rintro rfl
            exact old inSeen⟩)
          (fun block => by
            rw [GoMap.get?_set, stored block]
            by_cases same : block = head
            · simp [same]
            · simp [same])
      refine ⟨blocks, existing', ?_, distinct', fun block => ?_, stored', fun nodup => ?_⟩
      · simpa only [isNone, Bool.false_eq_true, if_false] using same
      · rw [members block, List.mem_append, List.mem_singleton, List.mem_cons, or_assoc]
      · rw [unchanged (by simpa using nodup)]
        simp

/-- What the second loop of `deduplicateIP` leaves. -/
theorem get?_dropPairs (pairs : List (IPNet × IPNet)) (existing : GoMap IPNet IPNet)
    (block : IPNet) :
    (pairs.foldl
      (fun existing pair =>
        match overlap pair.1 pair.2 with
        | some smallerIP => existing.remove smallerIP
        | none => existing) existing).get? block =
      if ∃ pair ∈ pairs, overlap pair.1 pair.2 = some block then none
      else existing.get? block := by
  induction pairs generalizing existing with
  | nil => simp
  | cons head tail induction =>
    rw [List.foldl_cons, induction]
    by_cases later : ∃ pair ∈ tail, overlap pair.1 pair.2 = some block
    · rw [if_pos later, if_pos]
      obtain ⟨pair, inTail, dropped⟩ := later
      exact ⟨pair, List.mem_cons_of_mem _ inTail, dropped⟩
    · rw [if_neg later]
      cases here : overlap head.1 head.2 with
      | none => simp [here, later]
      | some smaller =>
        simp only [List.mem_cons, exists_eq_or_imp, here, later, or_false,
          GoMap.get?_remove, Option.some.injEq]
        simp only [eq_comm]

/-- `deduplicateIP` returns the kept ones of the distinct blocks, each once. -/
theorem deduplicateIP_spec (code : Nat) (inputIP : List IPNet) :
    ∃ blocks : List IPNet, blocks.Nodup ∧ (∀ block, block ∈ blocks ↔ block ∈ inputIP) ∧
      (∀ block, block ∈ deduplicateIP code inputIP ↔ block ∈ blocks ∧ Kept blocks block) ∧
      (deduplicateIP code inputIP).Nodup ∧ (inputIP.Nodup → blocks = inputIP) := by
  obtain ⟨blocks, existing, loop, distinct, members, stored, unchanged⟩ :=
    distinct_loop inputIP [] ∅ List.nodup_nil (fun block => by simp)
  have left (block : IPNet) := get?_dropPairs (pairsInOrder blocks) existing block
  have found_iff (key block : IPNet) : (if ∃ pair ∈ pairsInOrder blocks,
        overlap pair.1 pair.2 = some key then none else existing.get? key) = some block ↔
      key = block ∧ key ∈ blocks ∧ Kept blocks key := by
    rw [stored]
    constructor
    · intro found
      split at found
      next => cases found
      next kept =>
        split at found
        next member =>
          exact ⟨Option.some.inj found, member, fun pair inPairs dropped =>
            kept ⟨pair, inPairs, dropped⟩⟩
        next => cases found
    · rintro ⟨rfl, member, kept⟩
      rw [if_neg, if_pos member]
      rintro ⟨pair, inPairs, dropped⟩
      exact kept pair inPairs dropped
  refine ⟨blocks, distinct, fun block => by simp [members block], fun block => ?_, ?_,
    by simpa using unchanged⟩
  · simp only [deduplicateIP, loop, mem_arrange, GoMap.mem_values]
    constructor
    · rintro ⟨key, found⟩
      obtain ⟨rfl, kept⟩ := (found_iff key block).mp ((left key).symm.trans found)
      exact kept
    · exact fun kept => ⟨block, (left block).trans ((found_iff block block).mpr ⟨rfl, kept⟩)⟩
  · simp only [deduplicateIP, loop]
    rw [(arrange_perm _ _).nodup_iff]
    exact GoMap.nodup_values fun key value found =>
      ((found_iff key value).mp ((left key).symm.trans found)).1

/-- Dropping blocks that lie in others keeps the addresses. -/
theorem contains_deduplicateIP (code : Nat) (inputIP : List IPNet) (ip : BitVec 32) :
    (∃ block ∈ deduplicateIP code inputIP, block.contains ip = true) ↔
      ∃ block ∈ inputIP, block.contains ip = true := by
  obtain ⟨blocks, distinct, members, output, _⟩ := deduplicateIP_spec code inputIP
  constructor
  · rintro ⟨block, inOutput, contains⟩
    exact ⟨block, (members block).mp ((output block).mp inOutput).1, contains⟩
  · rintro ⟨block, inInput, contains⟩
    obtain ⟨wide, member, contains, kept, _⟩ :=
      exists_kept distinct ⟨block, (members block).mpr inInput, contains⟩
    exact ⟨wide, (output wide).mpr ⟨member, kept⟩, contains⟩

/-- Every pair of a list of blocks is compared. -/
theorem pairwise_iff_pairsInOrder {blocks : List IPNet} {relation : IPNet → IPNet → Prop} :
    blocks.Pairwise relation ↔ ∀ pair ∈ pairsInOrder blocks, relation pair.1 pair.2 := by
  induction blocks with
  | nil => simp [pairsInOrder]
  | cons head tail induction =>
    simp only [List.pairwise_cons, pairsInOrder, List.forall_mem_append, List.forall_mem_map,
      induction]

theorem overlap_self (block : IPNet) : overlap block block = some block := by
  simp [overlap, IPNet.contains]

/-! ## The blocks that are left -/

/-- The addresses in the blocks of a list. -/
def covered (blocks : List IPNet) : Set (BitVec 32) :=
  {ip | ∃ block ∈ blocks, ip ∈ block.addresses}

/-- The block lies in no other block of the list. -/
def Widest (blocks : List IPNet) (block : IPNet) : Prop :=
  block ∈ blocks ∧ ∀ other ∈ blocks, block.addresses ⊆ other.addresses → other = block

theorem disjoint_of_overlap_eq_none {first second : IPNet} (apart : overlap first second = none) :
    Disjoint first.addresses second.addresses := by
  refine Set.disjoint_left.mpr fun ip inFirst inSecond => ?_
  unfold overlap at apart
  split at apart
  next less => simp [IPNet.contains_of_common less.le inFirst inSecond] at apart
  next notLess => simp [IPNet.contains_of_common (not_lt.mp notLess) inSecond inFirst] at apart

/-- Two blocks that are kept are disjoint. -/
theorem Kept.disjoint {blocks : List IPNet} {first second : IPNet} (inList : first ∈ blocks)
    (inList' : second ∈ blocks) (kept : Kept blocks first) (kept' : Kept blocks second)
    (different : first ≠ second) : Disjoint first.addresses second.addresses := by
  let Apart (block other : IPNet) : Prop :=
    Kept blocks block → Kept blocks other → Disjoint block.addresses other.addresses
  have symmetric : Std.Symm Apart := ⟨fun _ _ holds kept kept' => (holds kept' kept).symm⟩
  have apart : blocks.Pairwise Apart := by
    refine pairwise_iff_pairsInOrder.mpr fun pair inPairs kept kept' => ?_
    cases found : overlap pair.1 pair.2 with
    | none => exact disjoint_of_overlap_eq_none found
    | some smaller =>
      rcases overlap_cases found with ⟨rfl, _⟩ | ⟨rfl, _⟩
      · exact absurd found (kept' pair inPairs)
      · exact absurd found (kept pair inPairs)
  exact apart.forall inList inList' different kept kept'

/-- Of blocks without host bits, those are kept that lie in no other one. -/
theorem kept_iff_widest {blocks : List IPNet} (distinct : blocks.Nodup)
    (canonical : ∀ block ∈ blocks, block.Canonical) {block : IPNet} :
    block ∈ blocks ∧ Kept blocks block ↔ Widest blocks block := by
  constructor
  · rintro ⟨inList, kept⟩
    refine ⟨inList, fun other inList' inside => ?_⟩
    obtain ⟨wide, inList'', contains, kept', widest⟩ :=
      exists_kept distinct ⟨block, inList, block.contains_self⟩
    -- The widest block with the address is the block itself.
    have same : wide = block := by
      by_contra different
      exact Set.disjoint_left.mp (Kept.disjoint inList'' inList kept' kept different) contains
        block.contains_self
    subst same
    have there : other.contains wide.ip = true := inside wide.contains_self
    exact IPNet.eq_of_contains (canonical other inList') (canonical wide inList)
      (le_antisymm (IPNet.ones_le_of_subset inside) (widest other inList' there)) there
  · rintro ⟨inList, maximal⟩
    obtain ⟨wide, inList', contains, kept, widest⟩ :=
      exists_kept distinct ⟨block, inList, block.contains_self⟩
    have same : wide = block := maximal wide inList' fun ip inside =>
      IPNet.contains_trans (widest block inList block.contains_self) contains inside
    exact ⟨inList, same ▸ kept⟩

theorem mem_deduplicateIP_of_canonical (code : Nat) {inputIP : List IPNet}
    (canonical : ∀ block ∈ inputIP, block.Canonical) (block : IPNet) :
    block ∈ deduplicateIP code inputIP ↔ Widest inputIP block := by
  obtain ⟨blocks, distinct, members, output, _⟩ := deduplicateIP_spec code inputIP
  rw [output, kept_iff_widest distinct fun other inList =>
    canonical other ((members other).mp inList)]
  simp only [Widest, members]

/--
`deduplicateIP` returns blocks of its input that are disjoint and cover the same
addresses.

Without host bits these are the widest blocks, whatever the order of the input
and of the map they are read from.
-/
theorem deduplicateIP_is_exact_cover (code : Nat) (inputIP : List IPNet) :
    deduplicateIP code inputIP ⊆ inputIP ∧
      covered (deduplicateIP code inputIP) = covered inputIP ∧
      (deduplicateIP code inputIP).Pairwise
        (fun block other => Disjoint block.addresses other.addresses) ∧
      ((∀ block ∈ inputIP, block.Canonical) →
        (∀ block, block ∈ deduplicateIP code inputIP ↔ Widest inputIP block) ∧
        ∀ (code' : Nat) (reordered : List IPNet), (∀ block, block ∈ reordered ↔ block ∈ inputIP) →
          ∀ block, block ∈ deduplicateIP code' reordered ↔ block ∈ deduplicateIP code inputIP) := by
  obtain ⟨blocks, distinct, members, output, nodup, _⟩ := deduplicateIP_spec code inputIP
  refine ⟨fun block inOutput => (members block).mp ((output block).mp inOutput).1,
    Set.ext fun ip => contains_deduplicateIP code inputIP ip,
    nodup.pairwise_of_forall_ne fun first inOutput second inOutput' different => ?_,
    fun canonical => ⟨mem_deduplicateIP_of_canonical code canonical, ?_⟩⟩
  · obtain ⟨inList, kept⟩ := (output first).mp inOutput
    obtain ⟨inList', kept'⟩ := (output second).mp inOutput'
    exact Kept.disjoint inList inList' kept kept' different
  · intro code' reordered same block
    rw [mem_deduplicateIP_of_canonical code canonical, mem_deduplicateIP_of_canonical code'
      fun other inList => canonical other ((same other).mp inList)]
    simp only [Widest, same]

theorem deduplicateIP_of_nested_blocks :
    ∀ block, block ∈ deduplicateIP 0 [⟨0x0a000100, 24⟩, ⟨0x0a000000, 8⟩] ↔
      Widest [⟨0x0a000100, 24⟩, ⟨0x0a000000, 8⟩] block :=
  ((deduplicateIP_is_exact_cover 0 [⟨0x0a000100, 24⟩, ⟨0x0a000000, 8⟩]).2.2.2
    (by decide)).1

end Nephe
