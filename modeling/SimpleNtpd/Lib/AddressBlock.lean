import Mathlib.Algebra.Ring.Nat
import Mathlib.Data.List.Forall2

/-!
# Blocks of addresses

A block of `w`-bit addresses is a base address and a length: its members are the
addresses whose first `length` bits are those of the base. Bits of the base behind
the length do not matter (`mem_cleared_iff`). `and_mask_eq_iff` is how a program tests for
it, with a mask. One bit more splits a block into two halves (`mem_halves_iff`).

Two lists of blocks, one that denies and one that allows, admit an address when it is
in no block of the first and in some block of the second (`Lists.Admits`).
`Lists.admits_agrees_iff` says for which addresses the second list alone decides.
-/

namespace AddressBlock

/-- A block of `w`-bit addresses. -/
structure Block (w : Nat) where
  base : BitVec w
  length : Nat
  length_le : length ≤ w

variable {w : Nat}

/-- An address begins with the first `length` bits of the base. -/
instance : Membership (BitVec w) (Block w) where
  mem block addr :=
    addr.toNat / 2 ^ (w - block.length) = block.base.toNat / 2 ^ (w - block.length)

theorem mem_iff {addr : BitVec w} {block : Block w} :
    addr ∈ block ↔
      addr.toNat / 2 ^ (w - block.length) = block.base.toNat / 2 ^ (w - block.length) :=
  Iff.rfl

instance (addr : BitVec w) (block : Block w) : Decidable (addr ∈ block) :=
  decidable_of_iff _ mem_iff.symm

/-- A block of length 0 holds all addresses. -/
theorem mem_of_length_zero {block : Block w} (h : block.length = 0) (addr : BitVec w) :
    addr ∈ block := by
  rw [mem_iff, h, Nat.sub_zero, Nat.div_eq_of_lt addr.isLt, Nat.div_eq_of_lt block.base.isLt]

/-! ## The mask -/

/-- `length` ones in front of zeros. -/
def mask (w length : Nat) : BitVec w := BitVec.allOnes w <<< (w - length)

theorem getLsbD_and_mask (addr : BitVec w) (length i : Nat) :
    (addr &&& mask w length).getLsbD i = (decide (w - length ≤ i) && addr.getLsbD i) := by
  rw [BitVec.getLsbD_and, mask, BitVec.getLsbD_shiftLeft, BitVec.getLsbD_allOnes]
  by_cases hi : i < w
  · have hsub : i - (w - length) < w := by omega
    by_cases hle : w - length ≤ i
    · simp [hi, hsub, hle]
    · simp [hi, hle, Nat.lt_of_not_le hle]
  · simp [BitVec.getLsbD_of_ge addr i (Nat.le_of_not_lt hi)]

/-- Two addresses agree under the mask when they begin with the same bits. -/
theorem and_mask_eq_iff (a b : BitVec w) (length : Nat) :
    a &&& mask w length = b &&& mask w length ↔
      a.toNat / 2 ^ (w - length) = b.toNat / 2 ^ (w - length) := by
  rw [← Nat.shiftRight_eq_div_pow, ← Nat.shiftRight_eq_div_pow, ← BitVec.toNat_ushiftRight,
    ← BitVec.toNat_ushiftRight, BitVec.toNat_inj]
  constructor
  · intro h
    refine BitVec.eq_of_getLsbD_eq fun i _ => ?_
    have hbit := congrArg (·.getLsbD (w - length + i)) h
    simp only [getLsbD_and_mask, Nat.le_add_right, decide_true, Bool.true_and] at hbit
    rw [BitVec.getLsbD_ushiftRight, BitVec.getLsbD_ushiftRight, hbit]
  · intro h
    refine BitVec.eq_of_getLsbD_eq fun i _ => ?_
    rw [getLsbD_and_mask, getLsbD_and_mask]
    by_cases hle : w - length ≤ i
    · have hbit := congrArg (·.getLsbD (i - (w - length))) h
      simp only [BitVec.getLsbD_ushiftRight, Nat.add_sub_cancel' hle] at hbit
      rw [hbit]
    · rw [decide_eq_false hle, Bool.false_and, Bool.false_and]

theorem mem_iff_and_mask {addr : BitVec w} {block : Block w} :
    addr ∈ block ↔ addr &&& mask w block.length = block.base &&& mask w block.length := by
  rw [mem_iff, and_mask_eq_iff]

/-- Membership in a block, bit by bit. -/
theorem mem_iff_getLsbD {addr : BitVec w} {block : Block w} :
    addr ∈ block ↔
      ∀ i, w - block.length ≤ i → addr.getLsbD i = block.base.getLsbD i := by
  rw [mem_iff_and_mask]
  constructor
  · intro h i hi
    have hbit := congrArg (·.getLsbD i) h
    simpa only [getLsbD_and_mask, decide_eq_true hi, Bool.true_and] using hbit
  · intro h
    refine BitVec.eq_of_getLsbD_eq fun i _ => ?_
    rw [getLsbD_and_mask, getLsbD_and_mask]
    by_cases hi : w - block.length ≤ i
    · rw [h i hi]
    · rw [decide_eq_false hi, Bool.false_and, Bool.false_and]

/-! ## One block and another -/

/-- The blocks of one length part the addresses. -/
theorem mem_equivalence {length : Nat} (h : length ≤ w) :
    Equivalence fun addr base : BitVec w => addr ∈ (⟨base, length, h⟩ : Block w) where
  refl _ := mem_iff.mpr rfl
  symm hab := mem_iff.mpr (mem_iff.mp hab).symm
  trans hab hbc := mem_iff.mpr ((mem_iff.mp hab).trans (mem_iff.mp hbc))

/-- The base is in its block. -/
theorem base_mem (block : Block w) : block.base ∈ block := mem_iff.mpr rfl

/-- A longer block is in the shorter one with its base. -/
theorem mem_of_length_le {addr base : BitVec w} {m n : Nat} (hmn : m ≤ n) (hn : n ≤ w)
    (h : addr ∈ (⟨base, n, hn⟩ : Block w)) : addr ∈ (⟨base, m, Nat.le_trans hmn hn⟩ : Block w) := by
  rw [mem_iff_getLsbD] at h ⊢
  exact fun i hi => h i (Nat.le_trans (Nat.sub_le_sub_left hmn w) hi)

/-- A block of full length holds its base only. -/
theorem mem_full_iff {addr base : BitVec w} :
    addr ∈ (⟨base, w, le_rfl⟩ : Block w) ↔ addr = base := by
  rw [mem_iff, Nat.sub_self, pow_zero, Nat.div_one, Nat.div_one, BitVec.toNat_inj]

/-- The block with the bits behind its length cleared. -/
def Block.cleared (block : Block w) : Block w :=
  { block with base := block.base &&& mask w block.length }

theorem mem_cleared_iff {addr : BitVec w} {block : Block w} :
    addr ∈ block.cleared ↔ addr ∈ block := by
  rw [mem_iff_and_mask, mem_iff_and_mask, Block.cleared, BitVec.and_assoc, BitVec.and_self]

/-- The half of a block in which the first bit behind its length is 0. -/
def Block.lower (block : Block w) (h : block.length < w) : Block w where
  base := block.base &&& ~~~BitVec.twoPow w (w - block.length - 1)
  length := block.length + 1
  length_le := h

/-- The half in which it is 1. -/
def Block.upper (block : Block w) (h : block.length < w) : Block w where
  base := block.base ||| BitVec.twoPow w (w - block.length - 1)
  length := block.length + 1
  length_le := h

/-- A block that is one bit longer than another, and agrees with it in front, asks for
one bit more. -/
theorem mem_iff_of_length_succ {addr : BitVec w} {block half : Block w}
    (hlength : half.length = block.length + 1)
    (hagree : ∀ i, w - block.length ≤ i → half.base.getLsbD i = block.base.getLsbD i) :
    addr ∈ half ↔ addr ∈ block ∧
      addr.getLsbD (w - block.length - 1) = half.base.getLsbD (w - block.length - 1) := by
  have hle := half.length_le
  rw [mem_iff_getLsbD, mem_iff_getLsbD, hlength]
  constructor
  · intro h
    refine ⟨fun i hi => ?_, h _ (by omega)⟩
    rw [h i (by omega), hagree i hi]
  · rintro ⟨hfront, hbit⟩ i hi
    by_cases hlast : i = w - block.length - 1
    · rw [hlast, hbit]
    · have hi' : w - block.length ≤ i := by omega
      rw [hfront i hi', hagree i hi']

theorem mem_lower_iff {addr : BitVec w} {block : Block w} (h : block.length < w) :
    addr ∈ block.lower h ↔
      addr ∈ block ∧ addr.getLsbD (w - block.length - 1) = false := by
  have hbase : ∀ i, (block.lower h).base.getLsbD i =
      (block.base.getLsbD i && (decide (i < w) && !decide (w - block.length - 1 = i))) := by
    intro i
    have hlast : w - block.length - 1 < w := by omega
    rw [Block.lower, BitVec.getLsbD_and, BitVec.getLsbD_not, BitVec.getLsbD_twoPow,
      decide_eq_true hlast, Bool.true_and]
  rw [mem_iff_of_length_succ rfl fun i hi => ?_]
  · rw [hbase, decide_eq_true rfl, Bool.not_true, Bool.and_false, Bool.and_false]
  · have hne : w - block.length - 1 ≠ i := by omega
    rw [hbase, decide_eq_false hne, Bool.not_false, Bool.and_true]
    by_cases hlt : i < w
    · rw [decide_eq_true hlt, Bool.and_true]
    · rw [decide_eq_false hlt, Bool.and_false, BitVec.getLsbD_of_ge _ _ (Nat.le_of_not_lt hlt)]

theorem mem_upper_iff {addr : BitVec w} {block : Block w} (h : block.length < w) :
    addr ∈ block.upper h ↔
      addr ∈ block ∧ addr.getLsbD (w - block.length - 1) = true := by
  have hlast : w - block.length - 1 < w := by omega
  have hbase : ∀ i, (block.upper h).base.getLsbD i =
      (block.base.getLsbD i || decide (w - block.length - 1 = i)) := by
    intro i
    rw [Block.upper, BitVec.getLsbD_or, BitVec.getLsbD_twoPow, decide_eq_true hlast,
      Bool.true_and]
  rw [mem_iff_of_length_succ rfl fun i hi => ?_]
  · rw [hbase, decide_eq_true rfl, Bool.or_true]
  · have hne : w - block.length - 1 ≠ i := by omega
    rw [hbase, decide_eq_false hne, Bool.or_false]

/-- The two halves make up the block. -/
theorem mem_halves_iff {addr : BitVec w} {block : Block w} (h : block.length < w) :
    addr ∈ block.lower h ∨ addr ∈ block.upper h ↔ addr ∈ block := by
  rw [mem_lower_iff, mem_upper_iff, ← and_or_left]
  exact and_iff_left (Bool.eq_false_or_eq_true _).symm

/-! ## Lists of blocks -/

/-- The blocks that deny and the blocks that allow. -/
structure Lists (w : Nat) where
  denied : List (Block w)
  allowed : List (Block w)

/-- Some block of a list holds the address. -/
def Covered (blocks : List (Block w)) (addr : BitVec w) : Prop := ∃ block ∈ blocks, addr ∈ block

instance (blocks : List (Block w)) (addr : BitVec w) : Decidable (Covered blocks addr) :=
  inferInstanceAs (Decidable (∃ block ∈ blocks, addr ∈ block))

theorem covered_nil (addr : BitVec w) : ¬Covered [] addr := fun ⟨_, hmem, _⟩ =>
  List.not_mem_nil hmem

theorem covered_cons_iff {block : Block w} {blocks : List (Block w)} {addr : BitVec w} :
    Covered (block :: blocks) addr ↔ addr ∈ block ∨ Covered blocks addr := by
  simp only [Covered, List.mem_cons, exists_eq_or_imp]

/-- A denial is not outweighed. -/
def Lists.Admits (lists : Lists w) (addr : BitVec w) : Prop :=
  ¬Covered lists.denied addr ∧ Covered lists.allowed addr

instance (lists : Lists w) (addr : BitVec w) : Decidable (lists.Admits addr) :=
  inferInstanceAs (Decidable (_ ∧ _))

/-- The allowed blocks alone decide about an address that is in none of them, or in
no denied one. -/
theorem Lists.admits_agrees_iff {lists : Lists w} {addr : BitVec w} :
    (lists.Admits addr ↔ Covered lists.allowed addr) ↔
      ¬(Covered lists.denied addr ∧ Covered lists.allowed addr) := by
  rw [Admits]
  tauto

end AddressBlock
