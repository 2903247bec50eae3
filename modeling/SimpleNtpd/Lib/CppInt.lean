import Mathlib.Data.Int.ModEq

/-!
# Fixed-width integer conversions

A C++ integer expression is modelled by the mathematical integer it denotes and
an explicit conversion wherever the language converts: `u64` for a conversion
to (or an operation on) an unsigned 64-bit integer, `s64` for the signed one.
The conversions are congruences modulo `2 ^ 64`, so nested ones collapse
(`u64_add_u64`, `u64_mul_u64`, `s64_u64`) and the outermost one vanishes on a
value that is in range (`s64_eq`, `u64_eq`).

A signed operation that overflows is undefined, though: `signed` is such an
operation, with no result there (`signed_eq`). So is a shift by a negative number of
bits, or by as many as the word has (`shiftLeft32`).
-/

namespace Cpp

/-- Conversion to an unsigned 64-bit integer. -/
def u64 (x : Int) : Nat := (x % 2 ^ 64).toNat

/-- Conversion to a signed 64-bit integer (two's complement). -/
def s64 (x : Int) : Int := x.bmod (2 ^ 64)

/-- The values of a signed 64-bit integer. -/
def InS64 (x : Int) : Prop := -2 ^ 63 ≤ x ∧ x < 2 ^ 63

instance instDecidableInS64 (x : Int) : Decidable (InS64 x) :=
  inferInstanceAs (Decidable (-2 ^ 63 ≤ x ∧ x < 2 ^ 63))

/-- The result of a signed 64-bit operation; `none` where it overflows. -/
def signed (x : Int) : Option Int := if InS64 x then some x else none

theorem signed_eq {x : Int} (h : InS64 x) : signed x = some x := if_pos h

/-- A left shift of an unsigned 32-bit integer; `none` where it is undefined. -/
def shiftLeft32 (x : UInt32) (n : Int) : Option UInt32 :=
  if 0 ≤ n ∧ n < 32 then some (x <<< UInt32.ofNat n.toNat) else none

theorem shiftLeft32_eq {x : UInt32} {n : Int} (h0 : 0 ≤ n) (h1 : n < 32) :
    shiftLeft32 x n = some (x <<< UInt32.ofNat n.toNat) := if_pos ⟨h0, h1⟩

theorem s64_eq {x : Int} (h : InS64 x) : s64 x = x :=
  Int.bmod_eq_of_le_mul_two (by have := h.1; omega) (by have := h.2; omega)

theorem u64_cast (x : Int) : (u64 x : Int) = x % 2 ^ 64 :=
  Int.toNat_of_nonneg (Int.emod_nonneg x (by decide))

theorem u64_eq {x : Int} (h0 : 0 ≤ x) (h1 : x < 2 ^ 64) : (u64 x : Int) = x := by
  rw [u64_cast]
  exact Int.emod_eq_of_lt h0 h1

@[simp] theorem u64_add_u64 (x y : Int) : u64 (u64 x + y) = u64 (x + y) := by
  rw [u64, u64_cast, Int.emod_add_emod, u64]

@[simp] theorem u64_mul_u64 (x y : Int) : u64 (u64 x * y) = u64 (x * y) := by
  have h : (x % 2 ^ 64) * y % 2 ^ 64 = x * y % 2 ^ 64 := (Int.mod_modEq x _).mul_right y
  rw [u64, u64_cast, h, u64]

@[simp] theorem s64_u64 (x : Int) : s64 (u64 x) = s64 x := by
  rw [s64, u64_cast, s64]
  exact Int.emod_bmod x (2 ^ 64)

/-- What holds of the 256 bytes holds of every byte. -/
@[elab_as_elim]
theorem forall_uint8 {P : UInt8 → Prop} (h : ∀ v : BitVec 8, P (.ofBitVec v)) (b : UInt8) : P b :=
  h b.toBitVec

end Cpp
