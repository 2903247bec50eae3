import Mathlib.Algebra.Order.Group.Int
import Mathlib.Algebra.Order.Ring.Int
import Mathlib.Data.Int.GCD

/-!
# Fixed-point counts

An instant is counted in units of `1 / p`, as an integer. `rescale p q` gives the
last count in units of `1 / q` that is not later. It keeps the order (`rescale_mono`),
and decides it where the new unit is no larger (`rescale_le_iff`); it loses less than
one new unit (`rescale_mul_le`, `lt_rescale_add_one_mul`), and nothing of whole
numbers (`rescale_add_mul`).

There and back again, to a finer unit and back, is not the identity: a count
that the finer unit does not hold exactly comes back one early
(`rescale_rescale`). So passes there and back walk backwards, one unit a pass, to
the last count that is held exactly, and stay there.
-/

namespace FixedPoint

/-- A count of `1 / p` in units of `1 / q`, truncated. -/
def rescale (p q x : Int) : Int := x * q / p

variable {p q x y : Int}

theorem rescale_mono (hp : 0 < p) (hq : 0 ≤ q) (h : x ≤ y) : rescale p q x ≤ rescale p q y :=
  Int.ediv_le_ediv hp (Int.mul_le_mul_of_nonneg_right h hq)

/-- The rescaled count is not later than the count. -/
theorem rescale_mul_le (hp : 0 < p) : rescale p q x * p ≤ x * q :=
  Int.ediv_mul_le _ hp.ne'

/-- The next one after the rescaled count is later than the count. -/
theorem lt_rescale_add_one_mul (hp : 0 < p) : x * q < (rescale p q x + 1) * p :=
  Int.lt_ediv_add_one_mul_self _ hp

/-- Two counts a unit apart are told apart by a unit that is no larger. -/
theorem rescale_le_iff (hp : 0 < p) (hpq : p ≤ q) : rescale p q x ≤ rescale p q y ↔ x ≤ y := by
  refine ⟨fun h => ?_, rescale_mono hp (hp.le.trans hpq)⟩
  by_contra hlt
  have hunit : (y + 1) * q ≤ x * q :=
    Int.mul_le_mul_of_nonneg_right (by omega) (hp.le.trans hpq)
  have hx : x * q < (rescale p q x + 1) * p := lt_rescale_add_one_mul hp
  have hy : rescale p q y * p ≤ y * q := rescale_mul_le hp
  have hle : (rescale p q x + 1) * p ≤ (rescale p q y + 1) * p :=
    Int.mul_le_mul_of_nonneg_right (by omega) hp.le
  rw [Int.add_mul, Int.one_mul] at hunit
  rw [Int.add_mul (rescale p q y), Int.one_mul] at hle
  omega

/-- Whole numbers are held exactly. -/
theorem rescale_add_mul (hp : 0 < p) (x k : Int) :
    rescale p q (x + k * p) = rescale p q x + k * q := by
  have hsplit : (x + k * p) * q = x * q + k * q * p := by
    rw [Int.add_mul, Int.mul_right_comm]
  rw [rescale, hsplit, Int.add_mul_ediv_right _ _ hp.ne', rescale]

/-- Counts in units `k` times as small, on both sides of the rescaling. -/
theorem rescale_mul_mul {k : Int} (hk : 0 < k) (p q x : Int) :
    rescale (p * k) q (x * k) = rescale p q x := by
  rw [rescale, Int.mul_right_comm, Int.mul_ediv_mul_of_pos_left _ _ hk, rescale]

/-! ## There and back again -/

/-- The distance of the counts of `1 / p` that units of `1 / q` hold exactly. -/
def exactStep (p q : Int) : Int := p / Int.gcd p q

/-- A count is held exactly when it is a multiple of the distance. -/
theorem dvd_mul_iff (hp : 0 < p) : p ∣ x * q ↔ exactStep p q ∣ x := by
  have hgcd : 0 < Int.gcd p q := Int.gcd_pos_of_ne_zero_left q hp.ne'
  have hcoprime := Int.gcd_ediv_gcd_ediv_gcd hgcd
  have hp' : exactStep p q * Int.gcd p q = p := Int.ediv_mul_cancel (Int.gcd_dvd_left p q)
  have hq' : q / Int.gcd p q * Int.gcd p q = q := Int.ediv_mul_cancel (Int.gcd_dvd_right p q)
  have hcancel : exactStep p q * Int.gcd p q ∣ x * (q / Int.gcd p q) * Int.gcd p q
      ↔ exactStep p q ∣ x * (q / Int.gcd p q) :=
    Int.mul_dvd_mul_iff_right (Int.natCast_ne_zero.mpr hgcd.ne')
  rw [hp', Int.mul_assoc, hq'] at hcancel
  rw [hcancel]
  exact ⟨fun h => Int.dvd_of_dvd_mul_left_of_gcd_one h hcoprime, fun h => h.mul_right _⟩

/-- **There and back again.** -/
theorem rescale_rescale (hp : 0 < p) (hpq : p ≤ q) :
    rescale q p (rescale p q x) = if exactStep p q ∣ x then x else x - 1 := by
  have hq : 0 < q := hp.trans_le hpq
  have hdiv : p * rescale p q x + x * q % p = x * q := Int.mul_ediv_add_emod _ _
  have hrem : 0 ≤ x * q % p ∧ x * q % p < p :=
    ⟨Int.emod_nonneg _ hp.ne', Int.emod_lt_of_pos _ hp⟩
  rw [rescale, Int.mul_comm (rescale p q x) p]
  split
  · rename_i hexact
    have hzero : x * q % p = 0 := Int.emod_eq_zero_of_dvd ((dvd_mul_iff hp).mpr hexact)
    rw [hzero, Int.add_zero] at hdiv
    rw [hdiv, Int.mul_ediv_cancel _ hq.ne']
  · rename_i hinexact
    have hpos : x * q % p ≠ 0 := fun hzero =>
      hinexact ((dvd_mul_iff hp).mp (Int.dvd_of_emod_eq_zero hzero))
    -- the remainder is less than one unit of the coarser count
    have hsub : p * rescale p q x = (q - x * q % p) + (x - 1) * q := by
      rw [Int.sub_mul]
      omega
    rw [hsub, Int.add_mul_ediv_right _ _ hq.ne', Int.ediv_eq_zero_of_lt (by omega) (by omega),
      Int.zero_add]

end FixedPoint
