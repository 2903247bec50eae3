import Mathlib.Algebra.Order.AbsoluteValue.Basic
import Mathlib.Data.Rat.Cast.Order
import Mathlib.Tactic.Linarith
import Mathlib.Tactic.NormNum
import Mathlib.Tactic.Ring

/-!
# Clocks that drift

Clocks of a number of parties, in nanoseconds of one true time. A clock is ahead of
true time by some amount, which changes at a bounded rate. A party may correct its
clock by an offset; its error is what is left of the amount.

`error_of_exchange` is what one exchange of four stamps tells: a party that corrects
its clock by the offset computed from them has an error of at most that of the clock
it has asked, half the delay computed from them, the drift during the exchange, and
what was lost on the stamps.
-/

/-- Clocks: by how much each is ahead of true time, and the rate at which this
changes at most. -/
structure Clocks (ι : Type*) where
  ahead : ι → ℤ → ℤ
  rate : ℚ
  rate_nonneg : 0 ≤ rate
  drift : ∀ i (s t : ℤ), s ≤ t → |((ahead i t - ahead i s : ℤ) : ℚ)| ≤ rate * (t - s)

namespace Clocks

variable {ι : Type*} (clocks : Clocks ι)

/-- What a clock shows at a true instant. -/
def reading (i : ι) (t : ℤ) : ℤ := t + clocks.ahead i t

/-- What is left of the difference to true time under an offset. -/
def error (i : ι) (offset t : ℤ) : ℤ := clocks.ahead i t + offset

variable {clocks}

/-- An error grows with the time, and no faster than the clock drifts. -/
theorem error_le {i : ι} {offset s t : ℤ} {bound : ℚ} (hst : s ≤ t)
    (h : |(clocks.error i offset s : ℚ)| ≤ bound) :
    |(clocks.error i offset t : ℚ)| ≤ bound + clocks.rate * (t - s) := by
  have hdrift := clocks.drift i s t hst
  have hsplit : (clocks.error i offset t : ℚ)
      = clocks.error i offset s + ((clocks.ahead i t - clocks.ahead i s : ℤ) : ℚ) := by
    unfold error
    push_cast
    ring
  calc |(clocks.error i offset t : ℚ)|
      ≤ |(clocks.error i offset s : ℚ)| + |((clocks.ahead i t - clocks.ahead i s : ℤ) : ℚ)| := by
        rw [hsplit]
        exact abs_add_le _ _
    _ ≤ bound + clocks.rate * (t - s) := add_le_add h hdrift

/-- A bound that grows with the drift can be given for later instants only. -/
theorem drift_mono {s t t' : ℤ} (h : t ≤ t') : clocks.rate * (t - s) ≤ clocks.rate * (t' - s) := by
  have hcast : (t : ℚ) ≤ t' := Int.cast_le.mpr h
  exact mul_le_mul_of_nonneg_left (by linarith) clocks.rate_nonneg

/-- An exchange: a party stamps a request at the instant `a`, another stamps it at `b`
and its reply at `c`, and the first one stamps the reply at `d`. -/
structure Stamps (clocks : Clocks ι) (client server : ι) (offset a b c d : ℤ)
    (clientLoss serverLoss : ℚ) where
  t1 : ℚ
  t2 : ℚ
  t3 : ℚ
  t4 : ℚ
  asked : a ≤ b
  answered : b ≤ c
  received : c ≤ d
  /-- The client's stamps are its readings, less some loss. -/
  t1_loss : 0 ≤ clocks.reading client a - t1 ∧ clocks.reading client a - t1 ≤ clientLoss
  t4_loss : 0 ≤ clocks.reading client d - t4 ∧ clocks.reading client d - t4 ≤ clientLoss
  /-- The server's are its readings with its offset, less some loss. -/
  t2_loss : 0 ≤ b + clocks.error server offset b - t2 ∧
    b + clocks.error server offset b - t2 ≤ serverLoss
  t3_loss : 0 ≤ c + clocks.error server offset c - t3 ∧
    c + clocks.error server offset c - t3 ≤ serverLoss

namespace Stamps

variable {client server : ι} {offset a b c d : ℤ} {clientLoss serverLoss : ℚ}

/-- The round-trip delay computed from the stamps. -/
def delay (x : Stamps clocks client server offset a b c d clientLoss serverLoss) : ℚ :=
  (x.t4 - x.t1) - (x.t3 - x.t2)

/-- Twice the offset computed from the stamps. -/
def twiceOffset (x : Stamps clocks client server offset a b c d clientLoss serverLoss) : ℚ :=
  (x.t2 - x.t1) + (x.t3 - x.t4)

/-- **What an exchange tells.** The client corrects its clock by half of `twiceOffset`,
up to some rounding. The two ways of the datagrams are not known, but together they
are the delay, so the error is that of the server's clock and at most half of the
delay, with what the clock drifts and the stamps lose. -/
theorem error_of_exchange (x : Stamps clocks client server offset a b c d clientLoss serverLoss)
    (hloss : clientLoss ≤ serverLoss) {corrected : ℤ} {rounding bound : ℚ}
    (hrounding : |2 * (corrected : ℚ) - x.twiceOffset| ≤ rounding)
    (hb : |(clocks.error server offset b : ℚ)| ≤ bound)
    (hc : |(clocks.error server offset c : ℚ)| ≤ bound) :
    |(clocks.error client corrected d : ℚ)| ≤ bound + x.delay / 2 + clocks.rate * (d - a)
      + (clientLoss + 3 * serverLoss + rounding) / 2 := by
  have hdrift := abs_le.mp (clocks.drift client a d (x.asked.trans (x.answered.trans x.received)))
  have hasked : (a : ℚ) ≤ b := Int.cast_le.mpr x.asked
  have hanswered : (c : ℚ) ≤ d := Int.cast_le.mpr x.received
  obtain ⟨h1, h1'⟩ := x.t1_loss
  obtain ⟨h2, h2'⟩ := x.t2_loss
  obtain ⟨h3, h3'⟩ := x.t3_loss
  obtain ⟨h4, h4'⟩ := x.t4_loss
  have hbound := abs_le.mp hb
  have hbound' := abs_le.mp hc
  have hround := abs_le.mp hrounding
  have hpositive := mul_nonneg clocks.rate_nonneg
    (sub_nonneg.mpr (hasked.trans ((Int.cast_le.mpr x.answered).trans hanswered)))
  unfold error reading delay twiceOffset at *
  push_cast at *
  refine abs_le.mpr ⟨?_, ?_⟩
  · linarith
  · linarith

end Stamps

end Clocks
