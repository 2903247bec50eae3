import Mathlib.Algebra.Order.AbsoluteValue.Basic
import Mathlib.Tactic.Linarith
import Mathlib.Tactic.NormNum
import SimpleNtpd.Core.Timestamp

/-!
# Accuracy of the on-wire computation

`Exchange` is one client/server exchange in true integer nanoseconds: the
client's send instant, the true clock difference and the three delays. Its four
clock readings are encoded, sent, decoded and combined by the code; the theorem
`exchange_accuracy` bounds what the eight truncations on the way can do to the
round-trip delay and the offset.

Each reading loses between 0 and 1000 ns (`toSystemTime_fromSystemTime`), and
in both results two of the readings count positively and two negatively, so
the losses can add up to 2000 ns but no further. The offset halves that and
pays at most half a microsecond for its own division.
-/

namespace SimpleNtpd

open NtpTimestamp NtpPacketHandler

/-- One exchange, in nanoseconds: client send instant, server-minus-client
clock difference, forward delay, server processing time, return delay. -/
structure Exchange where
  sent : Int
  difference : Int
  forward : Int
  processing : Int
  back : Int
  forward_nonneg : 0 ≤ forward
  processing_nonneg : 0 ≤ processing
  back_nonneg : 0 ≤ back

namespace Exchange

/-- The client's clock when it sends. -/
def clock1 (x : Exchange) : Int := x.sent

/-- The server's clock when the request arrives. -/
def clock2 (x : Exchange) : Int := x.sent + x.forward + x.difference

/-- The server's clock when the reply leaves. -/
def clock3 (x : Exchange) : Int := x.sent + x.forward + x.processing + x.difference

/-- The client's clock when the reply arrives. -/
def clock4 (x : Exchange) : Int := x.sent + x.forward + x.processing + x.back

/-- All four readings lie between 1970 and the end of the NTP era. -/
structure InEra (x : Exchange) : Prop where
  clock1 : NtpTimestamp.InEra x.clock1
  clock2 : NtpTimestamp.InEra x.clock2
  clock3 : NtpTimestamp.InEra x.clock3
  clock4 : NtpTimestamp.InEra x.clock4

/-- The delay computed from the encoded readings. -/
def measuredDelay (x : Exchange) : Int :=
  calculateRoundTripDelay (fromSystemTime x.clock1) (fromSystemTime x.clock2)
    (fromSystemTime x.clock3) (fromSystemTime x.clock4)

/-- The offset computed from the encoded readings. -/
def measuredOffset (x : Exchange) : Int :=
  calculateOffset (fromSystemTime x.clock1) (fromSystemTime x.clock2)
    (fromSystemTime x.clock3) (fromSystemTime x.clock4)

/-- An encoded reading, decoded to whole microseconds, is at most one
microsecond early. -/
theorem micros_error {time : Int} (h : NtpTimestamp.InEra time) :
    time - 1000 ≤ (fromSystemTime time).micros * 1000 ∧
      (fromSystemTime time).micros * 1000 ≤ time := by
  rw [← toSystemTime_eq]
  exact toSystemTime_fromSystemTime h

theorem measuredDelay_error {x : Exchange} (h : x.InEra) :
    -2000 ≤ x.measuredDelay * 1000 - (x.forward + x.back) ∧
      x.measuredDelay * 1000 - (x.forward + x.back) ≤ 2000 := by
  have h1 := micros_error h.clock1
  have h2 := micros_error h.clock2
  have h3 := micros_error h.clock3
  have h4 := micros_error h.clock4
  rw [measuredDelay, calculateRoundTripDelay_eq]
  unfold clock1 clock2 clock3 clock4 at *
  omega

/-- A truncated half, doubled, is off by at most one. -/
theorem tdiv_two_error (sum : Int) :
    -1 ≤ sum.tdiv 2 * 2 - sum ∧ sum.tdiv 2 * 2 - sum ≤ 1 := by
  have hrem := Int.tdiv_mul_add_tmod sum 2
  have hlt := Int.tmod_lt_of_pos sum (show (0 : Int) < 2 by decide)
  have hgt := Int.lt_tmod_of_pos sum (show (0 : Int) < 2 by decide)
  omega

theorem measuredOffset_error {x : Exchange} (h : x.InEra) :
    -3000 ≤ x.measuredOffset * 2000 - (2 * x.difference + (x.forward - x.back)) ∧
      x.measuredOffset * 2000 - (2 * x.difference + (x.forward - x.back)) ≤ 3000 := by
  have h1 := micros_error h.clock1
  have h2 := micros_error h.clock2
  have h3 := micros_error h.clock3
  have h4 := micros_error h.clock4
  have hhalf := tdiv_two_error
    (((fromSystemTime x.clock2).micros - (fromSystemTime x.clock1).micros)
      + ((fromSystemTime x.clock3).micros - (fromSystemTime x.clock4).micros))
  rw [measuredOffset, calculateOffset_eq]
  unfold clock1 clock2 clock3 clock4 at *
  omega

/-- **Accuracy of the on-wire computation**: the computed delay and offset, in
microseconds, are within 2 µs of the true ones. -/
theorem exchange_accuracy (x : Exchange) (h : x.InEra) :
    |(x.measuredDelay : ℚ) - (x.forward + x.back) / 1000| ≤ 2 ∧
      |(x.measuredOffset : ℚ)
        - (x.difference + ((x.forward : ℚ) - x.back) / 2) / 1000| ≤ 2 := by
  obtain ⟨hdlo, hdhi⟩ := measuredDelay_error h
  obtain ⟨holo, hohi⟩ := measuredOffset_error h
  have hdlo' : (-2000 : ℚ) ≤ x.measuredDelay * 1000 - (x.forward + x.back) := by
    exact_mod_cast hdlo
  have hdhi' : (x.measuredDelay * 1000 - (x.forward + x.back) : ℚ) ≤ 2000 := by
    exact_mod_cast hdhi
  have holo' : (-3000 : ℚ)
      ≤ x.measuredOffset * 2000 - (2 * x.difference + (x.forward - x.back)) := by
    exact_mod_cast holo
  have hohi' : (x.measuredOffset * 2000 - (2 * x.difference + (x.forward - x.back)) : ℚ)
      ≤ 3000 := by
    exact_mod_cast hohi
  refine ⟨abs_le.mpr ⟨?_, ?_⟩, abs_le.mpr ⟨?_, ?_⟩⟩ <;> linarith

/-- An exchange of May 2026 over a 40 ms path with a server 3 s ahead. -/
theorem exchange_accuracy_2026 :
    ∃ x : Exchange, x.forward = 25000000 ∧ x.back = 15000123 ∧ x.InEra ∧
      |(x.measuredDelay : ℚ) - (x.forward + x.back) / 1000| ≤ 2 ∧
      |(x.measuredOffset : ℚ)
        - (x.difference + ((x.forward : ℚ) - x.back) / 2) / 1000| ≤ 2 := by
  have hera : (⟨1778000000123456789, 3000000000, 25000000, 70001, 15000123,
      by decide, by decide, by decide⟩ : Exchange).InEra :=
    ⟨by decide, by decide, by decide, by decide⟩
  exact ⟨_, rfl, rfl, hera, exchange_accuracy _ hera⟩

end Exchange

end SimpleNtpd
