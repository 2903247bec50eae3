import SimpleNtpd.Core.Accuracy

/-!
# No signed overflow

An upstream server chooses its timestamps, and the language leaves a signed operation
that overflows undefined. Here the conversions and the on-wire computation are run with
such operations (`signed`), at the nanoseconds `system_clock` counts in. A decoded
timestamp is less than 2.21 · 10^18 ns from 1970, so that the difference of two
differences stays below 2^63 ≈ 9.22 · 10^18, and so does a timestamp moved by an offset
(`no_signed_overflow`). The results are those of the wrapping computation.
-/

namespace SimpleNtpd

open Cpp

namespace NtpTimestamp

/-- packet.cpp:396–407. The unsigned count is converted, which is no operation. -/
def toSystemTimeSigned (ts : NtpTimestamp) : Option Int := do
  let whole := u64 (u64 (ts.seconds.toNat - ntpEpochOffset) * 1000000)
  let part := u64 (ts.fraction.toNat * 1000000) / 4294967296
  let totalMicroseconds := s64 (u64 (whole + part))
  let nanoseconds ← signed (totalMicroseconds * 1000)
  signed (0 + nanoseconds)

/-- The reading that is encoded again in `processPacket` (server.cpp:496–499). -/
def shiftedSigned (ts : NtpTimestamp) (offsetUs : Int) : Option Int := do
  let time ← ts.toSystemTimeSigned
  let offset ← signed (offsetUs * 1000)
  signed (time + offset)

theorem toSystemTimeSigned_eq (ts : NtpTimestamp) :
    ts.toSystemTimeSigned = some (ts.micros * 1000) := by
  have hb := ts.micros_bounds
  rw [toSystemTimeSigned, totalMicroseconds_eq, signed_eq ⟨by omega, by omega⟩, Option.bind_eq_bind,
    Option.bind_some, Int.zero_add, signed_eq ⟨by omega, by omega⟩]

/-- A decoded timestamp can be moved by half an era, and more. -/
theorem shiftedSigned_eq (ts : NtpTimestamp) {offsetUs : Int} (hlow : -4294967296000000 ≤ offsetUs)
    (hhigh : offsetUs ≤ 4294967296000000) :
    ts.shiftedSigned offsetUs = some (ts.toSystemTime + offsetUs * 1000) := by
  have hb := ts.micros_bounds
  rw [shiftedSigned, toSystemTimeSigned_eq, toSystemTime_eq, Option.bind_eq_bind, Option.bind_some,
    signed_eq ⟨by omega, by omega⟩, Option.bind_some, signed_eq ⟨by omega, by omega⟩]

end NtpTimestamp

namespace NtpPacketHandler

open NtpTimestamp

/-- packet.cpp:344–357. -/
def calculateRoundTripDelaySigned (t1 t2 t3 t4 : NtpTimestamp) : Option Int := do
  let time1 ← t1.toSystemTimeSigned
  let time2 ← t2.toSystemTimeSigned
  let time3 ← t3.toSystemTimeSigned
  let time4 ← t4.toSystemTimeSigned
  let taken ← signed (time4 - time1)
  let processing ← signed (time3 - time2)
  let delay ← signed (taken - processing)
  return delay.tdiv 1000

/-- packet.cpp:359–372. -/
def calculateOffsetSigned (t1 t2 t3 t4 : NtpTimestamp) : Option Int := do
  let time1 ← t1.toSystemTimeSigned
  let time2 ← t2.toSystemTimeSigned
  let time3 ← t3.toSystemTimeSigned
  let time4 ← t4.toSystemTimeSigned
  let there ← signed (time2 - time1)
  let back ← signed (time3 - time4)
  let sum ← signed (there + back)
  let offset := sum.tdiv 2
  return offset.tdiv 1000

theorem calculateRoundTripDelaySigned_eq (t1 t2 t3 t4 : NtpTimestamp) :
    calculateRoundTripDelaySigned t1 t2 t3 t4
      = some ((t4.micros - t1.micros) - (t3.micros - t2.micros)) := by
  have h1 := t1.micros_bounds
  have h2 := t2.micros_bounds
  have h3 := t3.micros_bounds
  have h4 := t4.micros_bounds
  have hscale : t4.micros * 1000 - t1.micros * 1000 - (t3.micros * 1000 - t2.micros * 1000)
      = ((t4.micros - t1.micros) - (t3.micros - t2.micros)) * 1000 := by omega
  simp only [calculateRoundTripDelaySigned, toSystemTimeSigned_eq, Option.bind_eq_bind,
    Option.bind_some]
  rw [signed_eq (x := t4.micros * 1000 - t1.micros * 1000) ⟨by omega, by omega⟩, Option.bind_some,
    signed_eq (x := t3.micros * 1000 - t2.micros * 1000) ⟨by omega, by omega⟩, Option.bind_some,
    signed_eq ⟨by omega, by omega⟩, Option.bind_some, hscale, Int.mul_tdiv_cancel _ (by decide)]
  rfl

theorem calculateOffsetSigned_eq (t1 t2 t3 t4 : NtpTimestamp) :
    calculateOffsetSigned t1 t2 t3 t4
      = some (((t2.micros - t1.micros) + (t3.micros - t4.micros)).tdiv 2) := by
  have h1 := t1.micros_bounds
  have h2 := t2.micros_bounds
  have h3 := t3.micros_bounds
  have h4 := t4.micros_bounds
  have hscale : t2.micros * 1000 - t1.micros * 1000 + (t3.micros * 1000 - t4.micros * 1000)
      = ((t2.micros - t1.micros) + (t3.micros - t4.micros)) * 1000 := by omega
  simp only [calculateOffsetSigned, toSystemTimeSigned_eq, Option.bind_eq_bind, Option.bind_some]
  rw [signed_eq (x := t2.micros * 1000 - t1.micros * 1000) ⟨by omega, by omega⟩, Option.bind_some,
    signed_eq (x := t3.micros * 1000 - t4.micros * 1000) ⟨by omega, by omega⟩, Option.bind_some,
    signed_eq ⟨by omega, by omega⟩, Option.bind_some, hscale, tdiv_two_tdiv]
  rfl

/-- An offset is at most an era. -/
theorem calculateOffset_bounds (t1 t2 t3 t4 : NtpTimestamp) :
    -4294967296000000 ≤ calculateOffset t1 t2 t3 t4 ∧
      calculateOffset t1 t2 t3 t4 ≤ 4294967296000000 := by
  have h1 := t1.micros_bounds
  have h2 := t2.micros_bounds
  have h3 := t3.micros_bounds
  have h4 := t4.micros_bounds
  have hhalf := Exchange.tdiv_two_error ((t2.micros - t1.micros) + (t3.micros - t4.micros))
  rw [calculateOffset_eq]
  omega

end NtpPacketHandler

open NtpTimestamp NtpPacketHandler

/-- **No signed overflow.** For every four timestamps and every timestamp that is moved
by their offset: no signed operation overflows, the delay and the offset are those of
the decoded microseconds, and the wrapping computation gives the same. -/
theorem no_signed_overflow (t1 t2 t3 t4 ts : NtpTimestamp) :
    (ts.toSystemTimeSigned = some ts.toSystemTime ∧ ts.toSystemTime = ts.micros * 1000) ∧
    (calculateRoundTripDelaySigned t1 t2 t3 t4 = some (calculateRoundTripDelay t1 t2 t3 t4) ∧
      calculateRoundTripDelay t1 t2 t3 t4
        = (t4.micros - t1.micros) - (t3.micros - t2.micros)) ∧
    (calculateOffsetSigned t1 t2 t3 t4 = some (calculateOffset t1 t2 t3 t4) ∧
      calculateOffset t1 t2 t3 t4
        = ((t2.micros - t1.micros) + (t3.micros - t4.micros)).tdiv 2) ∧
    ts.shiftedSigned (calculateOffset t1 t2 t3 t4)
      = some (ts.toSystemTime + calculateOffset t1 t2 t3 t4 * 1000) := by
  obtain ⟨hlow, hhigh⟩ := calculateOffset_bounds t1 t2 t3 t4
  refine ⟨⟨?_, ts.toSystemTime_eq⟩, ⟨?_, calculateRoundTripDelay_eq t1 t2 t3 t4⟩,
    ⟨?_, calculateOffset_eq t1 t2 t3 t4⟩, ts.shiftedSigned_eq hlow hhigh⟩
  · rw [toSystemTimeSigned_eq, toSystemTime_eq]
  · rw [calculateRoundTripDelaySigned_eq, calculateRoundTripDelay_eq]
  · rw [calculateOffsetSigned_eq, calculateOffset_eq]

end SimpleNtpd
