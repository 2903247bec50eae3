import SimpleNtpd.Lib.CppInt

/-!
# NTP timestamps and the on-wire computation

`NtpTimestamp` is the 64-bit era-relative timestamp of the wire (packet.hpp);
`fromSystemTime` and `toSystemTime` convert between it and the ticks of
`std::chrono::system_clock`, which are nanoseconds since 1970 held in a signed
64-bit integer. Every conversion the C++ expressions make is explicit (`u64`,
`s64`), so the definitions compute what the code computes on every input,
timestamps before 1970 included, where the subtraction of the epoch offset
wraps.

The specification lemmas remove the conversions: `toSystemTime_eq` on every
timestamp, `fromSystemTime_seconds`/`fromSystemTime_fraction` on the clock
readings an NTP era can express.
-/

namespace SimpleNtpd

open Cpp

/-- Seconds from the NTP epoch (1900) to the system clock's (1970). -/
def ntpEpochOffset : Int := 2208988800

/-- Seconds since 1900 and a binary fraction of a second (packet.hpp:27–52). -/
structure NtpTimestamp where
  seconds : UInt32
  fraction : UInt32
  deriving DecidableEq, Repr

namespace NtpTimestamp

/-- The zero timestamp of the default constructor. -/
def zero : NtpTimestamp := ⟨0, 0⟩

/-- Encode a system clock reading, in nanoseconds since 1970 (packet.cpp:375–394). -/
def fromSystemTime (time : Int) : NtpTimestamp :=
  -- `duration_cast<seconds>` truncates toward zero
  let seconds := time.tdiv 1000000000
  let fraction := time - seconds * 1000000000
  let ntpFraction := u64 (u64 fraction * 4294967296) / 1000000000
  ⟨UInt32.ofNat (u64 (u64 seconds + ntpEpochOffset)), UInt32.ofNat ntpFraction⟩

/-- Decode to a system clock reading, in nanoseconds since 1970
(packet.cpp:396–407). The intermediate count is in whole microseconds. -/
def toSystemTime (ts : NtpTimestamp) : Int :=
  let whole := u64 (u64 (ts.seconds.toNat - ntpEpochOffset) * 1000000)
  let part := u64 (ts.fraction.toNat * 1000000) / 4294967296
  let totalMicroseconds := s64 (u64 (whole + part))
  -- adding the microseconds to `from_time_t(0)` counts in nanoseconds
  s64 (totalMicroseconds * 1000)

/-- The instant a timestamp decodes to, in microseconds since 1970. -/
def micros (ts : NtpTimestamp) : Int :=
  ((ts.seconds.toNat : Int) - ntpEpochOffset) * 1000000
    + (ts.fraction.toNat : Int) * 1000000 / 4294967296

theorem micros_bounds (ts : NtpTimestamp) :
    -2208988800000000 ≤ ts.micros ∧ ts.micros < 2085978496000000 := by
  have hs := ts.seconds.toNat_lt
  have hf := ts.fraction.toNat_lt
  unfold micros ntpEpochOffset
  omega

/-- The conversions of the microsecond count cancel, before 1970 too. -/
theorem totalMicroseconds_eq (ts : NtpTimestamp) :
    s64 (u64 (u64 (u64 (ts.seconds.toNat - ntpEpochOffset) * 1000000)
      + (u64 (ts.fraction.toNat * 1000000) / 4294967296 : Nat))) = ts.micros := by
  have hb := ts.micros_bounds
  have hf := ts.fraction.toNat_lt
  have hpart : (u64 (ts.fraction.toNat * 1000000) / 4294967296 : Nat)
      = (ts.fraction.toNat : Int) * 1000000 / 4294967296 := by
    have := u64_eq (x := (ts.fraction.toNat : Int) * 1000000) (by omega) (by omega)
    omega
  rw [u64_mul_u64, u64_add_u64, s64_u64, hpart]
  exact s64_eq ⟨by unfold micros at hb; omega, by unfold micros at hb; omega⟩

/-- No conversion inside `toSystemTime` changes a value for good: the decoded
instant is the microsecond count, scaled. -/
theorem toSystemTime_eq (ts : NtpTimestamp) : ts.toSystemTime = ts.micros * 1000 := by
  have hb := ts.micros_bounds
  show s64 (s64 _ * 1000) = _
  rw [totalMicroseconds_eq]
  exact s64_eq ⟨by omega, by omega⟩

/-- The clock readings of the current NTP era that `system_clock` counts from
zero: 1970-01-01 up to, not including, 2036-02-07T06:28:16Z. -/
def InEra (time : Int) : Prop := 0 ≤ time ∧ time < 2085978496 * 1000000000

instance (time : Int) : Decidable (InEra time) :=
  inferInstanceAs (Decidable (0 ≤ time ∧ time < 2085978496 * 1000000000))

theorem fromSystemTime_seconds {time : Int} (h : InEra time) :
    ((fromSystemTime time).seconds.toNat : Int) = time / 1000000000 + ntpEpochOffset := by
  obtain ⟨h0, h1⟩ := h
  have hdiv : time.tdiv 1000000000 = time / 1000000000 := Int.tdiv_eq_ediv_of_nonneg h0
  show ((UInt32.ofNat (u64 (u64 (time.tdiv 1000000000) + ntpEpochOffset))).toNat : Int) = _
  have hu := u64_eq (x := time / 1000000000 + ntpEpochOffset)
    (by unfold ntpEpochOffset; omega) (by unfold ntpEpochOffset; omega)
  rw [hdiv, u64_add_u64, UInt32.toNat_ofNat']
  unfold ntpEpochOffset at hu ⊢
  omega

theorem fromSystemTime_fraction {time : Int} (h : InEra time) :
    ((fromSystemTime time).fraction.toNat : Int)
      = time % 1000000000 * 4294967296 / 1000000000 := by
  obtain ⟨h0, h1⟩ := h
  have hdiv : time.tdiv 1000000000 = time / 1000000000 := Int.tdiv_eq_ediv_of_nonneg h0
  have hfrac : time - time.tdiv 1000000000 * 1000000000 = time % 1000000000 := by
    rw [hdiv]; omega
  show ((UInt32.ofNat (u64 (u64 (time - time.tdiv 1000000000 * 1000000000) * 4294967296)
    / 1000000000)).toNat : Int) = _
  rw [hfrac, u64_mul_u64, UInt32.toNat_ofNat']
  generalize hn : time % 1000000000 = n
  have hu := u64_eq (x := n * 4294967296) (by omega) (by omega)
  have hquot : ((u64 (n * 4294967296) / 1000000000 : Nat) : Int)
      = n * 4294967296 / 1000000000 := by
    rw [Int.natCast_ediv, hu]
    rfl
  have hlt : n * 4294967296 / 1000000000 < 4294967296 := by omega
  rw [Nat.mod_eq_of_lt (by omega), hquot]

/-- Encoding truncates to `2 ^ -32` s and decoding to whole microseconds; the
two truncations together lose at most one microsecond. -/
theorem toSystemTime_fromSystemTime {time : Int} (h : InEra time) :
    time - 1000 ≤ (fromSystemTime time).toSystemTime ∧
      (fromSystemTime time).toSystemTime ≤ time := by
  have hs := fromSystemTime_seconds h
  have hf := fromSystemTime_fraction h
  obtain ⟨h0, h1⟩ := h
  rw [toSystemTime_eq, micros, hs, hf]
  omega

end NtpTimestamp

/-! ## Round-trip delay and clock offset -/

namespace NtpPacketHandler

open NtpTimestamp

/-- `(t4 - t1) - (t3 - t2)` in microseconds (packet.cpp:344–357). -/
def calculateRoundTripDelay (t1 t2 t3 t4 : NtpTimestamp) : Int :=
  let time1 := t1.toSystemTime
  let time2 := t2.toSystemTime
  let time3 := t3.toSystemTime
  let time4 := t4.toSystemTime
  let delay := s64 (s64 (time4 - time1) - s64 (time3 - time2))
  delay.tdiv 1000

/-- `((t2 - t1) + (t3 - t4)) / 2` in microseconds (packet.cpp:359–372). -/
def calculateOffset (t1 t2 t3 t4 : NtpTimestamp) : Int :=
  let time1 := t1.toSystemTime
  let time2 := t2.toSystemTime
  let time3 := t3.toSystemTime
  let time4 := t4.toSystemTime
  let offset := (s64 (s64 (time2 - time1) + s64 (time3 - time4))).tdiv 2
  offset.tdiv 1000

/-- The nanosecond differences stay in range for any four timestamps, so the
delay is exact in the decoded microseconds. -/
theorem calculateRoundTripDelay_eq (t1 t2 t3 t4 : NtpTimestamp) :
    calculateRoundTripDelay t1 t2 t3 t4
      = (t4.micros - t1.micros) - (t3.micros - t2.micros) := by
  have h1 := t1.micros_bounds
  have h2 := t2.micros_bounds
  have h3 := t3.micros_bounds
  have h4 := t4.micros_bounds
  show (s64 (s64 (t4.toSystemTime - t1.toSystemTime)
    - s64 (t3.toSystemTime - t2.toSystemTime))).tdiv 1000 = _
  simp only [toSystemTime_eq]
  rw [s64_eq (x := t4.micros * 1000 - t1.micros * 1000) ⟨by omega, by omega⟩,
    s64_eq (x := t3.micros * 1000 - t2.micros * 1000) ⟨by omega, by omega⟩,
    s64_eq ⟨by omega, by omega⟩]
  have hscale : t4.micros * 1000 - t1.micros * 1000 - (t3.micros * 1000 - t2.micros * 1000)
      = ((t4.micros - t1.micros) - (t3.micros - t2.micros)) * 1000 := by omega
  rw [hscale]
  exact Int.mul_tdiv_cancel _ (by decide)

/-- Half of some microseconds in nanoseconds, in microseconds. -/
theorem tdiv_two_tdiv (sum : Int) : ((sum * 1000).tdiv 2).tdiv 1000 = sum.tdiv 2 := by
  have hhalf : sum * 1000 = sum * 500 * 2 := by omega
  rw [hhalf, Int.mul_tdiv_cancel _ (by decide)]
  exact Int.mul_tdiv_mul_of_pos_left sum 2 (show (0 : Int) < 500 by decide)

/-- The offset is half the exact sum of the two differences, truncated. -/
theorem calculateOffset_eq (t1 t2 t3 t4 : NtpTimestamp) :
    calculateOffset t1 t2 t3 t4
      = ((t2.micros - t1.micros) + (t3.micros - t4.micros)).tdiv 2 := by
  have h1 := t1.micros_bounds
  have h2 := t2.micros_bounds
  have h3 := t3.micros_bounds
  have h4 := t4.micros_bounds
  show ((s64 (s64 (t2.toSystemTime - t1.toSystemTime)
    + s64 (t3.toSystemTime - t4.toSystemTime))).tdiv 2).tdiv 1000 = _
  simp only [toSystemTime_eq]
  rw [s64_eq (x := t2.micros * 1000 - t1.micros * 1000) ⟨by omega, by omega⟩,
    s64_eq (x := t3.micros * 1000 - t4.micros * 1000) ⟨by omega, by omega⟩,
    s64_eq ⟨by omega, by omega⟩]
  have hscale : t2.micros * 1000 - t1.micros * 1000 + (t3.micros * 1000 - t4.micros * 1000)
      = ((t2.micros - t1.micros) + (t3.micros - t4.micros)) * 1000 := by omega
  rw [hscale, tdiv_two_tdiv]

end NtpPacketHandler

end SimpleNtpd
