import Mathlib.Tactic.Ring
import SimpleNtpd.Core.Accuracy

/-!
# Exchanges on other dates

The seconds of a timestamp count modulo `2 ^ 32`, so an exchange on another date
is the same four timestamps with the same number added to the seconds of each.
`toSystemTime` reads the seconds as seconds of the first era, whatever the date;
a timestamp that the move takes past the end of the era (`Rolls`) comes out one
era early.

In the delay and in the offset two of the four count positively and two
negatively, so the eras cancel or they do not. `calculateRoundTripDelay_addSeconds`
and `calculateOffset_addSeconds` say by how many the results are off, and
`era_independent_iff` when neither is off: the end of the era must not come
between a departure and the arrival.
-/

namespace SimpleNtpd

namespace NtpTimestamp

/-- The timestamp on another date. -/
def addSeconds (ts : NtpTimestamp) (k : UInt32) : NtpTimestamp :=
  { ts with seconds := ts.seconds + k }

/-- The other date lies in the next era. -/
def Rolls (ts : NtpTimestamp) (k : UInt32) : Prop :=
  4294967296 ≤ ts.seconds.toNat + k.toNat

instance instDecidableRolls (ts : NtpTimestamp) (k : UInt32) : Decidable (ts.Rolls k) :=
  inferInstanceAs (Decidable (4294967296 ≤ ts.seconds.toNat + k.toNat))

/-- How many eras the move takes the timestamp on. -/
def erasPassed (ts : NtpTimestamp) (k : UInt32) : Int := if ts.Rolls k then 1 else 0

/-- An era in microseconds. -/
def eraMicros : Int := 4294967296 * 1000000

/-- The decoded instant moves by the seconds that are added, less an era for
each that is passed. -/
theorem micros_addSeconds (ts : NtpTimestamp) (k : UInt32) :
    (ts.addSeconds k).micros
      = ts.micros + k.toNat * 1000000 - ts.erasPassed k * eraMicros := by
  have hs := ts.seconds.toNat_lt
  have hk := k.toNat_lt
  have hsum : (ts.seconds + k).toNat = (ts.seconds.toNat + k.toNat) % 4294967296 :=
    UInt32.toNat_add ts.seconds k
  show (((ts.seconds + k).toNat : Int) - ntpEpochOffset) * 1000000
    + (ts.fraction.toNat : Int) * 1000000 / 4294967296 = _
  rw [hsum, micros, erasPassed, eraMicros]
  split
  · rename_i hrolls
    unfold Rolls at hrolls
    omega
  · rename_i hstays
    unfold Rolls at hstays
    omega

/-- Two timestamps pass the same number of eras when both roll or neither. -/
theorem erasPassed_eq_iff {ts ts' : NtpTimestamp} {k : UInt32} :
    ts.erasPassed k = ts'.erasPassed k ↔ (ts.Rolls k ↔ ts'.Rolls k) := by
  unfold erasPassed
  by_cases h : ts.Rolls k <;> by_cases h' : ts'.Rolls k <;> simp [h, h']

theorem erasPassed_bounds (ts : NtpTimestamp) (k : UInt32) :
    0 ≤ ts.erasPassed k ∧ ts.erasPassed k ≤ 1 := by
  unfold erasPassed
  split <;> decide

end NtpTimestamp

open NtpTimestamp NtpPacketHandler

/-- On another date the delay is off by whole eras. -/
theorem NtpPacketHandler.calculateRoundTripDelay_addSeconds (t1 t2 t3 t4 : NtpTimestamp)
    (k : UInt32) :
    calculateRoundTripDelay (t1.addSeconds k) (t2.addSeconds k) (t3.addSeconds k)
        (t4.addSeconds k)
      = calculateRoundTripDelay t1 t2 t3 t4
        + (t1.erasPassed k - t2.erasPassed k + t3.erasPassed k - t4.erasPassed k) * eraMicros := by
  rw [calculateRoundTripDelay_eq, calculateRoundTripDelay_eq, micros_addSeconds,
    micros_addSeconds, micros_addSeconds, micros_addSeconds]
  ring

/-- In the sum the offset is half of, each timestamp that passes an era counts as one of
them too, with the sign it has there. -/
theorem NtpPacketHandler.calculateOffset_addSeconds (t1 t2 t3 t4 : NtpTimestamp) (k : UInt32) :
    calculateOffset (t1.addSeconds k) (t2.addSeconds k) (t3.addSeconds k) (t4.addSeconds k)
      = ((t2.micros - t1.micros) + (t3.micros - t4.micros)
        + (t1.erasPassed k - t2.erasPassed k - t3.erasPassed k + t4.erasPassed k)
          * eraMicros).tdiv 2 := by
  rw [calculateOffset_eq, micros_addSeconds, micros_addSeconds, micros_addSeconds,
    micros_addSeconds]
  congr 1
  ring

/-- **When the date does not matter.** The offset and the delay of the moved
exchange are those of the exchange exactly when the request, and likewise the
reply, leaves and arrives in one era. -/
theorem era_independent_iff (t1 t2 t3 t4 : NtpTimestamp) (k : UInt32) :
    (calculateOffset (t1.addSeconds k) (t2.addSeconds k) (t3.addSeconds k) (t4.addSeconds k)
          = calculateOffset t1 t2 t3 t4 ∧
        calculateRoundTripDelay (t1.addSeconds k) (t2.addSeconds k) (t3.addSeconds k)
            (t4.addSeconds k)
          = calculateRoundTripDelay t1 t2 t3 t4) ↔
      (t1.Rolls k ↔ t2.Rolls k) ∧ (t3.Rolls k ↔ t4.Rolls k) := by
  have h1 := t1.erasPassed_bounds k
  have h2 := t2.erasPassed_bounds k
  have h3 := t3.erasPassed_bounds k
  have h4 := t4.erasPassed_bounds k
  rw [calculateOffset_addSeconds, calculateRoundTripDelay_addSeconds, calculateOffset_eq,
    ← erasPassed_eq_iff, ← erasPassed_eq_iff]
  generalize (t2.micros - t1.micros) + (t3.micros - t4.micros) = sum
  unfold eraMicros
  constructor
  · rintro ⟨hoffset, hdelay⟩
    -- an era is more than the truncation of the halves can hide
    have hbefore := Exchange.tdiv_two_error sum
    have hafter := Exchange.tdiv_two_error (sum
      + (t1.erasPassed k - t2.erasPassed k - t3.erasPassed k + t4.erasPassed k)
        * (4294967296 * 1000000))
    rw [hoffset] at hafter
    have hsum : t1.erasPassed k - t2.erasPassed k - t3.erasPassed k + t4.erasPassed k = 0 := by
      omega
    omega
  · rintro ⟨h12, h34⟩
    rw [h12, h34]
    constructor
    · congr 1
      omega
    · omega

/-- A request that is one second on its way and answered at once. One second
later the era ends while it is on its way, and the offset is off by half an
era. -/
theorem straddling_exchange_differs :
    ¬ ∀ (t1 t2 t3 t4 : NtpTimestamp) (k : UInt32),
      calculateOffset (t1.addSeconds k) (t2.addSeconds k) (t3.addSeconds k) (t4.addSeconds k)
          = calculateOffset t1 t2 t3 t4 ∧
        calculateRoundTripDelay (t1.addSeconds k) (t2.addSeconds k) (t3.addSeconds k)
            (t4.addSeconds k)
          = calculateRoundTripDelay t1 t2 t3 t4 := by
  intro h
  have hoffset := (h ⟨4294967294, 0⟩ ⟨4294967295, 0⟩ ⟨4294967295, 0⟩ ⟨4294967295, 0⟩ 1).1
  revert hoffset
  decide

end SimpleNtpd
