import Mathlib.Algebra.Order.Field.Basic
import Mathlib.Data.Rat.Cast.Order
import Mathlib.Logic.Function.Iterate
import Mathlib.Tactic.FieldSimp
import Mathlib.Tactic.Linarith
import SimpleNtpd.Core.Timestamp
import SimpleNtpd.Lib.FixedPoint

/-!
# Encoding and decoding the clock

A reading of the clock counts nanoseconds, a timestamp units of `2 ^ -32` s
(`ticks`), and decoding gives whole microseconds. In the era, `fromSystemTime` and
`toSystemTime` are the conversions between these counts, truncating both
(`ticks_fromSystemTime`, `micros_eq_rescale`): so encoding keeps the order and
loses less than a nanosecond, and decoding after it less than a microsecond more
(`encoding_monotone`).

Two truncations do not cancel. A whole microsecond that is encoded and decoded
comes back one early, unless it is a multiple of 1/64 s, which both units hold
(`reencoding_stable_iff`); one pass after the other, the time walks back to such a
multiple (`micros_iterate_reencode`). Before 1970, where seconds and fraction of
the reading are negative, the encoder truncates the seconds toward zero and takes
the fraction for an unsigned number; what it gives is later than the reading unless
the seconds are whole (`encoding_inverts_iff`).
-/

namespace SimpleNtpd

open Cpp FixedPoint

namespace NtpTimestamp

/-! ## Timestamps in order -/

/-- The timestamp in units of `2 ^ -32` s. -/
def ticks (ts : NtpTimestamp) : Nat := ts.seconds.toNat * 4294967296 + ts.fraction.toNat

/-- Timestamps of one era are compared as numbers. -/
instance instLENtpTimestamp : LE NtpTimestamp := ⟨fun ts ts' => ts.ticks ≤ ts'.ticks⟩

instance instDecidableLENtpTimestamp (ts ts' : NtpTimestamp) : Decidable (ts ≤ ts') :=
  inferInstanceAs (Decidable (ts.ticks ≤ ts'.ticks))

/-- In the era, encoding converts the nanoseconds since 1900 to ticks. -/
theorem ticks_fromSystemTime {time : Int} (h : InEra time) :
    ((fromSystemTime time).ticks : Int)
      = rescale 1000000000 4294967296 (time + ntpEpochOffset * 1000000000) := by
  have hs := fromSystemTime_seconds h
  have hf := fromSystemTime_fraction h
  have hsplit : time + ntpEpochOffset * 1000000000
      = time % 1000000000 + (time / 1000000000 + ntpEpochOffset) * 1000000000 := by omega
  rw [hsplit, rescale_add_mul (by decide), ← hs, rescale, ← hf, ticks]
  omega

/-- Decoding converts ticks to microseconds since 1900, of every timestamp. -/
theorem micros_eq_rescale (ts : NtpTimestamp) :
    ts.micros + ntpEpochOffset * 1000000 = rescale 4294967296 1000000 ts.ticks := by
  have hsplit : (ts.ticks : Int) = ts.fraction.toNat + ts.seconds.toNat * 4294967296 := by
    rw [ticks]
    omega
  rw [hsplit, rescale_add_mul (by decide), rescale, micros]
  omega

/-- A tick is less than a nanosecond, so no two readings get one timestamp. -/
theorem fromSystemTime_le_iff {time time' : Int} (h : InEra time) (h' : InEra time') :
    fromSystemTime time ≤ fromSystemTime time' ↔ time ≤ time' := by
  show (fromSystemTime time).ticks ≤ (fromSystemTime time').ticks ↔ _
  rw [← Int.ofNat_le, ticks_fromSystemTime h, ticks_fromSystemTime h',
    rescale_le_iff (by decide) (by decide)]
  omega

/-- A reading that has been made a timestamp and back, in whole microseconds. One
that is a whole microsecond comes back one early, unless it is a multiple of
`5 ^ 9` ns, which the binary fraction holds exactly. -/
def readBack (time : Int) : Int :=
  if time % 1000 = 0 ∧ time % 1953125 ≠ 0 then time - 1000 else time - time % 1000

/-- The microseconds that come back of the nanoseconds of a second. -/
theorem fraction_readBack (n : Int) :
    n * 4294967296 / 1000000000 * 1000000 / 4294967296
      = if n % 1000 = 0 ∧ n % 1953125 ≠ 0 then n / 1000 - 1 else n / 1000 := by
  generalize hq : n * 4294967296 / 1000000000 = q
  generalize hr : q * 1000000 / 4294967296 = r
  have hfraction : 1953125 * q ≤ 8388608 * n ∧ 8388608 * n < 1953125 * q + 1953125 := by omega
  have hmicros : 67108864 * r ≤ 15625 * q ∧ 15625 * q < 67108864 * r + 67108864 := by omega
  clear hq hr
  -- so at most one microsecond is lost, and only of a whole one
  have hbetween : 1000 * r ≤ n ∧ n ≤ 1000 * r + 1000 := by omega
  by_cases hwhole : n % 1000 = 0
  · obtain ⟨m, rfl⟩ := Int.dvd_of_emod_eq_zero hwhole
    by_cases hexact : m % 15625 = 0
    · obtain ⟨j, rfl⟩ := Int.dvd_of_emod_eq_zero hexact
      have hj : q = 67108864 * j := by
        clear hmicros hbetween
        omega
      have hexactly : r = 15625 * j := by
        clear hfraction hbetween
        omega
      have hdvd : 1000 * (15625 * j) % 1953125 = 0 := by
        clear hfraction hmicros hbetween
        omega
      rw [if_neg fun h => h.2 hdvd, hexactly, Int.mul_ediv_cancel_left _ (by decide)]
    · have hinexact : 15625 * q ≠ 67108864 * m := by
        clear hfraction hmicros hbetween
        omega
      have hlost : r = m - 1 := by
        obtain ⟨hfraction, -⟩ := hfraction
        obtain ⟨hmicros, -⟩ := hmicros
        clear hwhole hexact
        omega
      have hnot : 1000 * m % 1953125 ≠ 0 := by
        clear hfraction hmicros hbetween hinexact hlost
        omega
      rw [if_pos ⟨hwhole, hnot⟩, hlost, Int.mul_ediv_cancel_left m (by decide)]
  · rw [if_neg (fun h => hwhole h.1)]
    clear hfraction hmicros
    omega

theorem toSystemTime_fromSystemTime_eq {time : Int} (h : InEra time) :
    (fromSystemTime time).toSystemTime = readBack time := by
  have hs := fromSystemTime_seconds h
  have hf := fromSystemTime_fraction h
  have hn := fraction_readBack (time % 1000000000)
  rw [toSystemTime_eq, micros, hs, hf, hn, readBack]
  clear hs hf hn
  have hmod : time % 1000000000 % 1000 = time % 1000 := by omega
  have hmod' : time % 1000000000 % 1953125 = time % 1953125 := by omega
  rw [hmod, hmod']
  split
  · omega
  · omega

/-- Decoding keeps the order. -/
theorem toSystemTime_mono {ts ts' : NtpTimestamp} (h : ts ≤ ts') :
    ts.toSystemTime ≤ ts'.toSystemTime := by
  have hticks : (ts.ticks : Int) ≤ ts'.ticks := Int.ofNat_le.mpr h
  have hmicros : rescale 4294967296 1000000 ts.ticks ≤ rescale 4294967296 1000000 ts'.ticks :=
    rescale_mono (by decide) (by decide) hticks
  rw [← micros_eq_rescale, ← micros_eq_rescale] at hmicros
  rw [toSystemTime_eq, toSystemTime_eq]
  omega

/-- Seconds count before fractions. -/
theorem le_iff_lex {ts ts' : NtpTimestamp} :
    ts ≤ ts' ↔ ts.seconds < ts'.seconds ∨ ts.seconds = ts'.seconds ∧ ts.fraction ≤ ts'.fraction := by
  have hf := ts.fraction.toNat_lt
  have hf' := ts'.fraction.toNat_lt
  show ts.ticks ≤ ts'.ticks ↔ _
  rw [UInt32.lt_iff_toNat_lt, UInt32.le_iff_toNat_le, ← UInt32.toNat_inj, ticks, ticks]
  omega

/-! ## The instant a timestamp denotes -/

/-- In nanoseconds since 1970. -/
def instant (ts : NtpTimestamp) : ℚ :=
  (ts.ticks : ℚ) * 1000000000 / 4294967296 - ntpEpochOffset * 1000000000

theorem instant_le_iff {ts ts' : NtpTimestamp} : ts.instant ≤ ts'.instant ↔ ts ≤ ts' := by
  rw [instant, instant, sub_le_sub_iff_right, div_le_div_iff_of_pos_right (by norm_num),
    mul_le_mul_iff_left₀ (by norm_num), Nat.cast_le]
  rfl

/-- Encoding a reading of the era loses less than a nanosecond. -/
theorem instant_fromSystemTime {time : Int} (h : InEra time) :
    (fromSystemTime time).instant ≤ time ∧ (time : ℚ) < (fromSystemTime time).instant + 1 := by
  have hle : rescale 1000000000 4294967296 (time + ntpEpochOffset * 1000000000) * 1000000000
      ≤ (time + ntpEpochOffset * 1000000000) * 4294967296 := rescale_mul_le (by decide)
  have hlt : (time + ntpEpochOffset * 1000000000) * 4294967296
      < (rescale 1000000000 4294967296 (time + ntpEpochOffset * 1000000000) + 1) * 1000000000 :=
    lt_rescale_add_one_mul (by decide)
  rw [← ticks_fromSystemTime h] at hle hlt
  have hle' : ((fromSystemTime time).ticks : ℚ) * 1000000000
      ≤ (time + ntpEpochOffset * 1000000000) * 4294967296 := by exact_mod_cast hle
  have hlt' : (time + ntpEpochOffset * 1000000000 : ℚ) * 4294967296
      < ((fromSystemTime time).ticks + 1) * 1000000000 := by exact_mod_cast hlt
  rw [instant]
  constructor <;> linarith

/-- Decoding loses less than a microsecond, of every timestamp. -/
theorem instant_toSystemTime (ts : NtpTimestamp) :
    (ts.toSystemTime : ℚ) ≤ ts.instant ∧ ts.instant < ts.toSystemTime + 1000 := by
  have hle : rescale 4294967296 1000000 ts.ticks * 4294967296 ≤ ts.ticks * 1000000 :=
    rescale_mul_le (by decide)
  have hlt : (ts.ticks : Int) * 1000000 < (rescale 4294967296 1000000 ts.ticks + 1) * 4294967296 :=
    lt_rescale_add_one_mul (by decide)
  rw [← micros_eq_rescale] at hle hlt
  have hle' : ((ts.micros + ntpEpochOffset * 1000000 : ℤ) : ℚ) * 4294967296
      ≤ ts.ticks * 1000000 := by exact_mod_cast hle
  have hlt' : (ts.ticks : ℚ) * 1000000
      < ((ts.micros + ntpEpochOffset * 1000000 : ℤ) + 1) * 4294967296 := by exact_mod_cast hlt
  rw [toSystemTime_eq, instant]
  push_cast at hle' hlt' ⊢
  constructor <;> linarith

/-! ## Readings of the era -/

/-- The nanoseconds of the second. The encoder multiplies them by `2 ^ 32` and divides the
product by a thousand million. -/
def subseconds (time : Int) : Int := time - time.tdiv 1000000000 * 1000000000

/-- In the era the product stays below `2 ^ 64`. -/
theorem product_of_inEra {time : Int} (h : InEra time) :
    (u64 (u64 (subseconds time) * 4294967296) : Int) = subseconds time * 4294967296 := by
  have hrem : subseconds time = time % 1000000000 := by
    rw [subseconds, Int.tdiv_eq_ediv_of_nonneg h.1]
    omega
  rw [hrem, u64_mul_u64]
  exact u64_eq (by omega) (by omega)

/-- **Encoding is monotone, and its error tight.** For all readings of the era: the
later one does not get the smaller timestamp, the product does not wrap, and what is
decoded is at most a microsecond early. -/
theorem encoding_monotone (t u : Int) (ht : InEra t) (hu : InEra u) (h : t ≤ u) :
    ((fromSystemTime t).seconds < (fromSystemTime u).seconds ∨
      (fromSystemTime t).seconds = (fromSystemTime u).seconds ∧
        (fromSystemTime t).fraction ≤ (fromSystemTime u).fraction) ∧
    (u64 (u64 (subseconds t) * 4294967296) : Int) = subseconds t * 4294967296 ∧
    0 ≤ t - (fromSystemTime t).toSystemTime ∧ t - (fromSystemTime t).toSystemTime ≤ 1000 := by
  have herror := toSystemTime_fromSystemTime ht
  refine ⟨le_iff_lex.mp ((fromSystemTime_le_iff ht hu).mpr h), product_of_inEra ht, ?_, ?_⟩
  · omega
  · omega

/-- Two readings of 2026, the last of a second and the first of the next. -/
theorem encoding_monotone_2026 :
    ((fromSystemTime 1778000000999999999).seconds < (fromSystemTime 1778000001000000000).seconds ∨
      (fromSystemTime 1778000000999999999).seconds = (fromSystemTime 1778000001000000000).seconds ∧
        (fromSystemTime 1778000000999999999).fraction
          ≤ (fromSystemTime 1778000001000000000).fraction) ∧
    (u64 (u64 (subseconds 1778000000999999999) * 4294967296) : Int)
      = subseconds 1778000000999999999 * 4294967296 ∧
    0 ≤ 1778000000999999999 - (fromSystemTime 1778000000999999999).toSystemTime ∧
    1778000000999999999 - (fromSystemTime 1778000000999999999).toSystemTime ≤ 1000 :=
  encoding_monotone 1778000000999999999 1778000001000000000 (by decide) (by decide) (by decide)

/-! ## Decoding and encoding again -/

/-- One pass of decoding and encoding. -/
def reencode (ts : NtpTimestamp) : NtpTimestamp := fromSystemTime ts.toSystemTime

/-- From 1970 on a timestamp decodes to a reading of the era. -/
theorem inEra_toSystemTime {ts : NtpTimestamp} (h : 2208988800 ≤ ts.seconds.toNat) :
    InEra ts.toSystemTime := by
  have hb := ts.micros_bounds
  have hnonneg : 0 ≤ ts.micros := by
    unfold micros ntpEpochOffset
    omega
  rw [toSystemTime_eq]
  exact ⟨by omega, by omega⟩

/-- **A whole microsecond**, encoded and decoded. -/
theorem micros_fromSystemTime {m : Int} (h : InEra (m * 1000)) :
    (fromSystemTime (m * 1000)).micros = if 15625 ∣ m then m else m - 1 := by
  have hstep : exactStep 1000000 4294967296 = 15625 := by decide +kernel
  have hepoch : m * 1000 + ntpEpochOffset * 1000000000 = (m + ntpEpochOffset * 1000000) * 1000 := by
    omega
  have hback := rescale_rescale (p := 1000000) (q := 4294967296) (x := m + ntpEpochOffset * 1000000)
    (by decide) (by decide)
  have hticks : ((fromSystemTime (m * 1000)).ticks : Int)
      = rescale 1000000 4294967296 (m + ntpEpochOffset * 1000000) := by
    rw [ticks_fromSystemTime h, hepoch]
    exact rescale_mul_mul (by decide) 1000000 4294967296 _
  rw [← hticks, ← micros_eq_rescale, hstep] at hback
  unfold ntpEpochOffset at hback
  split at hback <;> split <;> omega

/-- Readings of the era with one timestamp are the same. -/
theorem fromSystemTime_inj {time time' : Int} (h : InEra time) (h' : InEra time') :
    fromSystemTime time = fromSystemTime time' ↔ time = time' := by
  refine ⟨fun heq => ?_, fun heq => by rw [heq]⟩
  have hle := fromSystemTime_le_iff h h'
  have hge := fromSystemTime_le_iff h' h
  rw [heq, le_iff_lex] at hle hge
  have hrefl := UInt32.le_refl (fromSystemTime time').fraction
  have hle' : time ≤ time' := hle.mp (.inr ⟨rfl, hrefl⟩)
  have hge' : time' ≤ time := hge.mp (.inr ⟨rfl, hrefl⟩)
  omega

/-- A whole microsecond that is held exactly in both units, by its fraction. -/
theorem dvd_micros_iff (ts : NtpTimestamp) :
    15625 ∣ ts.micros ↔ ts.fraction.toNat * 1000000 / 4294967296 % 15625 = 0 := by
  have hpart : ((ts.fraction.toNat * 1000000 / 4294967296 : Nat) : Int)
      = (ts.fraction.toNat : Int) * 1000000 / 4294967296 := by
    push_cast
    rfl
  unfold micros ntpEpochOffset
  omega

/-- What decodes to a reading of the era keeps doing so. -/
theorem seconds_reencode {ts : NtpTimestamp} (h : 2208988800 ≤ ts.seconds.toNat) :
    2208988800 ≤ ts.reencode.seconds.toNat := by
  have hera := inEra_toSystemTime h
  have hs := fromSystemTime_seconds hera
  have hnonneg := hera.1
  unfold reencode
  unfold ntpEpochOffset at hs
  omega

theorem micros_reencode {ts : NtpTimestamp} (h : 2208988800 ≤ ts.seconds.toNat) :
    ts.reencode.micros = if 15625 ∣ ts.micros then ts.micros else ts.micros - 1 := by
  have hera := inEra_toSystemTime h
  rw [reencode]
  rw [toSystemTime_eq] at hera ⊢
  exact micros_fromSystemTime hera

/-- **When a pass changes nothing any more.** For every timestamp from 1970 on: a
second pass gives what the first one gave exactly when the fraction, truncated to
microseconds, is a multiple of 1/64 s. For every whole microsecond of the era: it is
preserved exactly when it is such a multiple. -/
theorem reencoding_stable_iff (ts : NtpTimestamp) (h : 2208988800 ≤ ts.seconds.toNat) (m : Int)
    (hm : InEra (m * 1000)) :
    (ts.reencode.reencode = ts.reencode ↔
      ts.fraction.toNat * 1000000 / 4294967296 % 15625 = 0) ∧
    ((fromSystemTime (m * 1000)).toSystemTime = m * 1000 ↔ m % 15625 = 0) := by
  constructor
  · have hmicros := micros_reencode h
    rw [← dvd_micros_iff]
    show fromSystemTime ts.reencode.toSystemTime = fromSystemTime ts.toSystemTime ↔ _
    rw [fromSystemTime_inj (inEra_toSystemTime (seconds_reencode h)) (inEra_toSystemTime h),
      toSystemTime_eq, toSystemTime_eq, hmicros]
    split
    · rename_i hdvd
      exact iff_of_true rfl hdvd
    · rename_i hnot
      exact iff_of_false (by omega) hnot
  · rw [toSystemTime_eq, micros_fromSystemTime hm]
    split
    · omega
    · omega

/-- The first 1/64 s of 1970. -/
theorem reencoding_stable_example :
    reencode (reencode ⟨2208988800, 67108864⟩) = reencode ⟨2208988800, 67108864⟩ ∧
      (fromSystemTime (15625 * 1000)).toSystemTime = 15625 * 1000 :=
  ⟨(reencoding_stable_iff ⟨2208988800, 67108864⟩ (by decide) 15625 (by decide)).1.mpr (by decide),
    (reencoding_stable_iff ⟨2208988800, 67108864⟩ (by decide) 15625 (by decide)).2.mpr (by decide)⟩

/-- Two microseconds behind 1970, less with each pass. -/
theorem microsecond_lost :
    ¬ ∀ ts : NtpTimestamp, 2208988800 ≤ ts.seconds.toNat → ts.reencode.reencode = ts.reencode := by
  intro h
  have hpasses := h ⟨2208988800, 8590⟩ (by decide)
  revert hpasses
  decide +kernel

/-- **Passes** walk the time back to the multiple of 1/64 s in front of it, a microsecond
a pass; induction on the passes. -/
theorem micros_iterate_reencode (n : Nat) {ts : NtpTimestamp} (h : 2208988800 ≤ ts.seconds.toNat) :
    (reencode^[n] ts).micros = max (ts.micros - n) (ts.micros - ts.micros % 15625) := by
  induction n generalizing ts with
  | zero =>
    rw [Function.iterate_zero_apply]
    omega
  | succ n ih =>
    rw [Function.iterate_succ_apply, ih (seconds_reencode h), micros_reencode h]
    split
    · omega
    · omega

/-! ## Before 1970 -/

/-- Where the seconds are not whole, truncation toward zero gives the next second. -/
theorem seconds_reencode_of_before {ts : NtpTimestamp} (h : ts.seconds.toNat < 2208988800)
    (hfraction : 4294967296 ≤ ts.fraction.toNat * 1000000) :
    ts.reencode.seconds.toNat = ts.seconds.toNat + 1 := by
  have hf := ts.fraction.toNat_lt
  have hquot : ts.toSystemTime.tdiv 1000000000 = ts.seconds.toNat + 1 - ntpEpochOffset := by
    have hneg : ts.toSystemTime = -(-ts.toSystemTime) := by omega
    have hnonneg : 0 ≤ -ts.toSystemTime := by
      rw [toSystemTime_eq, micros, ntpEpochOffset]
      omega
    rw [hneg, Int.neg_tdiv, Int.tdiv_eq_ediv_of_nonneg hnonneg, toSystemTime_eq, micros,
      ntpEpochOffset]
    omega
  show (UInt32.ofNat (u64 (u64 (ts.toSystemTime.tdiv 1000000000) + ntpEpochOffset))).toNat = _
  have hu := u64_eq (x := ts.seconds.toNat + 1) (by omega) (by omega)
  rw [hquot, u64_add_u64, Int.sub_add_cancel, UInt32.toNat_ofNat']
  omega

/-- Where they are, the fraction of the reading is zero. -/
theorem reencode_of_before {ts : NtpTimestamp} (hfraction : ts.fraction.toNat * 1000000 < 4294967296) :
    ts.reencode = ⟨ts.seconds, 0⟩ := by
  have hs := ts.seconds.toNat_lt
  have htime : ts.toSystemTime = (ts.seconds.toNat - ntpEpochOffset) * 1000000000 := by
    rw [toSystemTime_eq, micros]
    omega
  have hquot : ts.toSystemTime.tdiv 1000000000 = ts.seconds.toNat - ntpEpochOffset := by
    rw [htime]
    exact Int.mul_tdiv_cancel _ (by decide)
  have hzero : subseconds ts.toSystemTime = 0 := by
    rw [subseconds, hquot, htime]
    omega
  have hseconds : UInt32.ofNat (u64 (u64 (ts.toSystemTime.tdiv 1000000000) + ntpEpochOffset))
      = ts.seconds := by
    have hu := u64_eq (x := ts.seconds.toNat) (by omega) (by omega)
    rw [hquot, u64_add_u64, Int.sub_add_cancel, ← UInt32.toNat_inj, UInt32.toNat_ofNat']
    omega
  show (⟨UInt32.ofNat (u64 (u64 (ts.toSystemTime.tdiv 1000000000) + ntpEpochOffset)),
    UInt32.ofNat (u64 (u64 (subseconds ts.toSystemTime) * 4294967296) / 1000000000)⟩
      : NtpTimestamp) = _
  rw [hseconds, hzero]
  rfl

/-- What comes back is not later than the timestamp, and less than 1.001 µs earlier. -/
def ReencodedClosely (ts : NtpTimestamp) : Prop :=
  ts.reencode.instant ≤ ts.instant ∧ ts.instant - ts.reencode.instant < 1001

/-- **When encoding inverts decoding.** For every timestamp: exactly when it lies in
1970 or later, or its fraction is less than a microsecond. -/
theorem encoding_inverts_iff (ts : NtpTimestamp) :
    ts.ReencodedClosely ↔
      2208988800 ≤ ts.seconds.toNat ∨ ts.fraction.toNat * 1000000 < 4294967296 := by
  have hdecode := ts.instant_toSystemTime
  constructor
  · rintro ⟨hle, -⟩
    by_contra hbefore
    rw [not_or, Nat.not_le, Nat.not_lt] at hbefore
    -- what comes back lies in the next second
    have hseconds := seconds_reencode_of_before hbefore.1 hbefore.2
    have hf := ts.fraction.toNat_lt
    have hticks : ts.reencode.ticks ≤ ts.ticks := instant_le_iff.mp hle
    unfold ticks at hticks
    omega
  · by_cases hera : 2208988800 ≤ ts.seconds.toNat
    · intro _
      have hencode := instant_fromSystemTime (inEra_toSystemTime hera)
      unfold ReencodedClosely reencode
      constructor
      · linarith
      · linarith
    · intro h
      have hfraction := h.resolve_left hera
      have hsame : ts.reencode.ticks + ts.fraction.toNat = ts.ticks := by
        rw [reencode_of_before hfraction, ticks, ticks, UInt32.toNat_zero, Nat.add_zero]
      have hsame' : (ts.reencode.ticks : ℚ) + ts.fraction.toNat = ts.ticks := by
        exact_mod_cast hsame
      have hnonneg : (0 : ℚ) ≤ ts.fraction.toNat := Nat.cast_nonneg _
      have hfraction' : (ts.fraction.toNat : ℚ) * 1000000 < 4294967296 := by
        exact_mod_cast hfraction
      unfold ReencodedClosely instant
      constructor
      · linarith
      · linarith

/-- Half a second before 1970 comes back 1.29 s late. -/
theorem before_1970_late : ¬ ∀ ts : NtpTimestamp, ts.ReencodedClosely := by
  intro h
  have hticks := instant_le_iff.mp (h ⟨2208988799, 2147483648⟩).1
  revert hticks
  decide +kernel

end NtpTimestamp

end SimpleNtpd
