import Mathlib.Algebra.Ring.Nat
import Mathlib.Data.List.Basic
import Mathlib.Order.Lattice

/-!
# Limits on keyed events

A limiter counts events under a key (a minute, say) and lets an event pass while
the count is within its limit. Its decisions, in the order they were made, form
a log of keys and verdicts. `Follows` says that every decision is a rule's on the
number of earlier ones under the same key; then the decisions under one key are
determined by how many there are (`Follows.firstPass`).

Two ways to keep the counts are related to the log. `Counted`: a counter for each
key. `Latest`: a counter for the latest key only, which forgets a key when a later
one comes, and is right as long as the keys do not go back.
-/

namespace Window

variable {κ : Type*} [DecidableEq κ]

/-- The decisions under a key, in order. -/
def decisions (k : κ) (log : List (κ × Bool)) : List Bool :=
  log.filterMap fun entry => if entry.1 = k then some entry.2 else none

@[simp] theorem decisions_nil (k : κ) : decisions k [] = [] := rfl

theorem decisions_concat_self (k : κ) (passed : Bool) (log : List (κ × Bool)) :
    decisions k (log ++ [(k, passed)]) = decisions k log ++ [passed] := by
  simp [decisions]

theorem decisions_concat_of_ne {k k' : κ} (h : k' ≠ k) (passed : Bool) (log : List (κ × Bool)) :
    decisions k (log ++ [(k', passed)]) = decisions k log := by
  simp [decisions, h]

/-- A key that does not occur has no decisions. -/
theorem decisions_eq_nil {k : κ} {log : List (κ × Bool)} (h : ∀ entry ∈ log, entry.1 ≠ k) :
    decisions k log = [] :=
  List.filterMap_eq_nil_iff.mpr fun entry hentry => if_neg (h entry hentry)

/-! ## Rules -/

/-- The decisions under every key are those of a rule on the numbers of earlier
ones: 0, 1, 2, … -/
def Follows (rule : ℕ → Bool) (log : List (κ × Bool)) : Prop :=
  ∀ k, decisions k log = (List.range (decisions k log).length).map rule

theorem Follows.nil (rule : ℕ → Bool) : Follows rule ([] : List (κ × Bool)) := fun _ => rfl

/-- One more decision by the rule. -/
theorem Follows.concat {rule : ℕ → Bool} {log : List (κ × Bool)} (h : Follows rule log) (k : κ) :
    Follows rule (log ++ [(k, rule (decisions k log).length)]) := by
  intro k'
  by_cases hk : k = k'
  · subst hk
    rw [decisions_concat_self, List.length_append, List.length_singleton, List.range_succ,
      List.map_append, ← h k]
    rfl
  · rw [decisions_concat_of_ne hk, ← h k']

/-- The first `limit` decisions are positive, the others are not. -/
def FirstPass (limit : ℕ) (ds : List Bool) : Prop :=
  ds = List.replicate (min ds.length limit) true ++ List.replicate (ds.length - limit) false

instance (limit : ℕ) (ds : List Bool) : Decidable (FirstPass limit ds) :=
  inferInstanceAs (Decidable (_ = _))

theorem map_range_threshold (limit n : ℕ) :
    (List.range n).map (fun i => decide (i < limit))
      = List.replicate (min n limit) true ++ List.replicate (n - limit) false := by
  induction n with
  | zero => simp
  | succ n ih =>
    rw [List.range_succ, List.map_append, ih]
    by_cases h : n < limit
    · -- nothing has been refused yet
      rw [Nat.min_eq_left (Nat.le_of_lt h), Nat.min_eq_left h,
        Nat.sub_eq_zero_of_le (Nat.le_of_lt h), Nat.sub_eq_zero_of_le h]
      simp [h, List.replicate_succ']
    · have hle : limit ≤ n := Nat.not_lt.mp h
      rw [Nat.min_eq_right hle, Nat.min_eq_right (Nat.le_succ_of_le hle), Nat.succ_sub hle]
      simp [h, List.replicate_succ']

/-- A rule that is a threshold on the numbers that occur lets exactly the first
events under a key pass. -/
theorem Follows.firstPass {rule : ℕ → Bool} {log : List (κ × Bool)} (h : Follows rule log) {k : κ}
    {limit : ℕ} (hrule : ∀ i < (decisions k log).length, rule i = decide (i < limit)) :
    FirstPass limit (decisions k log) := by
  have hmap : (List.range (decisions k log).length).map rule
      = (List.range (decisions k log).length).map fun i => decide (i < limit) :=
    List.map_congr_left fun i hi => hrule i (List.mem_range.mp hi)
  rw [FirstPass, ← map_range_threshold, ← hmap]
  exact h k

/-- Where the first `limit` events pass, at most `limit` pass. -/
theorem FirstPass.count_true_le {limit : ℕ} {ds : List Bool} (h : FirstPass limit ds) :
    ds.count true ≤ limit := by
  rw [h, List.count_append, List.count_replicate_self, List.count_replicate]
  exact Nat.min_le_right ds.length limit

/-! ## Counters of 32 bits -/

/-- What a counter of 32 bits that starts at zero decides on the event after `n`
others: count it, and compare. -/
def withinLimit (limit : UInt32) (n : ℕ) : Bool := !(UInt32.ofNat n + 1 > limit)

/-- Before the counter wraps this is a threshold. -/
theorem withinLimit_of_lt {limit : UInt32} {n : ℕ} (h : n + 1 < 2 ^ 32) :
    withinLimit limit n = decide (n < limit.toNat) := by
  have hcount : (UInt32.ofNat n + 1).toNat = n + 1 := by
    rw [UInt32.toNat_add, UInt32.toNat_ofNat_of_lt' (Nat.lt_of_succ_lt h)]
    exact Nat.mod_eq_of_lt h
  have hgt : UInt32.ofNat n + 1 > limit ↔ ¬n < limit.toNat := by
    rw [gt_iff_lt, UInt32.lt_iff_toNat_lt, hcount, Nat.not_lt, Nat.lt_succ_iff]
  rw [withinLimit, decide_eq_decide.mpr hgt, decide_not, Bool.not_not]

/-- Fewer than 2^32 events under a key: exactly the first ones pass. -/
theorem Follows.firstPass_withinLimit {limit : UInt32} {log : List (κ × Bool)}
    (h : Follows (withinLimit limit) log) {k : κ} (hlt : (decisions k log).length < 2 ^ 32) :
    FirstPass limit.toNat (decisions k log) :=
  h.firstPass fun _ hi => withinLimit_of_lt (by omega)

/-- A counter for each key has counted the decisions on its events. -/
def Counted (count : κ → UInt32) (log : List (κ × Bool)) : Prop :=
  ∀ k, count k = UInt32.ofNat (decisions k log).length

theorem Counted.concat {count : κ → UInt32} {log : List (κ × Bool)} (h : Counted count log)
    (k : κ) (passed : Bool) :
    Counted (Function.update count k (count k + 1)) (log ++ [(k, passed)]) := by
  intro k'
  by_cases hk : k' = k
  · subst hk
    rw [Function.update_self, decisions_concat_self, h k', List.length_append,
      List.length_singleton, UInt32.ofNat_add]
    rfl
  · rw [Function.update_of_ne hk, decisions_concat_of_ne (Ne.symm hk), h k']

/-! ## Times and buckets -/

/-- A span as long as a bucket meets two buckets. -/
theorem bucket_of_span {width start now : ℕ} (hge : start ≤ now) (hle : now ≤ start + width) :
    now / width = start / width ∨ now / width = start / width + 1 := by
  rcases Nat.eq_zero_or_pos width with rfl | hpos
  · simp
  have hlow : start / width ≤ now / width := Nat.div_le_div_right hge
  have hhigh : now / width ≤ start / width + 1 := by
    rw [← Nat.add_div_right start hpos]
    exact Nat.div_le_div_right hle
  omega

/-- What happens in the span happens in one of the two. -/
theorem countP_span_le (width start : ℕ) (times : List ℕ) :
    times.countP (fun now => start ≤ now ∧ now ≤ start + width)
      ≤ times.countP (fun now => now / width = start / width)
        + times.countP fun now => now / width = start / width + 1 := by
  induction times with
  | nil => exact Nat.zero_le _
  | cons now times ih =>
    rw [List.countP_cons, List.countP_cons, List.countP_cons]
    simp only [decide_eq_true_eq]
    split
    · rename_i hin
      rcases bucket_of_span hin.1 hin.2 with hfirst | hsecond
      · rw [if_pos hfirst]
        omega
      · rw [if_pos hsecond]
        omega
    · omega

section Latest

variable {κ : Type*} [LinearOrder κ]

/-- One counter has counted the decisions of its key, and no later key occurs. -/
structure Latest (entry : κ × UInt32) (log : List (κ × Bool)) : Prop where
  count : entry.2 = UInt32.ofNat (decisions entry.1 log).length
  le : ∀ decision ∈ log, decision.1 ≤ entry.1

/-- What the counter is worth for a key that is not earlier. -/
theorem Latest.value {entry : κ × UInt32} {log : List (κ × Bool)} (h : Latest entry log) {k : κ}
    (hk : entry.1 ≤ k) :
    (if entry.1 = k then entry.2 else 0) = UInt32.ofNat (decisions k log).length := by
  split
  · rename_i heq
    rw [← heq, h.count]
  · rename_i hne
    -- the key is later than all that were counted
    have hnone : decisions k log = [] := decisions_eq_nil fun decision hdecision hkey =>
      hne (le_antisymm hk (hkey ▸ h.le decision hdecision))
    rw [hnone]
    rfl

/-- Count an event under a key that is not earlier. -/
theorem Latest.concat {entry : κ × UInt32} {log : List (κ × Bool)} (h : Latest entry log) {k : κ}
    (hk : entry.1 ≤ k) (passed : Bool) :
    Latest (k, (if entry.1 = k then entry.2 else 0) + 1) (log ++ [(k, passed)]) where
  count := by
    rw [h.value hk, decisions_concat_self, List.length_append, List.length_singleton,
      UInt32.ofNat_add]
    rfl
  le := by
    intro decision hdecision
    rcases List.mem_append.mp hdecision with hold | hnew
    · exact (h.le decision hold).trans hk
    · rw [List.mem_singleton.mp hnew]

end Latest

end Window
