import Mathlib.Data.List.Sublists

/-!
# Versions

A log of the reads and writes of something that is replaced as a whole, in order.
A read records the version it has found, and every write makes a new one. Where
versions are numbered by the writes (`Stamped`), all reads have found one version
exactly when no write comes between two of them (`sameVersion_iff`).
-/

namespace Versions

variable {ε : Type*}

/-- All reads of the log have found the same version. -/
def SameVersion (read : ε → Option Nat) (log : List ε) : Prop :=
  ∀ e ∈ log, ∀ e' ∈ log, ∀ v v', read e = some v → read e' = some v' → v = v'

/-- A write comes between two reads. -/
def Torn (read : ε → Option Nat) (write : ε → Bool) (log : List ε) : Prop :=
  ∃ r w r', (read r).isSome ∧ write w = true ∧ (read r').isSome ∧ [r, w, r'].Sublist log

/-- A read finds the version with the number of the writes before it, counted from
the given one. A write is no read. -/
def Stamped (read : ε → Option Nat) (write : ε → Bool) : Nat → List ε → Prop
  | _, [] => True
  | n, e :: log =>
    (∀ v, read e = some v → v = n ∧ write e = false) ∧
      Stamped read write (if write e then n + 1 else n) log

variable {read : ε → Option Nat} {write : ε → Bool}

/-- A log that gets one more entry; induction on the log. -/
theorem stamped_append_iff {n : Nat} {log : List ε} {e : ε} :
    Stamped read write n (log ++ [e]) ↔
      Stamped read write n log ∧
        ∀ v, read e = some v → v = n + log.countP write ∧ write e = false := by
  induction log generalizing n with
  | nil =>
    constructor
    · exact fun h => ⟨trivial, h.1⟩
    · exact fun h => ⟨h.2, trivial⟩
  | cons d log ih =>
    rw [List.cons_append, Stamped, Stamped, ih, and_assoc, List.countP_cons]
    have hcount : (if write d = true then n + 1 else n) + log.countP write
        = n + (log.countP write + if write d = true then 1 else 0) := by
      split <;> omega
    rw [hcount]

/-- A log without reads; induction on the log. -/
theorem stamped_of_none {n : Nat} {log : List ε} (h : ∀ e ∈ log, read e = none) :
    Stamped read write n log := by
  induction log generalizing n with
  | nil => trivial
  | cons d log ih =>
    refine ⟨fun v hv => ?_, ih fun e he => h e (List.mem_cons_of_mem d he)⟩
    rw [h d List.mem_cons_self] at hv
    cases hv

/-- Reads of two kinds; induction on the log. -/
theorem Stamped.of_or {read₁ read₂ : ε → Option Nat} {n : Nat} {log : List ε}
    (h₁ : Stamped read₁ write n log) (h₂ : Stamped read₂ write n log)
    (hread : ∀ e v, read e = some v → read₁ e = some v ∨ read₂ e = some v) :
    Stamped read write n log := by
  induction log generalizing n with
  | nil => trivial
  | cons d log ih =>
    refine ⟨fun v hv => ?_, ih h₁.2 h₂.2⟩
    rcases hread d v hv with hv | hv
    · exact h₁.1 v hv
    · exact h₂.1 v hv

/-- No version is older than the first; induction on the log. -/
theorem Stamped.le {n : Nat} {log : List ε} (h : Stamped read write n log) {e : ε} (he : e ∈ log)
    {v : Nat} (hv : read e = some v) : n ≤ v := by
  induction log generalizing n with
  | nil => cases he
  | cons d log ih =>
    rcases List.mem_cons.mp he with rfl | he
    · exact (h.1 v hv).1.ge
    · have hle := ih h.2 he
      split at hle <;> omega

/-- Every read finds the first version exactly when no read comes behind a write. -/
theorem Stamped.first_iff {n : Nat} {log : List ε} (h : Stamped read write n log) :
    (∀ e ∈ log, ∀ v, read e = some v → v = n) ↔
      ¬∃ w r, write w = true ∧ (read r).isSome ∧ [w, r].Sublist log := by
  induction log generalizing n with
  | nil => exact iff_of_true (fun _ he => nomatch he) fun ⟨_, _, _, _, hsub⟩ => nomatch hsub
  | cons d log ih =>
    constructor
    · rintro hall ⟨w, r, hw, hr, hsub⟩
      rcases List.sublist_cons_iff.mp hsub with hsub | ⟨rest, heq, hsub⟩
      · have hpast : ∀ e ∈ log, ∀ v, read e = some v → v = if write d then n + 1 else n := by
          intro e he v hv
          have hle := h.2.le he hv
          have hn := hall e (List.mem_cons_of_mem d he) v hv
          refine Nat.le_antisymm ?_ hle
          rw [hn]
          split
          · exact Nat.le_succ n
          · exact Nat.le_refl n
        exact (ih h.2).mp hpast ⟨w, r, hw, hr, hsub⟩
      · -- the head is the write, and so the read behind it is of a later version
        cases heq
        obtain ⟨v, hv⟩ := Option.isSome_iff_exists.mp hr
        have hmem : r ∈ log := List.singleton_sublist.mp hsub
        have hle := h.2.le hmem hv
        have hn := hall r (List.mem_cons_of_mem _ hmem) v hv
        rw [if_pos hw] at hle
        omega
    · intro hnone e he v hv
      rcases List.mem_cons.mp he with rfl | he
      · exact (h.1 v hv).1
      · have hwrite : write d = false := by
          rw [Bool.eq_false_iff]
          intro hd
          exact hnone ⟨d, e, hd, Option.isSome_of_eq_some hv,
            (List.singleton_sublist.mpr he).cons_cons d⟩
        have hrest := h.2
        rw [hwrite, if_neg Bool.false_ne_true] at hrest
        refine (ih hrest).mpr ?_ e he v hv
        rintro ⟨w, r, hw, hr, hsub⟩
        exact hnone ⟨w, r, hw, hr, hsub.cons d⟩

/-- **All reads find one version exactly when no write comes between two of them.** -/
theorem Stamped.sameVersion_iff {n : Nat} {log : List ε} (h : Stamped read write n log) :
    SameVersion read log ↔ ¬Torn read write log := by
  induction log generalizing n with
  | nil => exact iff_of_true (fun _ he => nomatch he) fun ⟨_, _, _, _, _, _, hsub⟩ => nomatch hsub
  | cons d log ih =>
    cases hd : read d with
    | none =>
      -- a head that is no read changes neither side
      have hsame : SameVersion read (d :: log) ↔ SameVersion read log := by
        constructor
        · exact fun hall e he e' he' => hall e (List.mem_cons_of_mem d he) e'
            (List.mem_cons_of_mem d he')
        · intro hall e he e' he' v v' hv hv'
          rcases List.mem_cons.mp he with rfl | he
          · rw [hd] at hv
            cases hv
          · rcases List.mem_cons.mp he' with rfl | he'
            · rw [hd] at hv'
              cases hv'
            · exact hall e he e' he' v v' hv hv'
      have htorn : Torn read write (d :: log) ↔ Torn read write log := by
        refine exists₃_congr fun r w r' => and_congr_right fun hr => and_congr_right fun _ =>
          and_congr_right fun _ => ⟨fun hsub => ?_, fun hsub => hsub.cons d⟩
        rcases List.sublist_cons_iff.mp hsub with hsub | ⟨rest, heq, -⟩
        · exact hsub
        · cases heq
          rw [hd] at hr
          cases hr
      rw [hsame, htorn, ih h.2]
    | some v =>
      obtain ⟨rfl, hwrite⟩ := h.1 v hd
      have hrest := h.2
      rw [hwrite, if_neg Bool.false_ne_true] at hrest
      have hfirst : SameVersion read (d :: log) ↔ ∀ e ∈ log, ∀ u, read e = some u → u = v := by
        constructor
        · intro hall e he u hu
          exact hall e (List.mem_cons_of_mem d he) d List.mem_cons_self u v hu hd
        · intro hall e he e' he' u u' hu hu'
          have hv : ∀ e ∈ d :: log, ∀ u, read e = some u → u = v := by
            intro e he u hu
            rcases List.mem_cons.mp he with rfl | he
            · exact Option.some.inj (hu.symm.trans hd)
            · exact hall e he u hu
          exact (hv e he u hu).trans (hv e' he' u' hu').symm
      rw [hfirst, Stamped.first_iff hrest, not_iff_not]
      constructor
      · rintro ⟨w, r, hw, hr, hsub⟩
        exact ⟨d, w, r, Option.isSome_of_eq_some hd, hw, hr, hsub.cons_cons d⟩
      · rintro ⟨r, w, r', -, hw, hr', hsub⟩
        refine ⟨w, r', hw, hr', ?_⟩
        rcases List.sublist_cons_iff.mp hsub with hsub | ⟨rest, heq, hsub⟩
        · exact List.Sublist.trans (List.sublist_cons_self r [w, r']) hsub
        · cases heq
          exact hsub

end Versions
