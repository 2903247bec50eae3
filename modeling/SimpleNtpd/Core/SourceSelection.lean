import Mathlib.Data.List.Induction
import SimpleNtpd.Core.UpstreamSync

/-!
# Source selection

A round queries its servers one after the other and then commits one result, all of
it under the mutex, or nothing. Which one depends on the list of results only
(`commitBest`), whatever they are: it is the first of the successful ones with the
lowest delay (`FirstLeast`).

`Kept` is the invariant of the loop. The result the loop starts with is told from a
real one by its `success`; its delay of 0 is never compared.
-/

namespace SimpleNtpd

open Cpp

/-- What a round makes of the results of its queries (upstream_sync.cpp:144–176). -/
def UpstreamSyncManager.commitBest (m : UpstreamSyncManager) (results : List UpstreamSyncResult)
    (now : Int) : UpstreamSyncManager × UpstreamSyncResult :=
  let best := results.foldl keepBest {}
  if best.success then
    ({ clockOffsetUs := best.offsetUs
       lastDelayUs := best.delayUs
       upstreamStratum := best.stratum
       syncedUpstream := best.server
       lastSyncTime := now
       synced := true }, best)
  else (m, best)

/-- A round is its queries and what is made of them. -/
theorem UpstreamSyncManager.syncOnce_eq_commitBest (m : UpstreamSyncManager) (servers : List Str)
    (world : Nat → QueryEnv) (now : Int) :
    m.syncOnce servers world now = m.commitBest (attempts servers world) now := by
  cases servers with
  | nil => rfl
  | cons server servers => rfl

/-- A commit returns the best result, committed or not. -/
theorem UpstreamSyncManager.commitBest_snd (m : UpstreamSyncManager)
    (results : List UpstreamSyncResult) (now : Int) :
    (m.commitBest results now).2 = results.foldl keepBest {} := by
  rw [commitBest]
  split <;> rfl

/-- The result at a place succeeded, and no successful one has a lower delay, or the
same and comes first. -/
structure FirstLeast (results : List UpstreamSyncResult) (i : Nat) (a : UpstreamSyncResult) :
    Prop where
  place : results[i]? = some a
  success : a.success = true
  least : ∀ {j : Nat} {b : UpstreamSyncResult}, results[j]? = some b → b.success = true →
    a.delayUs ≤ b.delayUs
  first : ∀ {j : Nat} {b : UpstreamSyncResult}, results[j]? = some b → b.success = true →
    j < i → a.delayUs < b.delayUs

/-- **The loop invariant**: behind some results, the first least of them is kept; where
none succeeded, what the loop has started with. -/
def Kept (results : List UpstreamSyncResult) (best : UpstreamSyncResult) : Prop :=
  (∃ i, FirstLeast results i best) ∨ best = {} ∧ ∀ a ∈ results, a.success = false

section

variable {results : List UpstreamSyncResult} {best a b : UpstreamSyncResult} {i j : Nat}

/-- A result after one more is one of before, or that one. -/
theorem getElem?_concat_cases (h : (results ++ [a])[j]? = some b) :
    results[j]? = some b ∨ j = results.length ∧ b = a := by
  rw [List.getElem?_append] at h
  split at h
  · exact .inl h
  · rename_i hlen
    rw [List.getElem?_singleton] at h
    split at h
    · exact .inr ⟨by omega, (Option.some.inj h).symm⟩
    · cases h

/-- A failure is not kept. -/
theorem keepBest_of_failure (ha : a.success = false) : keepBest best a = best := by
  rw [keepBest, ha]
  rfl

/-- The first success is. -/
theorem keepBest_of_first (ha : a.success = true) (hbest : best.success = false) :
    keepBest best a = a := by
  rw [keepBest, ha, hbest]
  rfl

/-- Another one is when its delay is lower. -/
theorem keepBest_of_success (ha : a.success = true) (hbest : best.success = true) :
    keepBest best a = if a.delayUs < best.delayUs then a else best := by
  rw [keepBest, ha, hbest, Bool.not_true, Bool.false_or, Bool.true_and]
  simp only [decide_eq_true_eq]

/-- One more result that is not kept. -/
theorem FirstLeast.concat (h : FirstLeast results i best)
    (ha : a.success = true → best.delayUs ≤ a.delayUs) : FirstLeast (results ++ [a]) i best := by
  have hi := (List.getElem?_eq_some_iff.mp h.place).1
  refine ⟨?_, h.success, ?_, ?_⟩
  · rw [List.getElem?_append_left hi]
    exact h.place
  · intro j b hj hb
    rcases getElem?_concat_cases hj with hj | ⟨-, rfl⟩
    · exact h.least hj hb
    · exact ha hb
  · intro j b hj hb hlt
    rcases getElem?_concat_cases hj with hj | ⟨rfl, -⟩
    · exact h.first hj hb hlt
    · omega

/-- One more result, with a lower delay than every success in front of it. -/
theorem FirstLeast.last (ha : a.success = true)
    (hlower : ∀ {j : Nat} {b : UpstreamSyncResult}, results[j]? = some b → b.success = true →
      a.delayUs < b.delayUs) :
    FirstLeast (results ++ [a]) results.length a := by
  refine ⟨List.getElem?_concat_length, ha, ?_, ?_⟩
  · intro j b hj hb
    rcases getElem?_concat_cases hj with hj | ⟨-, rfl⟩
    · exact (hlower hj hb).le
    · exact le_rfl
  · intro j b hj hb hlt
    rcases getElem?_concat_cases hj with hj | ⟨rfl, -⟩
    · exact hlower hj hb
    · omega

/-- **One iteration of the loop.** -/
theorem Kept.concat (h : Kept results best) (a : UpstreamSyncResult) :
    Kept (results ++ [a]) (keepBest best a) := by
  cases ha : a.success with
  | false =>
    rw [keepBest_of_failure ha]
    rcases h with ⟨i, hfirst⟩ | ⟨hbest, hnone⟩
    · refine .inl ⟨i, hfirst.concat fun htrue => ?_⟩
      rw [ha] at htrue
      cases htrue
    · refine .inr ⟨hbest, fun b hb => ?_⟩
      rcases List.mem_append.mp hb with hb | hb
      · exact hnone b hb
      · rw [List.mem_singleton.mp hb]
        exact ha
  | true =>
    rcases h with ⟨i, hfirst⟩ | ⟨rfl, hnone⟩
    · rw [keepBest_of_success ha hfirst.success]
      split
      · rename_i hlt
        exact .inl ⟨_, .last ha fun hj hb => hlt.trans_le (hfirst.least hj hb)⟩
      · rename_i hle
        exact .inl ⟨i, hfirst.concat fun _ => not_lt.mp hle⟩
    · -- the result the loop has started with is not compared
      rw [keepBest_of_first ha rfl]
      refine .inl ⟨_, .last ha fun hj hb => ?_⟩
      rw [hnone _ (List.mem_of_getElem? hj)] at hb
      cases hb

/-- The loop keeps its invariant; induction on the results from the last. -/
theorem kept_foldl (results : List UpstreamSyncResult) :
    Kept results (results.foldl keepBest {}) := by
  induction results using List.reverseRecOn with
  | nil => exact .inr ⟨rfl, fun a ha => nomatch ha⟩
  | append_singleton results a ih =>
    rw [List.foldl_append]
    exact ih.concat a

/-- Failures do not influence what is kept; induction on the results. -/
theorem foldl_keepBest_filter (results : List UpstreamSyncResult) (init : UpstreamSyncResult) :
    (results.filter (·.success)).foldl keepBest init = results.foldl keepBest init := by
  induction results generalizing init with
  | nil => rfl
  | cons a results ih =>
    rw [List.foldl_cons, ← ih]
    cases ha : a.success with
    | false =>
      rw [List.filter_cons_of_neg (by rw [ha]; exact Bool.false_ne_true), keepBest_of_failure ha]
    | true => rw [List.filter_cons_of_pos ha, List.foldl_cons]

/-- A kept success is the first least; without one nothing succeeded. -/
theorem Kept.success_iff (h : Kept results best) :
    best.success = true ↔ ∃ a ∈ results, a.success = true := by
  rcases h with ⟨i, hfirst⟩ | ⟨rfl, hnone⟩
  · exact iff_of_true hfirst.success ⟨best, List.mem_of_getElem? hfirst.place, hfirst.success⟩
  · refine iff_of_false Bool.false_ne_true ?_
    rintro ⟨a, ha, hsuccess⟩
    rw [hnone a ha] at hsuccess
    cases hsuccess

/-- Where nothing succeeded, what the loop has started with is left. -/
theorem Kept.eq_start (h : Kept results best) (hnone : ∀ a ∈ results, a.success = false) :
    best = {} := by
  rcases h with ⟨i, hfirst⟩ | ⟨rfl, -⟩
  · have hfalse := hnone best (List.mem_of_getElem? hfirst.place)
    rw [hfirst.success] at hfalse
    cases hfalse
  · rfl

theorem Kept.firstLeast (h : Kept results best) (hbest : best.success = true) :
    ∃ i, FirstLeast results i best := by
  rcases h with hfirst | ⟨rfl, -⟩
  · exact hfirst
  · cases hbest

end

/-- **Source selection.** For every list of servers and everything that happens during
their queries, a round commits the best of their results; and for all results
whatever: the round succeeds exactly when one of them did, what it commits is the
first of the successful ones with the lowest delay, the failures do not matter, and
where all failed nothing changes. -/
theorem source_selection (m : UpstreamSyncManager) (servers : List Str) (world : Nat → QueryEnv)
    (now : Int) (results : List UpstreamSyncResult) :
    m.syncOnce servers world now = m.commitBest (attempts servers world) now ∧
    ((m.commitBest results now).2.success = true ↔ ∃ a ∈ results, a.success = true) ∧
    ((∃ a ∈ results, a.success = true) → ∃ i a, FirstLeast results i a ∧
      m.commitBest results now =
        ({ clockOffsetUs := a.offsetUs
           lastDelayUs := a.delayUs
           upstreamStratum := a.stratum
           syncedUpstream := a.server
           lastSyncTime := now
           synced := true }, a)) ∧
    m.commitBest (results.filter (·.success)) now = m.commitBest results now ∧
    ((∀ a ∈ results, a.success = false) → m.commitBest results now = (m, {})) := by
  have hkept := kept_foldl results
  have hsuccess : (m.commitBest results now).2.success = true ↔
      ∃ a ∈ results, a.success = true := by
    rw [m.commitBest_snd]
    exact hkept.success_iff
  refine ⟨m.syncOnce_eq_commitBest servers world now, hsuccess, fun hsome => ?_, ?_, fun hnone => ?_⟩
  · have hbest := hkept.success_iff.mpr hsome
    obtain ⟨i, hfirst⟩ := hkept.firstLeast hbest
    exact ⟨i, _, hfirst, if_pos hbest⟩
  · rw [UpstreamSyncManager.commitBest, foldl_keepBest_filter]
    rfl
  · rw [UpstreamSyncManager.commitBest, hkept.eq_start hnone]
    rfl

end SimpleNtpd
