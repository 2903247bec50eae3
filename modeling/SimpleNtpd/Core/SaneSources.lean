import Mathlib.Data.List.MinMax
import SimpleNtpd.Core.ReplyBinding

/-!
# Sane time sources

What a round commits is the first of its answers with the lowest delay
(`SyncRound.chosen`). The tests on a reply let through a stratum of 0, a leap
indicator of 3, and receive and transmit timestamps that are further apart than
the query took, so that the delay is negative and lower than any honest one. The
test of the upstream queries asks for a stratum between 1 and 15 and a positive
delay.

`SyncRound.InsaneBeaten` says that each of these replies is beaten by a sane one.
For a reply with a negative delay that is impossible, so there must be none.
`sane_sources_iff` shows that this is exact for one round, and what it means for
runs of rounds.
-/

namespace SimpleNtpd

open Cpp

/-- The first of the least elements of a list, in a linear order. -/
def firstLeast {α β : Type*} [LinearOrder β] (f : α → β) (l : List α) : Option α := l.argmin f

/-- It is less than every other element, or stands before it; the order of the list
is given as a relation. -/
theorem firstLeast_before {α β : Type*} [DecidableEq α] [LinearOrder β] {f : α → β} {R : α → α → Prop}
    {l : List α} (hl : l.Pairwise R) {m a : α} (hm : firstLeast f l = some m) (ha : a ∈ l)
    (hne : a ≠ m) : f m < f a ∨ f m = f a ∧ R m a := by
  obtain ⟨hmem, hle, hfirst⟩ := List.mem_argmin_iff.mp (Option.mem_def.mpr hm)
  rcases lt_or_eq_of_le (hle a ha) with hlt | heq
  · exact .inl hlt
  · refine .inr ⟨heq, ?_⟩
    have hidx : l.idxOf m ≤ l.idxOf a := hfirst a ha heq.ge
    have hstrict : l.idxOf m < l.idxOf a :=
      lt_of_le_of_ne hidx fun hsame => hne ((List.idxOf_inj hmem).mp hsame).symm
    have hpair := List.pairwise_iff_getElem.mp hl _ _
      (List.idxOf_lt_length_of_mem hmem) (List.idxOf_lt_length_of_mem ha) hstrict
    rwa [List.getElem_idxOf, List.getElem_idxOf] at hpair

/-! ## The answer a round keeps -/

/-- The packet a query takes for the reply. -/
def QueryEnv.reply (env : QueryEnv) : Option NtpPacket :=
  match env.target, env.received with
  | some _, some (datagram, _) => acceptReply datagram
  | _, _ => none

/-- The time between request and reply without the time the server says it has
taken in between. -/
def QueryEnv.roundTrip (env : QueryEnv) (response : NtpPacket) : Int :=
  NtpPacketHandler.calculateRoundTripDelay env.request.transmitTs response.receiveTs
    response.transmitTs (.fromSystemTime env.replyTime)

/-- A query without a reply fails; with one the result is computed from it. -/
theorem queryUpstreamServer_eq (host : Str) (env : QueryEnv) :
    queryUpstreamServer host env =
      match env.reply with
      | none => { server := host }
      | some response =>
        { success := true
          server := host
          offsetUs := NtpPacketHandler.calculateOffset env.request.transmitTs response.receiveTs
            response.transmitTs (.fromSystemTime env.replyTime)
          delayUs := env.roundTrip response
          stratum := response.stratum } := by
  unfold queryUpstreamServer QueryEnv.reply
  cases env.target with
  | none => rfl
  | some target =>
    cases env.received with
    | none => rfl
    | some received =>
      obtain ⟨datagram, sender⟩ := received
      cases hreply : acceptReply datagram with
      | none => simp only [hreply]
      | some response => simp only [hreply, QueryEnv.roundTrip]

namespace SyncRound

/-- The result of one query of the round: a server and its place in the list. -/
def query (r : SyncRound) (q : Str × Nat) : UpstreamSyncResult :=
  queryUpstreamServer q.1 (r.world q.2)

/-- The queries that succeed, in order. -/
def successful (r : SyncRound) : List (Str × Nat) :=
  r.servers.zipIdx.filter fun q => (r.query q).success

/-- The query whose result is kept: the first of the successful ones with the
lowest delay. -/
def chosen (r : SyncRound) : Option (Str × Nat) :=
  firstLeast (fun q => (r.query q).delayUs) r.successful

/-- The manager when the result of a query has been committed. -/
def commit (r : SyncRound) (q : Str × Nat) : UpstreamSyncManager where
  clockOffsetUs := (r.query q).offsetUs
  lastDelayUs := (r.query q).delayUs
  upstreamStratum := (r.query q).stratum
  syncedUpstream := (r.query q).server
  lastSyncTime := r.now
  synced := true

/-- The query kept after one more, by a strict comparison of the delays. -/
def keep (r : SyncRound) : Option (Str × Nat) → Str × Nat → Option (Str × Nat) :=
  List.argAux fun p q => (r.query p).delayUs < (r.query q).delayUs

/-- One iteration of the loop, for a query that succeeds. -/
theorem keepBest_eq (r : SyncRound) {kept : Option (Str × Nat)} {q : Str × Nat}
    (h : ∀ p ∈ kept, (r.query p).success = true) (hsuccess : (r.query q).success = true) :
    keepBest ((kept.map r.query).getD {}) (r.query q)
      = ((r.keep kept q).map r.query).getD {} := by
  unfold keepBest keep List.argAux
  cases kept with
  | none =>
    rw [hsuccess]
    rfl
  | some p =>
    show (if (r.query q).success && (!(r.query p).success
      || decide ((r.query q).delayUs < (r.query p).delayUs)) then _ else _) = _
    rw [hsuccess, h p rfl, Bool.not_true, Bool.false_or, Bool.true_and]
    by_cases hlt : (r.query q).delayUs < (r.query p).delayUs
    · rw [if_pos (decide_eq_true hlt)]
      dsimp only
      rw [if_pos hlt]
      rfl
    · rw [if_neg (fun h => hlt (of_decide_eq_true h))]
      dsimp only
      rw [if_neg hlt]

/-- What is kept has succeeded. -/
theorem success_of_mem_keep (r : SyncRound) {kept : Option (Str × Nat)} {p q : Str × Nat}
    (h : ∀ p ∈ kept, (r.query p).success = true) (hsuccess : (r.query q).success = true)
    (hp : p ∈ r.keep kept q) : (r.query p).success = true := by
  unfold keep List.argAux at hp
  cases kept with
  | none =>
    cases hp
    exact hsuccess
  | some p' =>
    dsimp only at hp
    split at hp
    · cases hp
      exact hsuccess
    · exact h p hp

/-- The loop keeps the query that `argmin` finds; induction on the queries, from
any successful one kept so far. -/
theorem foldl_keepBest_eq (r : SyncRound) (queries : List (Str × Nat)) (kept : Option (Str × Nat))
    (h : ∀ q ∈ kept, (r.query q).success = true) :
    (queries.map r.query).foldl keepBest ((kept.map r.query).getD {})
      = (((queries.filter fun q => (r.query q).success).foldl r.keep kept).map
            r.query).getD {} := by
  induction queries generalizing kept with
  | nil => rfl
  | cons q queries ih =>
    rw [List.map_cons, List.foldl_cons]
    cases hsuccess : (r.query q).success with
    | false =>
      -- a failure is not kept
      rw [List.filter_cons_of_neg (by rw [hsuccess]; exact Bool.false_ne_true), ← ih kept h]
      unfold keepBest
      rw [hsuccess]
      rfl
    | true =>
      rw [List.filter_cons_of_pos (p := fun q => (r.query q).success) hsuccess, List.foldl_cons,
        r.keepBest_eq h hsuccess]
      exact ih (r.keep kept q) fun p hp => r.success_of_mem_keep h hsuccess hp

/-- **A round commits the result of the chosen query**, or nothing. -/
theorem syncOnce_eq (r : SyncRound) (m : UpstreamSyncManager) :
    m.syncOnce r.servers r.world r.now =
      match r.chosen with
      | none => (m, {})
      | some q => (r.commit q, r.query q) := by
  have hattempts : attempts r.servers r.world = r.servers.zipIdx.map r.query := rfl
  have hbest : (attempts r.servers r.world).foldl keepBest {}
      = (r.chosen.map r.query).getD {} := by
    rw [hattempts]
    exact r.foldl_keepBest_eq r.servers.zipIdx none (fun q hq => nomatch hq)
  unfold UpstreamSyncManager.syncOnce
  rw [hbest]
  cases hempty : r.servers.isEmpty with
  | true =>
    have hnone : r.chosen = none := by
      unfold chosen successful
      rw [List.isEmpty_iff.mp hempty]
      rfl
    rw [hnone]
    rfl
  | false =>
    cases hchosen : r.chosen with
    | none => rfl
    | some q =>
      have hmem : q ∈ r.successful := List.argmin_mem hchosen
      have hsuccess : (r.query q).success = true := (List.mem_filter.mp hmem).2
      show (if (r.query q).success = true then _ else _) = _
      rw [if_pos hsuccess]
      rfl

/-! ## Sane answers -/

/-- The result has a stratum between 1 and 15 and no negative delay, and comes
from a reply that does not say its sender is unsynchronised. -/
structure Sane (r : SyncRound) (q : Str × Nat) : Prop where
  stratum_pos : 1 ≤ (r.query q).stratum
  stratum_le : (r.query q).stratum ≤ 15
  delay_nonneg : 0 ≤ (r.query q).delayUs
  synchronised : ∃ response, (r.world q.2).reply = some response ∧ response.leapIndicator ≠ 3

/-- Whenever the round commits a result, it is a sane one. -/
def CommitsSane (r : SyncRound) : Prop :=
  ∀ m : UpstreamSyncManager, (m.syncOnce r.servers r.world r.now).2.success = true →
    ∃ q, r.chosen = some q ∧ m.syncOnce r.servers r.world r.now = (r.commit q, r.query q) ∧ r.Sane q

/-- A query has a lower delay than another, or the same and comes first. -/
def Beats (r : SyncRound) (p q : Str × Nat) : Prop :=
  (r.query p).delayUs < (r.query q).delayUs ∨
    (r.query p).delayUs = (r.query q).delayUs ∧ p.2 < q.2

/-- The queries are in the order of the list. -/
theorem pairwise_successful (r : SyncRound) : r.successful.Pairwise (·.2 < ·.2) := by
  have hsnd : (r.servers.zipIdx.map Prod.snd).Pairwise (· < ·) := by
    rw [List.zipIdx_map_snd]
    exact List.pairwise_lt_range'
  exact (List.pairwise_map.mp hsnd).sublist List.filter_sublist

/-- The chosen query beats every other successful one. -/
theorem chosen_beats {r : SyncRound} {c q : Str × Nat} (hc : r.chosen = some c)
    (hq : q ∈ r.successful) (hne : q ≠ c) : r.Beats c q :=
  firstLeast_before r.pairwise_successful hc hq hne

/-- No query beats one that beats it. -/
theorem Beats.asymm {r : SyncRound} {p q : Str × Nat} (h : r.Beats p q) : ¬r.Beats q p := by
  rintro (hlt | ⟨heq, hback⟩)
  · rcases h with hlt' | ⟨heq', -⟩ <;> omega
  · rcases h with hlt' | ⟨heq', hfront⟩ <;> omega

end SyncRound

/-- A Kiss-o'-Death, a reply from an unsynchronised server, or one that claims to
have taken longer than the query. -/
def QueryEnv.Insane (env : QueryEnv) (response : NtpPacket) : Prop :=
  response.stratum = 0 ∨ response.leapIndicator = 3 ∨ env.roundTrip response < 0

namespace SyncRound

/-- The replies that pass the tests but are not sane are beaten: another reply
that passes them is sane and has a lower round trip, or the same and comes from a
server that stands before. -/
def InsaneBeaten (r : SyncRound) : Prop :=
  ∀ i response, i < r.servers.length → (r.world i).reply = some response →
    (r.world i).Insane response →
      ∃ j response', j < r.servers.length ∧ (r.world j).reply = some response' ∧
        ¬(r.world j).Insane response' ∧
        ((r.world j).roundTrip response' < (r.world i).roundTrip response ∨
          (r.world j).roundTrip response' = (r.world i).roundTrip response ∧ j < i)

variable {r : SyncRound} {q : Str × Nat} {response : NtpPacket}

/-- A query with a reply succeeds. -/
theorem query_of_reply (h : (r.world q.2).reply = some response) :
    (r.query q).success = true ∧ (r.query q).stratum = response.stratum ∧
      (r.query q).delayUs = (r.world q.2).roundTrip response := by
  unfold query
  rw [queryUpstreamServer_eq, h]
  dsimp only
  exact ⟨rfl, rfl, rfl⟩

/-- A query that succeeds has a reply. -/
theorem reply_of_mem (h : q ∈ r.successful) :
    q.2 < r.servers.length ∧ ∃ response, (r.world q.2).reply = some response := by
  obtain ⟨hmem, hsuccess⟩ := List.mem_filter.mp h
  have hlt := List.snd_lt_of_mem_zipIdx hmem
  refine ⟨by omega, ?_⟩
  unfold query at hsuccess
  rw [queryUpstreamServer_eq] at hsuccess
  cases hreply : (r.world q.2).reply with
  | none =>
    rw [hreply] at hsuccess
    cases hsuccess
  | some response => exact ⟨response, rfl⟩

/-- A server of the list with a reply is a query that succeeds. -/
theorem mem_of_reply {i : Nat} (hi : i < r.servers.length)
    (h : (r.world i).reply = some response) : (r.servers[i], i) ∈ r.successful := by
  refine List.mem_filter.mpr ⟨?_, (query_of_reply (q := (r.servers[i], i)) h).1⟩
  rw [List.mk_mem_zipIdx_iff_getElem?]
  exact List.getElem?_eq_getElem hi

/-- The stratum of a reply that passes the tests is at most 15. -/
theorem stratum_le_of_reply {env : QueryEnv} (h : env.reply = some response) :
    response.stratum ≤ 15 := by
  unfold QueryEnv.reply at h
  split at h
  · obtain ⟨-, hvalid, -, rfl⟩ := acceptReply_eq_some_iff.mp h
    exact ((NtpPacket.isValid_iff _).mp hvalid).2.2.1
  · cases h

/-- A result is sane when its reply is not insane. -/
theorem sane_iff (h : (r.world q.2).reply = some response) :
    r.Sane q ↔ ¬(r.world q.2).Insane response := by
  obtain ⟨-, hstratum, hdelay⟩ := query_of_reply h
  unfold QueryEnv.Insane
  constructor
  · rintro ⟨hpos, -, hnonneg, response', hreply, hleap⟩ (hzero | hthree | hnegative)
    · rw [hstratum, hzero] at hpos
      exact absurd hpos (by decide)
    · rw [h] at hreply
      cases hreply
      exact hleap hthree
    · rw [hdelay] at hnonneg
      omega
  · intro hsane
    rw [not_or, not_or, Int.not_lt] at hsane
    refine ⟨?_, ?_, ?_, response, h, hsane.2.1⟩
    · rw [hstratum, UInt8.le_iff_toNat_le]
      show 1 ≤ response.stratum.toNat
      have hne : response.stratum.toNat ≠ 0 := fun hzero => hsane.1 (UInt8.toNat_inj.mp hzero)
      omega
    · rw [hstratum]
      exact stratum_le_of_reply h
    · rw [hdelay]
      exact hsane.2.2

/-- One round commits sane results only, exactly when its insane replies are
beaten. -/
theorem commitsSane_iff (r : SyncRound) : r.CommitsSane ↔ r.InsaneBeaten := by
  constructor
  · intro h i response hi hreply hinsane
    have hq := mem_of_reply hi hreply
    cases hchosen : r.chosen with
    | none =>
      have hnil : r.successful = [] := List.argmin_eq_none.mp hchosen
      rw [hnil] at hq
      cases hq
    | some c =>
      -- the chosen query is sane, and beats the insane one
      have hmem : c ∈ r.successful := List.argmin_mem hchosen
      have hsuccess : (UpstreamSyncManager.syncOnce {} r.servers r.world r.now).2.success
          = true := by
        rw [r.syncOnce_eq, hchosen]
        exact (List.mem_filter.mp hmem).2
      obtain ⟨c', hc', -, hsane⟩ := h {} hsuccess
      rw [hchosen] at hc'
      cases hc'
      obtain ⟨hlt, response', hreply'⟩ := reply_of_mem hmem
      have hne : (r.servers[i], i) ≠ c := by
        rintro rfl
        exact (sane_iff hreply).mp hsane hinsane
      have hbeats := chosen_beats hchosen hq hne
      unfold Beats at hbeats
      rw [(query_of_reply hreply').2.2, (query_of_reply (q := (r.servers[i], i)) hreply).2.2]
        at hbeats
      exact ⟨c.2, response', hlt, hreply', (sane_iff hreply').mp hsane, hbeats⟩
  · intro h m hsuccess
    have heq := r.syncOnce_eq m
    cases hchosen : r.chosen with
    | none =>
      rw [hchosen] at heq
      rw [heq] at hsuccess
      cases hsuccess
    | some c =>
      rw [hchosen] at heq
      refine ⟨c, rfl, heq, ?_⟩
      obtain ⟨hlt, response, hreply⟩ := reply_of_mem (List.argmin_mem hchosen)
      rw [sane_iff hreply]
      intro hinsane
      obtain ⟨j, response', hj, hreply', hsane, hbeats⟩ := h c.2 response hlt hreply hinsane
      have hne : (r.servers[j], j) ≠ c := by
        rintro rfl
        rw [hreply'] at hreply
        cases hreply
        exact hsane hinsane
      refine (chosen_beats hchosen (mem_of_reply hj hreply') hne).asymm ?_
      unfold Beats
      rw [(query_of_reply hreply).2.2, (query_of_reply (q := (r.servers[j], j)) hreply').2.2]
      exact hbeats

end SyncRound

/-! ## Runs -/

/-- After rounds whose insane answers are beaten, induction on the run: the
manager is where it started or holds a sane result of one of them. -/
theorem UpstreamSyncManager.run_sane {rounds : List SyncRound}
    (h : ∀ r ∈ rounds, r.InsaneBeaten) (m : UpstreamSyncManager) :
    m.run rounds = m ∨ ∃ r ∈ rounds, ∃ q, r.Sane q ∧ m.run rounds = r.commit q := by
  induction rounds using List.reverseRecOn with
  | nil => exact .inl rfl
  | append_singleton rounds r ih =>
    have hrun : m.run (rounds ++ [r]) = ((m.run rounds).syncOnce r.servers r.world r.now).1 := by
      rw [run, run, List.foldl_append]
      rfl
    have hmem : r ∈ rounds ++ [r] := List.mem_append_right _ List.mem_cons_self
    rw [hrun]
    cases hsuccess : ((m.run rounds).syncOnce r.servers r.world r.now).2.success with
    | true =>
      obtain ⟨q, -, heq, hsane⟩ := r.commitsSane_iff.mpr (h r hmem) (m.run rounds) hsuccess
      rw [heq]
      exact .inr ⟨r, hmem, q, hsane, rfl⟩
    | false =>
      -- a round without a success commits nothing
      have hstay : ((m.run rounds).syncOnce r.servers r.world r.now).1 = m.run rounds := by
        rw [r.syncOnce_eq] at hsuccess ⊢
        cases hchosen : r.chosen with
        | none => rfl
        | some q =>
          rw [hchosen] at hsuccess
          have hq := (List.mem_filter.mp (List.argmin_mem hchosen)).2
          rw [hsuccess] at hq
          cases hq
      rw [hstay]
      rcases ih fun q hq => h q (List.mem_append_left _ hq) with hinit | ⟨q, hq, hsane⟩
      · exact .inl hinit
      · exact .inr ⟨q, List.mem_append_left _ hq, hsane⟩

/-- **Sane time sources.** For every list of servers and every combination of
answers: whatever a round commits is sane exactly when every insane answer is
beaten by a sane one. After any run of such rounds the manager is where it
started or holds a sane result. -/
theorem sane_sources_iff (r : SyncRound) (rounds : List SyncRound) (m : UpstreamSyncManager) :
    (r.CommitsSane ↔ r.InsaneBeaten) ∧
    ((∀ r ∈ rounds, r.InsaneBeaten) →
      m.run rounds = m ∨ ∃ r ∈ rounds, ∃ q, r.Sane q ∧ m.run rounds = r.commit q) :=
  ⟨r.commitsSane_iff, fun h => m.run_sane h⟩

/-- The only answer of the example round is sane. -/
theorem exampleRound_sane : exampleRound.Sane (lit "a", 0) := by
  have hreply : ((exampleRound.world 0).reply.map fun p => p.leapIndicator != 3) = some true := by
    decide +kernel
  obtain ⟨response, hresponse, hleap⟩ := Option.map_eq_some_iff.mp hreply
  exact ⟨by decide +kernel, by decide +kernel, by decide +kernel,
    response, hresponse, bne_iff_ne.mp hleap⟩

/-- A run of one round with a sane answer. -/
theorem sane_sources_example :
    (exampleRound.CommitsSane ↔ exampleRound.InsaneBeaten) ∧
      (UpstreamSyncManager.run {} [exampleRound] = {} ∨ ∃ r ∈ [exampleRound], ∃ q, r.Sane q ∧
        UpstreamSyncManager.run {} [exampleRound] = r.commit q) := by
  have h := sane_sources_iff exampleRound [exampleRound] {}
  refine ⟨h.1, h.2 ?_⟩
  intro r hr i response hi hreply hinsane
  rw [List.mem_singleton.mp hr] at hi hreply hinsane
  have hsane : exampleRound.Sane (lit "a", i) := by
    have hlen : exampleRound.servers.length = 1 := rfl
    rw [hlen, Nat.lt_one_iff] at hi
    rw [hi]
    exact exampleRound_sane
  exact absurd hinsane ((SyncRound.sane_iff (q := (lit "a", i)) hreply).mp hsane)

/-- A reply that tells the client to go away, from an unsynchronised server that
claims to have worked on it for ten seconds. -/
def kissOfDeath : Bytes :=
  { NtpPacket.createServerResponse (.createClientRequest 0) 0 (lit "RATE") 0 10000000000 0 with
    leapIndicator := 3 }.serializeToData

/-- An honest server and one that sends that reply. -/
def kissOfDeathRound : SyncRound where
  servers := [lit "a", lit "b"]
  world i := exampleQuery (if i = 0 then exampleReply else kissOfDeath) exampleServer
  now := 0

/-- The kiss of death wins over the honest answer, with a negative delay. -/
theorem kiss_of_death_wins : ¬ ∀ r : SyncRound, r.CommitsSane := by
  intro h
  have hcommit : (UpstreamSyncManager.syncOnce {} kissOfDeathRound.servers kissOfDeathRound.world
      kissOfDeathRound.now).2.success = true := by
    decide +kernel
  have hstratum : (UpstreamSyncManager.syncOnce {} kissOfDeathRound.servers kissOfDeathRound.world
      kissOfDeathRound.now).2.stratum = 0 := by
    decide +kernel
  obtain ⟨q, -, heq, hsane⟩ := h kissOfDeathRound {} hcommit
  rw [heq] at hstratum
  have hpos := hsane.stratum_pos
  rw [hstratum] at hpos
  exact absurd hpos (by decide)

end SimpleNtpd
