import Mathlib.Logic.Relation
import SimpleNtpd.Core.SyncHistory

/-!
# Strata in a network of servers

Servers that run this code take their time from each other. A datagram that was
sent may be received by any query of any server, at any later time, any number of
times or never; other datagrams may be received too. Every server goes through its
own events in any order.

A reply that is accepted has a stratum of at most 15, and a server that has
committed a reply of stratum `s`, for `s` at least 1, answers with `s + 1`, cut off
at 15. So it answers with more than it was told as long as it was not told 15
(`derivedStratum_gt_iff`), and exactly then the strata increase along every edge
of the network (`strata_increase_iff`). Then no cycle of servers holds what the next
one tells, and no server has its time through more than fourteen others
(`Network.hops`).
-/

namespace SimpleNtpd

open Cpp

/-! ## The stratum that is derived -/

/-- The stratum of the replies of a server that was told a stratum. -/
def derivedStratum (upstream : UInt8) : UInt8 :=
  UInt8.ofInt (max 1 (min ((upstream.toNat : Int) + 1) 15))

theorem derivedStratum_toNat (upstream : UInt8) :
    (derivedStratum upstream).toNat = min (upstream.toNat + 1) 15 :=
  forall_uint8 (by decide +kernel) upstream

/-- The derived stratum is in range, whatever was told. -/
theorem derivedStratum_le (upstream : UInt8) : derivedStratum upstream ≤ 15 := by
  rw [UInt8.le_iff_toNat_le, derivedStratum_toNat]
  exact Nat.min_le_right _ _

/-- The derived stratum is more than what was told, unless that was 15 or more. -/
theorem derivedStratum_gt_iff (upstream : UInt8) :
    upstream < derivedStratum upstream ↔ upstream ≤ 14 := by
  rw [UInt8.lt_iff_toNat_lt, UInt8.le_iff_toNat_le, derivedStratum_toNat]
  show _ ↔ upstream.toNat ≤ 14
  omega

namespace NtpServer

/-- The server has a stratum from an upstream server to derive its own from. -/
def Derives (s : NtpServer) (upstream : UInt8) : Prop :=
  ∃ m, s.upstreamSync = some m ∧ m.synced = true ∧ m.upstreamStratum = upstream ∧ upstream ≠ 0

theorem Derives.responseStratum {s : NtpServer} {upstream : UInt8} (h : s.Derives upstream) :
    s.responseStratum = derivedStratum upstream := by
  obtain ⟨m, hm, hsynced, rfl, hne⟩ := h
  exact responseStratum_of_synced hm hsynced hne

/-- The answer a round of the server commits, and the query it is the answer to. -/
def committed (s : NtpServer) : Event → Option (Nat × UpstreamSyncResult)
  | .sync world now =>
    s.upstreamSync.bind fun _ =>
      let r : SyncRound := ⟨(s.configs s.syncConfig).upstreamServers, world, now⟩
      r.chosen.map fun q => (q.2, r.query q)
  | _ => none

variable {s s' : NtpServer} {evp : Evp} {pick : NtpServer → NtpConnection → NtpConfig}

/-- **One event and the manager**: it stays, or it holds the answer committed. -/
theorem stepWith_committed {e : Event} {out : Option (Verdict × Option Bytes)}
    (h : s.stepWith pick evp e = .ok (s', out)) :
    s.committed e = none ∧ s'.upstreamSync = s.upstreamSync ∨
      ∃ k result m, s.committed e = some (k, result) ∧ s'.upstreamSync = some m ∧
        m.synced = true ∧ m.upstreamStratum = result.stratum := by
  have hsync := stepWith_upstreamSync rfl h
  have hid : s.upstreamSync.map (fun m => m.run []) = s.upstreamSync := Option.map_id_apply
  cases e with
  | packet | reload | cleanup => exact .inl ⟨rfl, hsync.trans hid⟩
  | sync world now =>
    unfold committed
    cases hmanager : s.upstreamSync with
    | none =>
      rw [hmanager] at hsync
      exact .inl ⟨rfl, hsync⟩
    | some m =>
      rw [hmanager] at hsync
      have hround : s'.upstreamSync
          = some (m.syncOnce (s.configs s.syncConfig).upstreamServers world now).1 := hsync
      have heq := SyncRound.syncOnce_eq ⟨(s.configs s.syncConfig).upstreamServers, world, now⟩ m
      dsimp only [Option.bind_some] at heq ⊢
      cases hchosen : SyncRound.chosen ⟨(s.configs s.syncConfig).upstreamServers, world, now⟩ with
      | none =>
        rw [hchosen] at heq
        rw [hround, heq]
        exact .inl ⟨rfl, rfl⟩
      | some q =>
        rw [hchosen] at heq
        rw [hround, heq]
        exact .inr ⟨q.2, _, _, rfl, rfl, rfl, rfl⟩

/-- What is committed was received. -/
theorem committed_eq_some {e : Event} {k : Nat} {result : UpstreamSyncResult}
    (h : s.committed e = some (k, result)) :
    ∃ world now response, e = .sync world now ∧ (world k).reply = some response ∧
      result.stratum = response.stratum := by
  cases e with
  | packet | reload | cleanup => cases h
  | sync world now =>
    obtain ⟨m, -, hround⟩ := Option.bind_eq_some_iff.mp h
    obtain ⟨q, hchosen, heq⟩ := Option.map_eq_some_iff.mp hround
    cases heq
    obtain ⟨-, response, hreply⟩ := SyncRound.reply_of_mem (List.argmin_mem hchosen)
    exact ⟨world, now, response, rfl, hreply, (SyncRound.query_of_reply hreply).2.1⟩

/-- A datagram that is answered gets the stratum of the state it comes in. -/
theorem stepWith_reply {e : Event} {verdict : Verdict} {reply : Bytes}
    (h : s.stepWith pick evp e = .ok (s', some (verdict, some reply))) :
    (NtpPacket.decode reply).stratum = s.responseStratum ∧ s.committed e = none := by
  cases e with
  | packet data client env =>
    obtain ⟨p, hp, -, hout⟩ := stepWith_packet h
    obtain ⟨-, hreply⟩ := Prod.mk.inj (Option.some.inj hout)
    obtain ⟨request, -, hdecode⟩ := decode_reply hp hreply.symm
    exact ⟨by rw [hdecode, replyPacket_stratum], rfl⟩
  | sync | reload | cleanup => cases h

end NtpServer

/-! ## The network -/

/-- A reply on its way: who sent it, and through how many servers of the network
its sender had the time. -/
structure SentReply (ι : Type*) where
  sender : ι
  datagram : Bytes
  hops : Nat

/-- The servers, every reply that was sent, and what the last commit of a server was
computed from: the reply, where it is one of the network, and the number of servers
it had come through. -/
structure Network (ι : Type*) where
  servers : ι → NtpServer
  sent : List (SentReply ι)
  source : ι → Option (SentReply ι)
  hops : ι → Nat

/-- An event of a server. In a round, a query may receive one of the replies that
were sent, from any address. -/
structure Act (ι : Type*) where
  server : ι
  event : Event
  delivered : Nat → Option (Nat × SockAddr)

namespace Network

variable {ι : Type*}

/-- Servers that have been started. -/
def start (c : ι → NtpConfig) (logger : ι → LoggerSettings) : Network ι where
  servers i := .start (c i) (logger i)
  sent := []
  source _ := none
  hops _ := 0

/-- The reply a query receives. -/
def received (n : Network ι) (a : Act ι) (k : Nat) : Option (SentReply ι × SockAddr) :=
  (a.delivered k).bind fun d => (n.sent[d.1]?).map fun m => (m, d.2)

/-- A query that receives it. -/
def receive (env : QueryEnv) : Option (SentReply ι × SockAddr) → QueryEnv
  | none => env
  | some (m, sender) => { env with received := some (m.datagram, sender) }

/-- The event with the replies that are received. -/
def eventOf (n : Network ι) (a : Act ι) : Event :=
  match a.event with
  | .sync world now => .sync (fun k => receive (world k) (n.received a k)) now
  | e => e

/-- The reply an event sends. -/
def replies (n : Network ι) (i : ι) : Option (Verdict × Option Bytes) → List (SentReply ι)
  | some (_, some reply) => [⟨i, reply, n.hops i⟩]
  | _ => []

/-- The number of servers a committed answer has come through. An answer of
stratum 0 is not one to derive a stratum from. -/
def hopsOf (n : Network ι) (a : Act ι) (k : Nat) (result : UpstreamSyncResult) : Nat :=
  if result.stratum = 0 then 0
  else match n.received a k with
    | none => 0
    | some (m, _) => m.hops + 1

/-- The commit of an answer. -/
def commit [DecidableEq ι] (n : Network ι) (a : Act ι) : Option (Nat × UpstreamSyncResult) → Network ι
  | none => n
  | some (k, result) =>
    { n with
      source := Function.update n.source a.server ((n.received a k).map Prod.fst)
      hops := Function.update n.hops a.server (n.hopsOf a k result) }

/-- One event of a server. -/
def step [DecidableEq ι] (evp : Evp) (n : Network ι) (a : Act ι) : Except Exn (Network ι) :=
  match (n.servers a.server).stepWith NtpServer.captured evp (n.eventOf a) with
  | .error exn => .error exn
  | .ok (s, out) => .ok
      { n.commit a ((n.servers a.server).committed (n.eventOf a)) with
        servers := Function.update n.servers a.server s
        sent := n.sent ++ n.replies a.server out }

/-- The network after some events. -/
def run [DecidableEq ι] (evp : Evp) (n : Network ι) (acts : List (Act ι)) : Except Exn (Network ι) :=
  acts.foldlM (step evp) n

/-- A server with a stratum to derive its own from answers with more than this
stratum, and with 15 at most. -/
def Increasing (n : Network ι) : Prop :=
  ∀ i upstream, (n.servers i).Derives upstream →
    upstream < (n.servers i).responseStratum ∧ (n.servers i).responseStratum ≤ 15

/-- The event commits no answer of stratum 15. -/
def BelowFifteen (n : Network ι) (a : Act ι) : Prop :=
  ∀ k result, (n.servers a.server).committed (n.eventOf a) = some (k, result) →
    result.stratum ≤ 14

/-- A server has its time from an answer of another, which still tells the stratum
of this answer. -/
def SyncedTo (n : Network ι) (i j : ι) : Prop :=
  ∃ m, n.source i = some m ∧ m.sender = j ∧ (NtpPacket.decode m.datagram).stratum ≠ 0 ∧
    (n.servers j).responseStratum = (NtpPacket.decode m.datagram).stratum

/-! ## One event -/

variable {n n' : Network ι} {a : Act ι} {evp : Evp}

/-- **One event**, with the server it is one of. -/
theorem step_cases [DecidableEq ι] (h : n.step evp a = .ok n') :
    ∃ s out, (n.servers a.server).stepWith NtpServer.captured evp (n.eventOf a) = .ok (s, out) ∧
      n' = { n.commit a ((n.servers a.server).committed (n.eventOf a)) with
        servers := Function.update n.servers a.server s
        sent := n.sent ++ n.replies a.server out } := by
  unfold step at h
  cases hstep : (n.servers a.server).stepWith NtpServer.captured evp (n.eventOf a) with
  | error exn =>
    rw [hstep] at h
    cases h
  | ok r =>
    rw [hstep] at h
    cases h
    exact ⟨r.1, r.2, rfl, rfl⟩

/-- An answer that is one of the network has the stratum of the reply. -/
theorem committed_received {k : Nat} {result : UpstreamSyncResult} {m : SentReply ι}
    {sender : SockAddr}
    (h : (n.servers a.server).committed (n.eventOf a) = some (k, result))
    (hm : n.received a k = some (m, sender)) :
    result.stratum = (NtpPacket.decode m.datagram).stratum := by
  obtain ⟨world, now, response, hevent, hreply, hstratum⟩ := NtpServer.committed_eq_some h
  have hreceived : (world k).received = some (m.datagram, sender) := by
    unfold eventOf at hevent
    split at hevent
    · cases hevent
      show (receive _ (n.received a k)).received = _
      rw [hm]
      rfl
    · rename_i hno
      exact absurd hevent (hno world now)
  -- a datagram that is accepted is decoded as it is
  unfold QueryEnv.reply at hreply
  rw [hreceived] at hreply
  split at hreply
  · rename_i hdatagram
    cases hdatagram
    rw [hstratum, (acceptReply_eq_some_iff.mp hreply).2.2.2]
  · cases hreply

/-- The reply a query receives was sent. -/
theorem mem_of_received {k : Nat} {m : SentReply ι} {sender : SockAddr}
    (h : n.received a k = some (m, sender)) : m ∈ n.sent := by
  obtain ⟨d, -, hd⟩ := Option.bind_eq_some_iff.mp h
  obtain ⟨m', hm', heq⟩ := Option.map_eq_some_iff.mp hd
  cases heq
  exact List.mem_of_getElem? hm'

/-! ## Strata along a run -/

/-- No server derives its stratum from one above 14. -/
def ToldBelow15 (n : Network ι) : Prop :=
  ∀ i upstream, (n.servers i).Derives upstream → upstream ≤ 14

/-- Every server answers with more than it was told exactly when none was told more
than 14. -/
theorem increasing_iff : n.Increasing ↔ n.ToldBelow15 := by
  refine forall₃_congr fun i upstream h => ?_
  rw [h.responseStratum, derivedStratum_gt_iff]
  exact and_iff_left (derivedStratum_le upstream)

/-- A server that has just been started derives its stratum from nothing. -/
theorem not_derives_start (c : NtpConfig) (logger : LoggerSettings) (upstream : UInt8) :
    ¬(NtpServer.start c logger).Derives upstream := by
  rintro ⟨m, hm, hsynced, -⟩
  change (if c.upstreamServers.isEmpty then none else some _) = some m at hm
  split at hm
  · cases hm
  · cases hm
    cases hsynced

/-- What the time has come through: an answer a server has committed, a reply that
was sent and a server that derives its stratum have a stratum above the number of
servers passed. -/
structure Traced (n : Network ι) : Prop where
  told : n.ToldBelow15
  source : ∀ i m, n.source i = some m → (NtpPacket.decode m.datagram).stratum ≠ 0 →
    (n.servers i).Derives (NtpPacket.decode m.datagram).stratum
  sent : ∀ m ∈ n.sent, m.hops = 0 ∨ m.hops < (NtpPacket.decode m.datagram).stratum.toNat
  hops : ∀ i, n.hops i = 0 ∨
    ∃ upstream, (n.servers i).Derives upstream ∧ n.hops i ≤ upstream.toNat

theorem Traced.start (c : ι → NtpConfig) (logger : ι → LoggerSettings) :
    Traced (Network.start c logger) where
  told i upstream h := absurd h (not_derives_start (c i) (logger i) upstream)
  source _ _ h := nomatch h
  sent _ h := nomatch h
  hops _ := .inl rfl

/-- The replies of an event are those of the server before it. -/
theorem mem_replies {out : Option (Verdict × Option Bytes)} {s : NtpServer} {m : SentReply ι}
    {e : Event} (hserver : (n.servers a.server).stepWith NtpServer.captured evp e = .ok (s, out))
    (h : m ∈ n.replies a.server out) :
    m.hops = n.hops a.server ∧
      (NtpPacket.decode m.datagram).stratum = (n.servers a.server).responseStratum := by
  unfold replies at h
  split at h
  · rw [List.mem_singleton.mp h]
    exact ⟨rfl, (NtpServer.stepWith_reply hserver).1⟩
  · cases h

/-- A reply is sent with a stratum above the number of servers passed. -/
theorem Traced.reply (h : n.Traced) (i : ι) :
    n.hops i = 0 ∨ n.hops i < (n.servers i).responseStratum.toNat := by
  rcases h.hops i with hzero | ⟨upstream, hderives, hle⟩
  · exact .inl hzero
  · have hgt := (increasing_iff.mpr h.told i upstream hderives).1
    exact .inr (Nat.lt_of_le_of_lt hle (UInt8.lt_iff_toNat_lt.mp hgt))

section Steps

variable [DecidableEq ι]

/-- **One event keeps the strata below 15 exactly when it commits none of 15.** -/
theorem toldBelow15_step (h : n.ToldBelow15) (hstep : n.step evp a = .ok n') :
    n'.ToldBelow15 ↔ n.BelowFifteen a := by
  obtain ⟨s, out, hserver, rfl⟩ := step_cases hstep
  have hself : ∀ upstream, s.Derives upstream ↔
      (Function.update n.servers a.server s a.server).Derives upstream := by
    intro upstream
    rw [Function.update_self]
  rcases NtpServer.stepWith_committed hserver with ⟨hnone, hstay⟩ | ⟨k, result, m, hcommit, hm,
    hsynced, hstratum⟩
  · refine iff_of_true ?_ ?_
    · intro i upstream hderives
      by_cases hi : i = a.server
      · subst hi
        obtain ⟨m, hm, hrest⟩ := (hself upstream).mpr hderives
        exact h _ upstream ⟨m, hstay.symm.trans hm, hrest⟩
      · dsimp only at hderives
        rw [Function.update_of_ne hi] at hderives
        exact h i upstream hderives
    · intro k result hcommit
      rw [hnone] at hcommit
      cases hcommit
  · constructor
    · intro hbelow k' result' hcommit'
      rw [hcommit] at hcommit'
      cases hcommit'
      by_cases hzero : result.stratum = 0
      · rw [hzero]
        decide
      · exact hbelow a.server _ ((hself _).mp ⟨m, hm, hsynced, hstratum, hzero⟩)
    · intro hbelow i upstream hderives
      by_cases hi : i = a.server
      · subst hi
        obtain ⟨m', hm', -, hupstream, -⟩ := (hself upstream).mpr hderives
        rw [hm] at hm'
        cases hm'
        rw [← hupstream, hstratum]
        exact hbelow k result hcommit
      · dsimp only at hderives
        rw [Function.update_of_ne hi] at hderives
        exact h i upstream hderives

/-- **One event keeps the trace**, unless it commits an answer of stratum 15. -/
theorem Traced.step (h : n.Traced) (hbelow : n.BelowFifteen a) (hstep : n.step evp a = .ok n') :
    n'.Traced := by
  have htold := (toldBelow15_step h.told hstep).mpr hbelow
  obtain ⟨s, out, hserver, rfl⟩ := step_cases hstep
  have hsent : ∀ m ∈ n.sent ++ n.replies a.server out,
      m.hops = 0 ∨ m.hops < (NtpPacket.decode m.datagram).stratum.toNat := by
    intro m hm
    rcases List.mem_append.mp hm with hold | hnew
    · exact h.sent m hold
    · obtain ⟨hhops, hstratum⟩ := mem_replies hserver hnew
      rw [hhops, hstratum]
      exact h.reply a.server
  rcases NtpServer.stepWith_committed hserver with ⟨hnone, hstay⟩ | ⟨k, result, mgr, hcommit,
    hmgr, hsynced, hstratum⟩
  · -- nothing is committed, and the manager is what it was
    have hderives : ∀ i upstream, (n.servers i).Derives upstream →
        (Function.update n.servers a.server s i).Derives upstream := by
      intro i upstream hi
      by_cases heq : i = a.server
      · subst heq
        obtain ⟨m, hm, hrest⟩ := hi
        rw [Function.update_self]
        exact ⟨m, hstay.trans hm, hrest⟩
      · rwa [Function.update_of_ne heq]
    rw [hnone]
    refine ⟨by rwa [hnone] at htold, ?_, hsent, ?_⟩
    · intro i m hm hne
      exact hderives i _ (h.source i m hm hne)
    · intro i
      rcases h.hops i with hzero | ⟨upstream, hi, hle⟩
      · exact .inl hzero
      · exact .inr ⟨upstream, hderives i upstream hi, hle⟩
  · rw [hcommit] at htold ⊢
    refine ⟨htold, ?_, hsent, ?_⟩
    · intro i m hm hne
      by_cases hi : i = a.server
      · subst hi
        dsimp only [commit] at hm ⊢
        rw [Function.update_self] at hm ⊢
        obtain ⟨⟨m', sender⟩, hreceived, rfl⟩ := Option.map_eq_some_iff.mp hm
        have heq := committed_received hcommit hreceived
        exact ⟨mgr, hmgr, hsynced, hstratum.trans heq, hne⟩
      · dsimp only [commit] at hm ⊢
        rw [Function.update_of_ne hi] at hm ⊢
        exact h.source i m hm hne
    · intro i
      by_cases hi : i = a.server
      · subst hi
        dsimp only [commit]
        rw [Function.update_self, Function.update_self]
        unfold hopsOf
        by_cases hzero : result.stratum = 0
        · exact .inl (if_pos hzero)
        · rw [if_neg hzero]
          cases hreceived : n.received a k with
          | none => exact .inl rfl
          | some r =>
            -- the answer comes from a reply that was sent
            obtain ⟨m, sender⟩ := r
            have heq := committed_received hcommit hreceived
            refine .inr ⟨result.stratum, ⟨mgr, hmgr, hsynced, hstratum, hzero⟩, ?_⟩
            show m.hops + 1 ≤ result.stratum.toNat
            have hpos : result.stratum.toNat ≠ 0 := fun hz => hzero (UInt8.toNat_inj.mp hz)
            rcases h.sent m (mem_of_received hreceived) with hm | hm
            · omega
            · rw [heq]
              exact hm
      · dsimp only [commit]
        rw [Function.update_of_ne hi, Function.update_of_ne hi]
        exact h.hops i

end Steps

/-! ## No cycles -/

/-- The stratum a server was told. -/
def told (n : Network ι) (i : ι) : Nat :=
  ((n.servers i).upstreamSync.map (·.upstreamStratum.toNat)).getD 0

theorem told_of_derives {i : ι} {upstream : UInt8} (h : (n.servers i).Derives upstream) :
    n.told i = upstream.toNat := by
  obtain ⟨m, hm, -, rfl, -⟩ := h
  unfold told
  rw [hm]
  rfl

/-- Along two edges the stratum that was told decreases. -/
theorem Traced.told_lt (h : n.Traced) {i j k : ι} (hij : n.SyncedTo i j) (hjk : n.SyncedTo j k) :
    n.told j < n.told i := by
  obtain ⟨m, hm, -, hne, htells⟩ := hij
  obtain ⟨m', hm', -, hne', -⟩ := hjk
  have hi := h.source i m hm hne
  have hj := h.source j m' hm' hne'
  have hgt := (increasing_iff.mpr h.told j _ hj).1
  rw [told_of_derives hi, told_of_derives hj, ← htells]
  exact UInt8.lt_iff_toNat_lt.mp hgt

/-- What is told decreases along every path whose last server has an edge of its own;
induction on the path. -/
theorem Traced.told_lt_of_path (h : n.Traced) {i j : ι} (hpath : Relation.TransGen n.SyncedTo i j)
    {k : ι} (hjk : n.SyncedTo j k) : n.told j < n.told i := by
  induction hpath generalizing k with
  | single hij => exact h.told_lt hij hjk
  | tail _ hstep ih => exact Nat.lt_trans (h.told_lt hstep hjk) (ih hstep)

/-- **No cycle** of servers holds what the next one tells. -/
theorem Traced.acyclic (h : n.Traced) (i : ι) : ¬Relation.TransGen n.SyncedTo i i := by
  intro hcycle
  obtain ⟨j, hij, -⟩ := Relation.TransGen.head'_iff.mp hcycle
  exact Nat.lt_irrefl _ (h.told_lt_of_path hcycle hij)

/-- No server has its time through more than fourteen others. -/
theorem Traced.hops_le (h : n.Traced) (i : ι) : n.hops i ≤ 14 := by
  rcases h.hops i with hzero | ⟨upstream, hderives, hle⟩
  · rw [hzero]
    decide
  · exact Nat.le_trans hle (UInt8.le_iff_toNat_le.mp (h.told i upstream hderives))

/-! ## Runs of the network -/

section Runs

variable [DecidableEq ι]

open Runs

/-- Where no commit of a run is of stratum 15, the run keeps the trace. -/
theorem Traced.run {acts : List (Act ι)} (h : n.Traced)
    (hbelow : EveryStep (Network.step evp) (fun n a _ => n.BelowFifteen a) n acts)
    (hrun : n.run evp acts = .ok n') : n'.Traced := by
  refine foldlM_of_everyStep ?_ h hbelow hrun
  intro n a n' htraced hstep hstepBelow
  exact htraced.step hstepBelow hstep

/-- **When strata increase along every edge.** Started servers answer with more
than they were told, and with 15 at most, along the runs in which no answer of
stratum 15 is committed. In these runs every reply of a server with an upstream
stratum shows it, there is no cycle, and the time of no server has come through
more than fourteen others. -/
theorem strata_increase_iff (evp : Evp) (c : ι → NtpConfig) (logger : ι → LoggerSettings)
    (acts : List (Act ι)) :
    (EveryStep (Network.step evp) (fun _ _ n => n.Increasing) (Network.start c logger) acts ↔
      EveryStep (Network.step evp) (fun n a _ => n.BelowFifteen a) (Network.start c logger) acts) ∧
    (EveryStep (Network.step evp) (fun n a _ => n.BelowFifteen a) (Network.start c logger) acts →
      ∀ n : Network ι, (Network.start c logger).run evp acts = .ok n →
        (∀ i upstream e s verdict reply, (n.servers i).Derives upstream →
          (n.servers i).stepWith NtpServer.captured evp e = .ok (s, some (verdict, some reply)) →
          upstream < (NtpPacket.decode reply).stratum ∧ (NtpPacket.decode reply).stratum ≤ 15) ∧
        (∀ i, ¬Relation.TransGen n.SyncedTo i i) ∧ ∀ i, n.hops i ≤ 14) := by
  have hstart := Traced.start c logger
  constructor
  · refine everyStep_iff (I := ToldBelow15) ?_ ?_ hstart.told acts
    · intro n a n' htold hstep
      rw [increasing_iff]
      exact toldBelow15_step htold hstep
    · intro n a n' _ _ hincreasing
      exact increasing_iff.mp hincreasing
  · intro hbelow n hrun
    have htraced := hstart.run hbelow hrun
    refine ⟨?_, htraced.acyclic, htraced.hops_le⟩
    intro i upstream e s verdict reply hderives hreply
    rw [(NtpServer.stepWith_reply hreply).1]
    exact increasing_iff.mpr htraced.told i upstream hderives

end Runs

/-- A server answers a request. -/
def answer (i : Bool) : Act Bool := ⟨i, .packet exampleRequest exampleClient exampleEnv, fun _ => none⟩

/-- A server has a round, and its query receives a reply that was sent. -/
def follow (i : Bool) (k : Nat) : Act Bool :=
  ⟨i, .sync (fun _ => silentQuery) 0, fun _ => some (k, exampleServer)⟩

/-- Two servers of one configuration. -/
def pair (c : NtpConfig) : Network Bool := start (fun _ => c) fun _ => NtpServer.loggerSettings c

/-- What a server has its stratum from, and what it tells. -/
def holdsAndTells (n : Network Bool) (i : Bool) : Option (Bool × UInt8) × UInt8 :=
  ((n.source i).map fun m => (m.sender, (NtpPacket.decode m.datagram).stratum),
    (n.servers i).responseStratum)

theorem syncedTo_of_holds {n : Network Bool} {i j : Bool} {stratum : UInt8} (hne : stratum ≠ 0)
    (hi : (n.holdsAndTells i).1 = some (j, stratum)) (hj : (n.holdsAndTells j).2 = stratum) :
    n.SyncedTo i j := by
  obtain ⟨m, hm, heq⟩ := Option.map_eq_some_iff.mp hi
  obtain ⟨hsender, hstratum⟩ := Prod.mk.inj heq
  exact ⟨m, hm, hsender, by rwa [hstratum], hj.trans hstratum.symm⟩

/-- The stratum the event would commit. -/
def stratumCommitted (n : Network Bool) (a : Act Bool) : Option UInt8 :=
  ((n.servers a.server).committed (n.eventOf a)).map fun q => q.2.stratum

theorem belowFifteen_of_stratum {n : Network Bool} {a : Act Bool} {stratum : UInt8}
    (h : n.stratumCommitted a = some stratum) (hle : stratum ≤ 14) : n.BelowFifteen a := by
  intro k result hcommit
  unfold stratumCommitted at h
  rw [hcommit] at h
  cases h
  exact hle

/-- One server follows the other, which has no upstream stratum. -/
theorem strata_increase_example :
    ∃ n : Network Bool, (pair followingConfig).run (fun _ _ => none) [answer false, follow true 0]
        = .ok n ∧ n.SyncedTo true false ∧
      (∀ i, ¬Relation.TransGen n.SyncedTo i i) ∧ ∀ i, n.hops i ≤ 14 := by
  have hcommit : ((step (fun _ _ => none) (pair followingConfig) (answer false)).map
      fun n => n.stratumCommitted (follow true 0)).toOption = some (some 2) := by
    decide +kernel
  have hends : (((pair followingConfig).run (fun _ _ => none) [answer false, follow true 0]).map
      fun n => ((n.holdsAndTells true).1, (n.holdsAndTells false).2)).toOption
        = some (some (false, 2), 2) := by
    decide +kernel
  obtain ⟨n, hrun, hboth⟩ := Runs.exists_of_toOption_map hends
  obtain ⟨htrue, hfalse⟩ := Prod.mk.inj hboth
  refine ⟨n, hrun, syncedTo_of_holds (by decide) htrue hfalse,
    ((strata_increase_iff _ _ _ _).2 ?_ n hrun).2⟩
  refine fun t ht => ⟨(fun _ _ h => nomatch h), fun t' _ => ⟨?_, trivial⟩⟩
  change step _ (pair followingConfig) _ = _ at ht
  rw [ht] at hcommit
  exact belowFifteen_of_stratum (Option.some.inj hcommit) (by decide)

/-! ## A cycle at stratum 15 -/

/-- A server of stratum 15 with an upstream server. -/
def lastStratumConfig : NtpConfig := { followingConfig with stratum := 15 }

/-- The first of two such servers follows an answer of the second, and the second
one of the first. -/
def cycleActs : List (Act Bool) := [answer false, follow true 0, answer true, follow false 1]

/-- With two servers of stratum 15 that follow each other, each holds what the other one
tells, and tells what it was told. -/
theorem cycle_at_fifteen :
    ¬ ∀ (evp : Evp) (c : Bool → NtpConfig) (logger : Bool → LoggerSettings)
      (acts : List (Act Bool)) (n : Network Bool), (start c logger).run evp acts = .ok n →
      n.Increasing ∧ ∀ i, ¬Relation.TransGen n.SyncedTo i i := by
  intro h
  have hends : (((pair lastStratumConfig).run (fun _ _ => none) cycleActs).map
      fun n => (n.holdsAndTells true, n.holdsAndTells false)).toOption
        = some ((some (false, 15), 15), (some (true, 15), 15)) := by
    decide +kernel
  obtain ⟨n, hrun, hboth⟩ := Runs.exists_of_toOption_map hends
  obtain ⟨htrue, hfalse⟩ := Prod.mk.inj hboth
  obtain ⟨htrueHolds, htrueTells⟩ := Prod.mk.inj htrue
  obtain ⟨hfalseHolds, hfalseTells⟩ := Prod.mk.inj hfalse
  have hforth : n.SyncedTo true false := syncedTo_of_holds (by decide) htrueHolds hfalseTells
  have hback : n.SyncedTo false true := syncedTo_of_holds (by decide) hfalseHolds htrueTells
  exact (h _ _ _ _ n hrun).2 true (.tail (.single hforth) hback)

end Network

end SimpleNtpd
