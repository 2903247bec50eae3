import SimpleNtpd.Core.Daemon
import SimpleNtpd.Core.WellFormedReplies
import SimpleNtpd.Lib.Tables

/-!
# The statistics

A datagram leaves `processPacket` by one of seven exits, and three other
functions make, count and erase connections. What an exit does to the counters
is one of three `Outcome`s, behind a new connection or not. So the accounts are
invariants: those of the datagrams and of the processing times (`Accounted`) are
kept by an outcome, those of the connections (`Tabled`) by insertions and
removals. Totals are never taken back (`TotalsLe`).
-/

namespace SimpleNtpd

open Cpp

/-! ## The counters -/

namespace NtpServerStats

/-- A connection has been made. -/
def countConnection (st : NtpServerStats) : NtpServerStats :=
  { st with
    totalConnections := st.totalConnections + 1
    activeConnections := st.activeConnections + 1 }

/-- An error. -/
def countError (st : NtpServerStats) : NtpServerStats := { st with totalErrors := st.totalErrors + 1 }

/-- A reply to a datagram. -/
def countReply (st : NtpServerStats) (bytes : Nat) : NtpServerStats :=
  { st with
    totalRequests := st.totalRequests + 1
    totalBytesTransferred := st.totalBytesTransferred + bytes
    totalResponses := st.totalResponses + 1 }

/-- A processing time. -/
def countTime (st : NtpServerStats) (us : Nat) : NtpServerStats :=
  { st with
    totalRequestProcessingTimeUs := st.totalRequestProcessingTimeUs + us
    processedRequestCount := st.processedRequestCount + 1
    maxRequestProcessingTimeUs := max st.maxRequestProcessingTimeUs us
    minRequestProcessingTimeUs := min st.minRequestProcessingTimeUs us }

/-- What the exits do to the counters: a datagram is dropped or its reply is not
sent, it is refused, or it is answered. -/
inductive Outcome (bytes : Nat) (st : NtpServerStats) : NtpServerStats → Prop
  | error : Outcome bytes st st.countError
  | refused (us : Nat) : Outcome bytes st (st.countError.countTime us)
  | answered (us : Nat) (h : ntpPacketSize ≤ bytes) :
      Outcome bytes st ((st.countReply bytes).countTime us)

/-- The accounts of the datagrams that were handed over and of the times that
were measured. -/
structure Accounted (datagrams : Nat) (st : NtpServerStats) : Prop where
  datagrams : datagrams = st.totalResponses + st.totalErrors
  requests : st.totalRequests = st.totalResponses
  bytes : st.totalBytesTransferred = ntpPacketSize * st.totalRequests
  fastest : st.processedRequestCount * st.minRequestProcessingTimeUs
    ≤ st.totalRequestProcessingTimeUs
  slowest : st.totalRequestProcessingTimeUs
    ≤ st.processedRequestCount * st.maxRequestProcessingTimeUs
  ordered : 0 < st.processedRequestCount →
    st.minRequestProcessingTimeUs ≤ st.maxRequestProcessingTimeUs

/-- No exit touches the counters of the connections. -/
theorem Outcome.connections {bytes : Nat} {st st' : NtpServerStats} (h : Outcome bytes st st') :
    st'.activeConnections = st.activeConnections ∧ st'.totalConnections = st.totalConnections := by
  cases h <;> exact ⟨rfl, rfl⟩

namespace Accounted

variable {n : Nat} {st : NtpServerStats}

theorem new : Accounted 0 {} := ⟨rfl, rfl, rfl, Nat.le_refl 0, Nat.le_refl 0, fun h => nomatch h⟩

theorem countConnection (h : Accounted n st) : Accounted n st.countConnection :=
  ⟨h.datagrams, h.requests, h.bytes, h.fastest, h.slowest, h.ordered⟩

theorem countError (h : Accounted n st) : Accounted (n + 1) st.countError := by
  refine ⟨?_, h.requests, h.bytes, h.fastest, h.slowest, h.ordered⟩
  show n + 1 = st.totalResponses + (st.totalErrors + 1)
  rw [h.datagrams, Nat.add_assoc]

/-- A reply is to 48 bytes. -/
theorem countReply (h : Accounted n st) : Accounted (n + 1) (st.countReply ntpPacketSize) := by
  refine ⟨?_, ?_, ?_, h.fastest, h.slowest, h.ordered⟩
  · show n + 1 = st.totalResponses + 1 + st.totalErrors
    rw [h.datagrams]
    omega
  · show st.totalRequests + 1 = st.totalResponses + 1
    rw [h.requests]
  · show st.totalBytesTransferred + ntpPacketSize = ntpPacketSize * (st.totalRequests + 1)
    rw [h.bytes, Nat.mul_succ]

/-- A new time lies between the new extremes, and the others stay there. -/
theorem countTime (h : Accounted n st) (us : Nat) : Accounted n (st.countTime us) := by
  refine ⟨h.datagrams, h.requests, h.bytes, ?_, ?_, fun _ => ?_⟩
  · show (st.processedRequestCount + 1) * min st.minRequestProcessingTimeUs us
      ≤ st.totalRequestProcessingTimeUs + us
    rw [Nat.succ_mul]
    refine Nat.add_le_add (Nat.le_trans ?_ h.fastest) (Nat.min_le_right _ _)
    exact Nat.mul_le_mul_left _ (Nat.min_le_left _ _)
  · show st.totalRequestProcessingTimeUs + us
      ≤ (st.processedRequestCount + 1) * max st.maxRequestProcessingTimeUs us
    rw [Nat.succ_mul]
    refine Nat.add_le_add (Nat.le_trans h.slowest ?_) (Nat.le_max_right _ _)
    exact Nat.mul_le_mul_left _ (Nat.le_max_left _ _)
  · exact Nat.le_trans (Nat.min_le_right _ _) (Nat.le_max_right _ us)

/-- Every exit accounts for one datagram. -/
theorem outcome {bytes : Nat} {st' : NtpServerStats} (h : Accounted n st)
    (hout : Outcome bytes st st') (hbytes : bytes ≤ ntpPacketSize) : Accounted (n + 1) st' := by
  cases hout with
  | error => exact h.countError
  | refused us => exact h.countError.countTime us
  | answered us hlong =>
    rw [Nat.le_antisymm hbytes hlong]
    exact h.countReply.countTime us

end Accounted

/-- The totals have not decreased. -/
structure TotalsLe (st st' : NtpServerStats) : Prop where
  connections : st.totalConnections ≤ st'.totalConnections
  requests : st.totalRequests ≤ st'.totalRequests
  responses : st.totalResponses ≤ st'.totalResponses
  bytes : st.totalBytesTransferred ≤ st'.totalBytesTransferred
  errors : st.totalErrors ≤ st'.totalErrors
  times : st.totalRequestProcessingTimeUs ≤ st'.totalRequestProcessingTimeUs
  processed : st.processedRequestCount ≤ st'.processedRequestCount

namespace TotalsLe

variable {st st' st'' : NtpServerStats}

theorem refl (st : NtpServerStats) : TotalsLe st st := by
  constructor <;> exact Nat.le_refl _

theorem trans (h : TotalsLe st st') (h' : TotalsLe st' st'') : TotalsLe st st'' :=
  ⟨h.connections.trans h'.connections, h.requests.trans h'.requests,
    h.responses.trans h'.responses, h.bytes.trans h'.bytes, h.errors.trans h'.errors,
    h.times.trans h'.times, h.processed.trans h'.processed⟩

theorem countConnection (st : NtpServerStats) : TotalsLe st st.countConnection :=
  { refl st with connections := Nat.le_succ _ }

theorem countError (st : NtpServerStats) : TotalsLe st st.countError :=
  { refl st with errors := Nat.le_succ _ }

theorem countReply (st : NtpServerStats) (bytes : Nat) : TotalsLe st (st.countReply bytes) :=
  { refl st with
    requests := Nat.le_succ _
    responses := Nat.le_succ _
    bytes := Nat.le_add_right _ _ }

theorem countTime (st : NtpServerStats) (us : Nat) : TotalsLe st (st.countTime us) :=
  { refl st with
    times := Nat.le_add_right _ _
    processed := Nat.le_succ _ }

theorem outcome {bytes : Nat} (h : Outcome bytes st st') : TotalsLe st st' := by
  cases h with
  | error => exact countError st
  | refused us => exact (countError st).trans (countTime _ us)
  | answered us hlong => exact (countReply st bytes).trans (countTime _ us)

end TotalsLe

end NtpServerStats

open NtpServerStats

/-! ## What a datagram does to the counters and the table -/

namespace NtpServer

variable {s s' : NtpServer}

/-- `active_connections_.size()` (server.cpp:613–616). -/
def getActiveConnectionCount (s : NtpServer) : Nat := s.activeConnections.entries.length

/-- A datagram of the client makes a connection: it gets as far as the table, and
the table has none for its address and port. -/
def opensConnection (s : NtpServer) (client : SockAddr) (env : PacketEnv) : Bool :=
  !s.dropsClient client env &&
    (s.activeConnections.lookup (connectionKey (inetNtop client.ip) client.port)).isNone

theorem applyDynamicStratum_books (s : NtpServer) :
    s.applyDynamicStratum.stats = s.stats ∧
      s.applyDynamicStratum.activeConnections = s.activeConnections := by
  rcases s.applyDynamicStratum_cases with hstay | ⟨-, hraise⟩
  · rw [hstay]
    exact ⟨rfl, rfl⟩
  · rw [hraise]
    exact ⟨rfl, rfl⟩

theorem selectUpstreamServer_books (s : NtpServer) (randomIndex : Nat) :
    (s.selectUpstreamServer randomIndex).2.stats = s.stats ∧
      (s.selectUpstreamServer randomIndex).2.activeConnections = s.activeConnections := by
  unfold selectUpstreamServer
  dsimp only
  generalize (if s.healthyUpstreams.isEmpty then s.currentConfig.upstreamServers
    else s.healthyUpstreams) = healthy
  split
  · exact ⟨rfl, rfl⟩
  · split
    · exact ⟨rfl, rfl⟩
    · split <;> exact ⟨rfl, rfl⟩

theorem buildReply_books (s : NtpServer) (request : NtpPacket) (env : PacketEnv) :
    (s.buildReply request env).2.2.stats = s.stats ∧
      (s.buildReply request env).2.2.activeConnections = s.activeConnections := by
  have hselect := s.applyDynamicStratum.selectUpstreamServer_books env.randomIndex
  have hstratum := s.applyDynamicStratum_books
  exact ⟨hselect.1.trans hstratum.1, hselect.2.trans hstratum.2⟩

theorem recordSendFailure_books (s : NtpServer) (selected : Str) :
    (s.recordSendFailure selected).stats = s.stats.countError ∧
      (s.recordSendFailure selected).activeConnections = s.activeConnections := by
  unfold recordSendFailure
  dsimp only
  split <;> exact ⟨rfl, rfl⟩

/-- Behind `handlePacket` a datagram has one of the outcomes, and the table
stays. -/
theorem finishPacket_books (s : NtpServer) {accepted : Bool} {data : Bytes} (env : PacketEnv)
    (h : accepted = true → ntpPacketSize ≤ data.length) :
    Outcome data.length s.stats (s.finishPacket accepted data env).server.stats ∧
      (s.finishPacket accepted data env).server.activeConnections = s.activeConnections := by
  unfold finishPacket
  cases accepted with
  | false => exact ⟨.refused _, rfl⟩
  | true =>
    rw [if_pos rfl, NtpPacket.parseFromData_of_le _ (h rfl)]
    dsimp only
    have hbuild := s.buildReply_books (NtpPacket.decode data) env
    generalize s.buildReply (NtpPacket.decode data) env = built at hbuild
    obtain ⟨reply, selected, t⟩ := built
    dsimp only at hbuild ⊢
    rw [← hbuild.1, ← hbuild.2]
    cases env.sendOk with
    | true => exact ⟨.answered _ (h rfl), rfl⟩
    | false =>
      have hfail := t.recordSendFailure_books selected
      refine ⟨?_, hfail.2⟩
      show Outcome data.length t.stats (t.recordSendFailure selected).stats
      rw [hfail.1]
      exact .error

/-- A method call leaves the counters and the size of the table. -/
theorem handleOn_books (pick : NtpServer → NtpConnection → NtpConfig) (evp : Evp) (s : NtpServer)
    (clientKey : Str) (now : SteadyTime) (data : Bytes) :
    (s.handleOn pick evp clientKey now data).2.stats = s.stats ∧
      (s.handleOn pick evp clientKey now data).2.getActiveConnectionCount
        = s.getActiveConnectionCount := by
  unfold handleOn onConnection
  cases hlookup : s.activeConnections.lookup clientKey with
  | none => exact ⟨rfl, rfl⟩
  | some conn =>
    have hmem : clientKey ∈ s.activeConnections := by
      rw [← AList.lookup_isSome, hlookup]
      rfl
    exact ⟨rfl, Tables.length_insert_of_mem hmem⟩

/-- What is accepted has 48 bytes. -/
theorem length_of_handleOn {pick : NtpServer → NtpConnection → NtpConfig} {evp : Evp}
    {clientKey : Str} {now : SteadyTime} {data : Bytes}
    (h : (s.handleOn pick evp clientKey now data).1 = true) : ntpPacketSize ≤ data.length := by
  cases hrequest : clientRequest data with
  | none =>
    rw [handleOn_of_none hrequest] at h
    cases h
  | some packet => exact (clientRequest_eq_some_iff.mp hrequest).1

/-- A connection is counted when it is made. -/
theorem getOrCreateConnection_books {clientIp : Str} {clientPort : UInt16}
    (h : s.getOrCreateConnection clientIp clientPort = .ok s') :
    s'.stats = (if (s.activeConnections.lookup (connectionKey clientIp clientPort)).isNone
      then s.stats.countConnection else s.stats) ∧
    s'.getActiveConnectionCount = s.getActiveConnectionCount
      + (s.activeConnections.lookup (connectionKey clientIp clientPort)).isNone.toNat := by
  rcases getOrCreateConnection_cases h with ⟨rfl, conn, hconn⟩ | ⟨hnone, trusted, -, rfl⟩
  · rw [hconn]
    exact ⟨rfl, rfl⟩
  · rw [hnone]
    exact ⟨rfl, Tables.length_insert_of_notMem (AList.lookup_eq_none.mp hnone)⟩

/-- **What a datagram does to the counters and to the size of the table**: one of
the outcomes, behind a new connection where it makes one. -/
theorem processPacketWith_books {pick : NtpServer → NtpConnection → NtpConfig} {evp : Evp}
    {data : Bytes} {client : SockAddr} {env : PacketEnv} {p : Processed}
    (h : s.processPacketWith pick evp data client env = .ok p) :
    Outcome data.length
      (if s.opensConnection client env then s.stats.countConnection else s.stats)
      p.server.stats ∧
    p.server.getActiveConnectionCount
      = s.getActiveConnectionCount + (s.opensConnection client env).toNat := by
  unfold opensConnection
  rcases processPacketWith_stages h with
    ⟨hdrop, t, verdict, ⟨rate, second, rfl⟩, -, rfl⟩ |
    ⟨hdrop, t, u, ⟨rate, second, rfl⟩, hconn, rfl⟩
  · rw [hdrop]
    exact ⟨.error, rfl⟩
  · -- the connection is counted before its method decides
    rw [hdrop, Bool.not_false, Bool.true_and]
    have hmade := getOrCreateConnection_books hconn
    have hhandle := u.handleOn_books pick evp (connectionKey (inetNtop client.ip) client.port)
      env.requestTime data
    have hlen : (u.handleOn pick evp (connectionKey (inetNtop client.ip) client.port)
        env.requestTime data).1 = true → ntpPacketSize ≤ data.length := length_of_handleOn
    generalize u.handleOn pick evp (connectionKey (inetNtop client.ip) client.port)
      env.requestTime data = handled at hhandle hlen ⊢
    obtain ⟨accepted, v⟩ := handled
    have hfinish := v.finishPacket_books env hlen
    rw [hhandle.1, hmade.1] at hfinish
    refine ⟨hfinish.1, ?_⟩
    unfold getActiveConnectionCount
    rw [hfinish.2]
    exact hhandle.2.trans hmade.2

/-! ## The table -/

/-- The connections are counted: those there are, and all there have been. -/
structure Tabled (s : NtpServer) : Prop where
  active : s.stats.activeConnections = s.getActiveConnectionCount
  total : s.stats.activeConnections ≤ s.stats.totalConnections

theorem Tabled.eraseConnection (h : s.Tabled) {clientKey : Str}
    (hmem : clientKey ∈ s.activeConnections) : (s.eraseConnection clientKey).Tabled := by
  have hlen := Tables.length_erase_of_mem hmem
  have hactive := h.active
  have htotal := h.total
  unfold getActiveConnectionCount at hactive
  refine ⟨?_, ?_⟩
  · show s.stats.activeConnections - 1 = (s.activeConnections.erase clientKey).entries.length
    omega
  · show s.stats.activeConnections - 1 ≤ s.stats.totalConnections
    omega

/-- A clean-up counts what it erases; induction on the connections it has found,
which are different ones of the table. -/
theorem Tabled.cleanupConnections (h : s.Tabled) : s.cleanupConnections.Tabled := by
  unfold NtpServer.cleanupConnections
  dsimp only
  have hsub := List.filter_sublist (l := s.activeConnections.entries)
    (p := fun entry => !entry.2.active)
  have hnodup : ((s.activeConnections.entries.filter fun entry => !entry.2.active).map
      Sigma.fst).Nodup := s.activeConnections.keys_nodup.sublist (hsub.map Sigma.fst)
  have hmem : ∀ entry ∈ s.activeConnections.entries.filter fun entry => !entry.2.active,
      entry.1 ∈ s.activeConnections := fun entry he =>
    AList.mem_keys.mp (List.mem_map_of_mem (hsub.subset he))
  generalize (s.activeConnections.entries.filter fun entry => !entry.2.active) = inactive
    at hnodup hmem
  clear hsub
  induction inactive generalizing s with
  | nil => exact h
  | cons entry inactive ih =>
    rw [List.map_cons, List.nodup_cons] at hnodup
    rw [List.foldl_cons]
    refine ih (h.eraseConnection (hmem entry List.mem_cons_self)) hnodup.2 ?_
    intro other hother
    refine AList.mem_erase.mpr ⟨?_, hmem other (List.mem_cons_of_mem entry hother)⟩
    rintro heq
    exact hnodup.1 (List.mem_map.mpr ⟨other, hother, heq⟩)

/-- A clean-up leaves the other counters. -/
theorem cleanupConnections_stats (s : NtpServer) :
    ∃ active, s.cleanupConnections.stats = { s.stats with activeConnections := active } := by
  unfold NtpServer.cleanupConnections
  dsimp only
  generalize (s.activeConnections.entries.filter fun entry => !entry.2.active) = inactive
  induction inactive generalizing s with
  | nil => exact ⟨s.stats.activeConnections, rfl⟩
  | cons entry inactive ih =>
    obtain ⟨active, hrest⟩ := ih (s.eraseConnection entry.1)
    exact ⟨active, hrest⟩

end NtpServer

/-! ## Lives -/

namespace Daemon

open NtpServer

/-- A datagram handed to `processPacket`. -/
def Step.isDatagram : Step → Bool
  | .serve (.packet _ _ _) => true
  | _ => false

/-- No datagram is longer than the buffer of `processIncomingPackets`. -/
def Step.FitsBuffer : Step → Prop
  | .serve (.packet data _ _) => data.length ≤ ntpPacketSize
  | _ => True

variable {evp : Evp} {d d' : Daemon}

/-- **What an event does to the counters and the table**: a datagram has one of
the outcomes, and may make a connection; nothing else touches any counter but
that of the active connections, which goes with the table. -/
theorem step_books {e : Step} (h : d.step evp e = .ok d') :
    (∃ data client env, e = .serve (.packet data client env) ∧
      Outcome data.length (if d.server.opensConnection client env
        then d.server.stats.countConnection else d.server.stats) d'.server.stats ∧
      d'.server.getActiveConnectionCount = d.server.getActiveConnectionCount
        + (d.server.opensConnection client env).toNat) ∨
    (e.isDatagram = false ∧
      (∃ active, d'.server.stats = { d.server.stats with activeConnections := active }) ∧
      (d.server.Tabled → d'.server.Tabled)) := by
  cases e with
  | start env =>
    cases h
    rcases d.start_cases env with hstay | ⟨-, -, -, hstart⟩
    · rw [hstay]
      exact .inr ⟨rfl, ⟨_, rfl⟩, id⟩
    · rw [hstart]
      obtain ⟨healthy, sync, ref, heq⟩ := startUpstreams_eq d.server
      dsimp only
      rw [heq]
      exact .inr ⟨rfl, ⟨_, rfl⟩, fun h => ⟨h.active, h.total⟩⟩
  | serve e =>
    obtain ⟨s, out, hserve, rfl⟩ := step_serve h
    cases e with
    | packet data client env =>
      obtain ⟨p, hp, rfl, -⟩ := stepWith_packet hserve
      have hbooks := processPacketWith_books hp
      exact .inl ⟨data, client, env, rfl, hbooks.1, hbooks.2⟩
    | sync world now =>
      cases hserve
      exact .inr ⟨rfl, ⟨_, rfl⟩, fun h => ⟨h.active, h.total⟩⟩
    | reload getenv file =>
      cases hserve
      rcases reloadConfig_cases d.server getenv file with hstay | ⟨content, -, -, -, hreload⟩
      · rw [hstay]
        exact .inr ⟨rfl, ⟨_, rfl⟩, id⟩
      · rw [hreload]
        exact .inr ⟨rfl, ⟨_, rfl⟩, fun h => ⟨h.active, h.total⟩⟩
    | cleanup =>
      cases hserve
      exact .inr ⟨rfl, d.server.cleanupConnections_stats, Tabled.cleanupConnections⟩
  | stop =>
    cases h
    unfold stop
    split
    · exact .inr ⟨rfl, ⟨_, rfl⟩, id⟩
    · -- the connections are cleaned up when the manager is gone
      refine .inr ⟨rfl, cleanupConnections_stats _, fun h => Tabled.cleanupConnections ?_⟩
      exact ⟨h.active, h.total⟩

/-- The accounts after some datagrams. -/
structure Conserved (datagrams : Nat) (d : Daemon) : Prop where
  accounted : Accounted datagrams d.server.stats
  tabled : d.server.Tabled

theorem Conserved.create (c : NtpConfig) (logger : LoggerSettings) :
    Conserved 0 (create c logger) :=
  ⟨.new, rfl, Nat.le_refl 0⟩

/-- One event keeps the connections counted. -/
theorem tabled_step {e : Step} (h : d.server.Tabled) (hstep : d.step evp e = .ok d') :
    d'.server.Tabled := by
  rcases step_books hstep with ⟨data, client, env, rfl, hout, hcount⟩ | ⟨-, -, htabled⟩
  · have hconnections := hout.connections
    cases hopens : d.server.opensConnection client env with
    | false =>
      rw [hopens, if_neg Bool.false_ne_true] at hconnections
      rw [hopens] at hcount
      refine ⟨?_, ?_⟩
      · rw [hcount, hconnections.1]
        exact h.active
      · rw [hconnections.1, hconnections.2]
        exact h.total
    | true =>
      rw [hopens, if_pos rfl] at hconnections
      rw [hopens] at hcount
      refine ⟨?_, ?_⟩
      · rw [hcount, hconnections.1]
        show d.server.stats.activeConnections + 1 = d.server.getActiveConnectionCount + 1
        rw [h.active]
      · rw [hconnections.1, hconnections.2]
        exact Nat.succ_le_succ h.total
  · exact htabled h

/-- One event keeps the accounts. -/
theorem Conserved.step {n : Nat} {e : Step} (h : Conserved n d) (hfits : e.FitsBuffer)
    (hstep : d.step evp e = .ok d') : Conserved (n + e.isDatagram.toNat) d' := by
  refine ⟨?_, tabled_step h.tabled hstep⟩
  rcases step_books hstep with ⟨data, client, env, rfl, hout, -⟩ | ⟨hnone, ⟨active, hstats⟩, -⟩
  · have hmade : Accounted n (if d.server.opensConnection client env
        then d.server.stats.countConnection else d.server.stats) := by
      split
      · exact h.accounted.countConnection
      · exact h.accounted
    exact hmade.outcome hout hfits
  · rw [hnone, hstats]
    exact ⟨h.accounted.datagrams, h.accounted.requests, h.accounted.bytes, h.accounted.fastest,
      h.accounted.slowest, h.accounted.ordered⟩

/-- No event takes a total back. -/
theorem totalsLe_step {e : Step} (hstep : d.step evp e = .ok d') :
    TotalsLe d.server.stats d'.server.stats := by
  rcases step_books hstep with ⟨data, client, env, rfl, hout, -⟩ | ⟨-, ⟨active, hstats⟩, -⟩
  · refine TotalsLe.trans ?_ (.outcome hout)
    split
    · exact .countConnection _
    · exact .refl _
  · rw [hstats]
    exact { TotalsLe.refl d.server.stats with }

/-- A run keeps the accounts; induction on the events, each of which counts for
one datagram or none. -/
theorem Conserved.run {n : Nat} {events : List Step} (h : Conserved n d)
    (hfits : ∀ e ∈ events, e.FitsBuffer) (hrun : d.run evp events = .ok d') :
    Conserved (n + events.countP Step.isDatagram) d' := by
  induction events generalizing n d with
  | nil =>
    cases hrun
    exact h
  | cons e events ih =>
    obtain ⟨t, hstep, hrest⟩ := Components.foldlM_cons_iff.mp hrun
    have hnext := ih (h.step (hfits e List.mem_cons_self) hstep)
      (fun e' he' => hfits e' (List.mem_cons_of_mem e he')) hrest
    have hcount : (e :: events).countP Step.isDatagram
        = e.isDatagram.toNat + events.countP Step.isDatagram := by
      rw [List.countP_cons, Nat.add_comm]
      cases e.isDatagram <;> rfl
    rw [hcount, ← Nat.add_assoc]
    exact hnext

/-- A run takes no total back. -/
theorem totalsLe_run {events : List Step} (hrun : d.run evp events = .ok d') :
    TotalsLe d.server.stats d'.server.stats :=
  Runs.foldlM_invariant (I := fun t => TotalsLe d.server.stats t.server.stats)
    (fun _ _ _ _ ht hstep => ht.trans (totalsLe_step hstep)) (.refl _) hrun

end Daemon

open Daemon

/-- **Statistics are conserved.** After any run of datagrams (of at most the 48
bytes the server reads), clean-ups, starts, stops, reloads and sync rounds, each
datagram has been counted as one response or as one error, and the requests, the
bytes, the processing times and the connections agree with that and with the
table; between any two points of the run no total has decreased. -/
theorem statistics_conserved (evp : Evp) (c : NtpConfig) (logger : LoggerSettings)
    (events : List Step) (hfits : ∀ e ∈ events, e.FitsBuffer) {d : Daemon}
    (hrun : (create c logger).run evp events = .ok d) :
    Accounted (events.countP Step.isDatagram) d.server.stats ∧ d.server.Tabled ∧
      ∀ pre post t, events = pre ++ post → (create c logger).run evp pre = .ok t →
        TotalsLe t.server.stats d.server.stats := by
  have hconserved : Conserved (events.countP Step.isDatagram) d := by
    have h := (Conserved.create c logger).run hfits hrun
    rwa [Nat.zero_add] at h
  refine ⟨hconserved.accounted, hconserved.tabled, ?_⟩
  rintro pre post t rfl hpre
  obtain ⟨u, hfirst, hsecond⟩ := Runs.foldlM_append_iff.mp hrun
  have heq : t = u := Except.ok.inj (hpre.symm.trans hfirst)
  rw [heq]
  exact totalsLe_run hsecond

/-- A start, the same request twice, a datagram that is too short, and a stop. -/
def exampleLife : List Step :=
  [.start ⟨true, true⟩, .serve (.packet exampleRequest exampleClient exampleEnv),
    .serve (.packet exampleRequest exampleClient exampleEnv),
    .serve (.packet [0x23] exampleClient exampleEnv), .stop]

/-- Three datagrams, two of them answered. -/
theorem statistics_conserved_example :
    ∃ d, (create .defaults (startupLogger .defaults)).run (fun _ _ => none) exampleLife = .ok d ∧
      d.server.stats.totalResponses = 2 ∧
      Accounted 3 d.server.stats ∧ d.server.Tabled ∧
      ∀ pre post t, exampleLife = pre ++ post →
        (create .defaults (startupLogger .defaults)).run (fun _ _ => none) pre = .ok t →
          TotalsLe t.server.stats d.server.stats := by
  have hresponses : (((create .defaults (startupLogger .defaults)).run (fun _ _ => none)
      exampleLife).map (fun d => d.server.stats.totalResponses)).toOption = some 2 := by
    decide +kernel
  obtain ⟨d, hrun, htwo⟩ := Runs.exists_of_toOption_map hresponses
  refine ⟨d, hrun, htwo,
    statistics_conserved (fun _ _ => none) .defaults (startupLogger .defaults) exampleLife ?_ hrun⟩
  have hrequest : exampleRequest.length ≤ ntpPacketSize := by decide +kernel
  have hshort : [(0x23 : UInt8)].length ≤ ntpPacketSize := by decide
  simp only [exampleLife, List.forall_mem_cons]
  exact ⟨trivial, hrequest, hrequest, hshort, trivial, fun _ h => nomatch h⟩

end SimpleNtpd
