import SimpleNtpd.Core.ConnectionTable

/-!
# The counters of the connections

`handlePacket` counts the datagrams it accepts and their bytes in the connection, and
`processPacket` counts the answers in the server, behind the `sendto` that may fail
(connection.cpp:137–138, server.cpp:512–530). No connection is ever erased, so the two
sets of books cover the same datagrams: what all connections have received is what was
answered and what could not be sent (`connections_agree`).
-/

namespace SimpleNtpd

open Cpp

/-- What the connections of a table have received. -/
def packetsReceived (table : AList fun _ : Str => NtpConnection) : Nat :=
  Tables.total (fun e => e.2.stats.packetsReceived) table

/-! ## One datagram -/

/-- A datagram that is accepted is counted, with its bytes, and no other. -/
theorem NtpConnection.handlePacket_stats (evp : Evp) (conn : NtpConnection) (c : NtpConfig)
    (now : SteadyTime) (data : Bytes) :
    (conn.handlePacket evp c now data).2.stats =
      if (conn.handlePacket evp c now data).1 then
        ⟨conn.stats.packetsReceived + 1, conn.stats.bytesReceived + data.length⟩
      else conn.stats := by
  cases hactive : conn.active with
  | false =>
    rw [handlePacket_of_inactive hactive]
    rfl
  | true =>
    cases hrequest : clientRequest data with
    | none =>
      rw [handlePacket_of_none hrequest]
      rfl
    | some packet =>
      have hlimit : (conn.applyLimiter c now).2.stats = conn.stats := by
        unfold applyLimiter
        split <;> rfl
      rw [handlePacket_of_request hactive hrequest]
      split
      · rename_i haccepted
        simp [recordPacket, hlimit]
      · simp [hlimit]

namespace NtpServer

variable {s s' : NtpServer}

/-- A method call counts what it accepts. -/
theorem handleOn_packets (pick : NtpServer → NtpConnection → NtpConfig) (evp : Evp)
    (s : NtpServer) (clientKey : Str) (now : SteadyTime) (data : Bytes) :
    packetsReceived (s.handleOn pick evp clientKey now data).2.activeConnections
      = packetsReceived s.activeConnections
        + (s.handleOn pick evp clientKey now data).1.toNat := by
  unfold handleOn onConnection
  cases hlookup : s.activeConnections.lookup clientKey with
  | none => rfl
  | some conn =>
    have hstats := conn.handlePacket_stats evp (pick s conn) now data
    have htotal := Tables.total_insert_of_lookup (fun e => e.2.stats.packetsReceived)
      (b := (conn.handlePacket evp (pick s conn) now data).2) hlookup
    show Tables.total _ (s.activeConnections.insert clientKey
        (conn.handlePacket evp (pick s conn) now data).2)
      = Tables.total _ s.activeConnections + (conn.handlePacket evp (pick s conn) now data).1.toNat
    dsimp only at htotal
    rw [hstats] at htotal
    cases haccepted : (conn.handlePacket evp (pick s conn) now data).1 with
    | false =>
      rw [haccepted, if_neg Bool.false_ne_true] at htotal
      exact Nat.add_right_cancel htotal
    | true =>
      rw [haccepted, if_pos rfl] at htotal
      dsimp only at htotal
      rw [Bool.toNat_true]
      omega

/-- A new connection has received nothing. -/
theorem getOrCreateConnection_packets {clientIp : Str} {clientPort : UInt16}
    (h : s.getOrCreateConnection clientIp clientPort = .ok s') :
    packetsReceived s'.activeConnections = packetsReceived s.activeConnections := by
  rcases getOrCreateConnection_cases h with ⟨rfl, -⟩ | ⟨hnone, trusted, -, rfl⟩
  · rfl
  · rw [packetsReceived, Tables.total_insert_of_notMem _ (AList.lookup_eq_none.mp hnone)]
    exact Nat.zero_add _

/-- What is accepted is answered or cannot be sent. -/
theorem finishPacket_counts (s : NtpServer) {accepted : Bool} {data : Bytes} (env : PacketEnv)
    (h : accepted = true → ntpPacketSize ≤ data.length) :
    (s.finishPacket accepted data env).server.stats.totalRequests
      = s.stats.totalRequests + (accepted && env.sendOk).toNat ∧
    (s.finishPacket accepted data env).server.stats.totalErrors
      = s.stats.totalErrors + (!(accepted && env.sendOk)).toNat := by
  unfold finishPacket
  cases accepted with
  | false => exact ⟨rfl, rfl⟩
  | true =>
    rw [if_pos rfl, NtpPacket.parseFromData_of_le _ (h rfl)]
    dsimp only
    have hbuild := (s.buildReply_books (NtpPacket.decode data) env).1
    generalize s.buildReply (NtpPacket.decode data) env = built at hbuild
    obtain ⟨reply, selected, t⟩ := built
    dsimp only at hbuild ⊢
    rw [← hbuild]
    cases env.sendOk with
    | true => exact ⟨rfl, rfl⟩
    | false =>
      have hfail := (t.recordSendFailure_books selected).1
      show (t.recordSendFailure selected).stats.totalRequests = _ ∧
        (t.recordSendFailure selected).stats.totalErrors = _
      rw [hfail]
      exact ⟨rfl, rfl⟩

/-- **What a datagram does to both sets of books**: it is accepted and answered, accepted
and not sent, or an error of the server alone. -/
theorem processPacketWith_packets {pick : NtpServer → NtpConnection → NtpConfig} {evp : Evp}
    {data : Bytes} {client : SockAddr} {env : PacketEnv} {p : Processed}
    (h : s.processPacketWith pick evp data client env = .ok p) :
    ∃ accepted : Bool,
      packetsReceived p.server.activeConnections
        = packetsReceived s.activeConnections + accepted.toNat ∧
      p.server.stats.totalRequests = s.stats.totalRequests + (accepted && env.sendOk).toNat ∧
      p.server.stats.totalErrors = s.stats.totalErrors + (!(accepted && env.sendOk)).toNat := by
  rcases processPacketWith_stages h with
    ⟨-, t, verdict, ⟨rate, second, rfl⟩, -, rfl⟩ | ⟨-, t, u, ⟨rate, second, rfl⟩, hconn, rfl⟩
  · exact ⟨false, rfl, rfl, rfl⟩
  · have hmade := getOrCreateConnection_packets hconn
    have hstats := (getOrCreateConnection_books hconn).1
    have hcounted := u.handleOn_packets pick evp (connectionKey (inetNtop client.ip) client.port)
      env.requestTime data
    have hsame := (u.handleOn_books pick evp (connectionKey (inetNtop client.ip) client.port)
      env.requestTime data).1
    have hlen : (u.handleOn pick evp (connectionKey (inetNtop client.ip) client.port)
        env.requestTime data).1 = true → ntpPacketSize ≤ data.length := length_of_handleOn
    generalize u.handleOn pick evp (connectionKey (inetNtop client.ip) client.port)
      env.requestTime data = handled at hcounted hsame hlen ⊢
    obtain ⟨accepted, v⟩ := handled
    dsimp only at hcounted hsame hlen ⊢
    have hbooks := (v.finishPacket_books env hlen).2
    obtain ⟨hrequests, herrors⟩ := v.finishPacket_counts env hlen
    refine ⟨accepted, ?_, ?_, ?_⟩
    · rw [hbooks, hcounted, hmade]
    · rw [hrequests, hsame, hstats]
      split <;> rfl
    · rw [herrors, hsame, hstats]
      split <;> rfl

/-- Every connection has counted 48 bytes for each packet. -/
def AllMetered (s : NtpServer) : Prop :=
  ∀ entry ∈ s.activeConnections.entries,
    entry.2.stats.bytesReceived = ntpPacketSize * entry.2.stats.packetsReceived

/-- What is accepted of a datagram that fits the buffer has 48 bytes. -/
theorem AllMetered.handleOn (h : s.AllMetered) (pick : NtpServer → NtpConnection → NtpConfig)
    (evp : Evp) (clientKey : Str) (now : SteadyTime) {data : Bytes}
    (hfits : data.length ≤ ntpPacketSize) :
    (s.handleOn pick evp clientKey now data).2.AllMetered := by
  have hlen : (s.handleOn pick evp clientKey now data).1 = true → ntpPacketSize ≤ data.length :=
    length_of_handleOn
  unfold NtpServer.handleOn onConnection at hlen ⊢
  cases hlookup : s.activeConnections.lookup clientKey with
  | none => exact h
  | some conn =>
    have hmetered : conn.stats.bytesReceived = ntpPacketSize * conn.stats.packetsReceived :=
      h ⟨clientKey, conn⟩ (AList.mem_lookup_iff.mp hlookup)
    rw [hlookup] at hlen
    refine Tables.forall_insert h ?_
    show (conn.handlePacket evp (pick s conn) now data).2.stats.bytesReceived
      = ntpPacketSize * (conn.handlePacket evp (pick s conn) now data).2.stats.packetsReceived
    rw [NtpConnection.handlePacket_stats]
    split
    · rename_i haccepted
      rw [Nat.le_antisymm hfits (hlen haccepted), hmetered]
      rfl
    · exact hmetered

theorem AllMetered.processPacketWith (h : s.AllMetered)
    {pick : NtpServer → NtpConnection → NtpConfig} {evp : Evp} {data : Bytes} {client : SockAddr}
    {env : PacketEnv} {p : Processed} (hp : s.processPacketWith pick evp data client env = .ok p)
    (hfits : data.length ≤ ntpPacketSize) : p.server.AllMetered := by
  rcases processPacketWith_stages hp with
    ⟨-, t, verdict, ⟨rate, second, rfl⟩, -, rfl⟩ | ⟨-, t, u, ⟨rate, second, rfl⟩, hconn, rfl⟩
  · exact h
  · have hmade : u.AllMetered := by
      rcases getOrCreateConnection_cases hconn with ⟨rfl, -⟩ | ⟨-, trusted, -, rfl⟩
      · exact h
      · exact Tables.forall_insert h rfl
    have hhandled := hmade.handleOn pick evp
      (connectionKey (inetNtop client.ip) client.port) env.requestTime hfits
    unfold AllMetered at hhandled ⊢
    rw [(finishPacket_books _ env length_of_handleOn).2]
    exact hhandled

end NtpServer

/-! ## Lives -/

namespace Daemon

open NtpServer

/-- A datagram whose answer could not be sent. -/
def Step.sendFails : Step → Bool
  | .serve (.packet _ _ env) => !env.sendOk
  | _ => false

variable {evp : Evp} {d d' : Daemon}

/-- The two sets of books cover the same datagrams, up to those that were not sent. -/
structure BooksAgree (failures : Nat) (d : Daemon) : Prop where
  active : d.server.AllActive
  answered : d.server.stats.totalRequests ≤ packetsReceived d.server.activeConnections
  unsent : packetsReceived d.server.activeConnections ≤ d.server.stats.totalRequests + failures
  errors : packetsReceived d.server.activeConnections
    ≤ d.server.stats.totalRequests + d.server.stats.totalErrors

theorem BooksAgree.create (c : NtpConfig) (logger : LoggerSettings) :
    BooksAgree 0 (create c logger) where
  active := nofun
  answered := Nat.le_refl 0
  unsent := Nat.le_refl 0
  errors := Nat.le_refl 0

/-- An event without a datagram leaves both sets of books. -/
theorem BooksAgree.of_eq {n : Nat} (h : BooksAgree n d) (hactive : d'.server.AllActive)
    (hrequests : d'.server.stats.totalRequests = d.server.stats.totalRequests)
    (herrors : d'.server.stats.totalErrors = d.server.stats.totalErrors)
    (htable : d'.server.activeConnections = d.server.activeConnections) : BooksAgree n d' := by
  refine ⟨hactive, ?_, ?_, ?_⟩ <;> rw [htable, hrequests]
  · exact h.answered
  · exact h.unsent
  · rw [herrors]
    exact h.errors

/-- **One event.** -/
theorem BooksAgree.step {n : Nat} {e : Step} (h : BooksAgree n d) (hstep : d.step evp e = .ok d') :
    BooksAgree (n + e.sendFails.toNat) d' := by
  have hactive := allActive_step h.active hstep
  cases e with
  | start env =>
    cases hstep
    rcases d.start_cases env with heq | ⟨-, -, -, heq⟩
    · rw [heq] at hactive ⊢
      exact h
    · rw [heq] at hactive ⊢
      refine h.of_eq hactive ?_ ?_ ?_ <;> (unfold startUpstreams; dsimp only; split <;> rfl)
  | serve e =>
    obtain ⟨s, out, hserve, rfl⟩ := step_serve hstep
    cases e with
    | packet data client env =>
      obtain ⟨p, hp, rfl, -⟩ := stepWith_packet hserve
      obtain ⟨accepted, hpackets, hrequests, herrors⟩ := processPacketWith_packets hp
      have hcases : ∀ a ok : Bool, (a && ok).toNat ≤ a.toNat ∧
          a.toNat ≤ (a && ok).toNat + (!ok).toNat ∧
          a.toNat ≤ (a && ok).toNat + (!(a && ok)).toNat := by decide
      obtain ⟨hsome, hfailed, hcounted⟩ := hcases accepted env.sendOk
      refine ⟨hactive, ?_, ?_, ?_⟩ <;> dsimp only <;> rw [hpackets, hrequests]
      · exact Nat.add_le_add h.answered hsome
      · have hunsent := h.unsent
        show _ ≤ _ + (n + (!env.sendOk).toNat)
        omega
      · have herrors' := h.errors
        rw [herrors]
        omega
    | sync world now =>
      cases hserve
      exact h.of_eq hactive rfl rfl rfl
    | reload getenv file =>
      cases hserve
      rcases reloadConfig_cases d.server getenv file with hstay | ⟨content, -, -, -, hreload⟩
      · rw [hstay] at hactive ⊢
        exact h.of_eq hactive rfl rfl rfl
      · rw [hreload] at hactive ⊢
        exact h.of_eq hactive rfl rfl rfl
    | cleanup =>
      cases hserve
      refine h.of_eq hactive ?_ ?_ ?_ <;>
        (show _ = _; simp only [h.active.cleanupConnections])
  | stop =>
    cases hstep
    unfold stop at hactive ⊢
    split
    · exact h
    · have hall : ({ d.server with upstreamSync := none } : NtpServer).AllActive := h.active
      rw [if_neg ‹_›] at hactive
      refine h.of_eq hactive ?_ ?_ ?_ <;> simp only [hall.cleanupConnections]

/-- A run; induction on the events, each of which fails to send one answer or none. -/
theorem BooksAgree.run {n : Nat} {events : List Step} (h : BooksAgree n d)
    (hrun : d.run evp events = .ok d') : BooksAgree (n + events.countP Step.sendFails) d' := by
  induction events generalizing n d with
  | nil =>
    cases hrun
    exact h
  | cons e events ih =>
    obtain ⟨t, hstep, hrest⟩ := Components.foldlM_cons_iff.mp hrun
    have hnext := ih (h.step hstep) hrest
    have hcount : (e :: events).countP Step.sendFails
        = e.sendFails.toNat + events.countP Step.sendFails := by
      rw [List.countP_cons, Nat.add_comm]
      cases e.sendFails <;> rfl
    rw [hcount, ← Nat.add_assoc]
    exact hnext

/-- One event keeps the bytes of the connections. -/
theorem allMetered_step {e : Step} (hactive : d.server.AllActive) (h : d.server.AllMetered)
    (hfits : e.FitsBuffer) (hstep : d.step evp e = .ok d') : d'.server.AllMetered := by
  cases e with
  | start env =>
    cases hstep
    rcases d.start_cases env with heq | ⟨-, -, -, heq⟩
    · rw [heq]
      exact h
    · rw [heq]
      obtain ⟨healthy, sync, ref, hupstreams⟩ := startUpstreams_eq d.server
      dsimp only
      rw [hupstreams]
      exact h
  | serve e =>
    obtain ⟨s, out, hserve, rfl⟩ := step_serve hstep
    cases e with
    | packet data client env =>
      obtain ⟨p, hp, rfl, -⟩ := stepWith_packet hserve
      exact h.processPacketWith hp hfits
    | sync world now =>
      cases hserve
      exact h
    | reload getenv file =>
      cases hserve
      rcases reloadConfig_cases d.server getenv file with hstay | ⟨content, -, -, -, hreload⟩
      · rw [hstay]
        exact h
      · rw [hreload]
        exact h
    | cleanup =>
      cases hserve
      show d.server.cleanupConnections.AllMetered
      rw [hactive.cleanupConnections]
      exact h
  | stop =>
    cases hstep
    unfold stop
    split
    · exact h
    · have hall : ({ d.server with upstreamSync := none } : NtpServer).AllActive := hactive
      show NtpServer.AllMetered (NtpServer.cleanupConnections _)
      rw [hall.cleanupConnections]
      exact h

theorem allMetered_run {events : List Step} (hactive : d.server.AllActive)
    (h : d.server.AllMetered) (hfits : ∀ e ∈ events, e.FitsBuffer)
    (hrun : d.run evp events = .ok d') : d'.server.AllMetered := by
  have hboth : d'.server.AllActive ∧ d'.server.AllMetered :=
    Runs.foldlM_invariant (I := fun t => t.server.AllActive ∧ t.server.AllMetered)
      (fun e he t t' ht hstep =>
        ⟨allActive_step ht.1 hstep, allMetered_step ht.1 ht.2 (hfits e he) hstep⟩)
      ⟨hactive, h⟩ hrun
  exact hboth.2

end Daemon

open Daemon

/-- **The books of the connections and those of the server agree.** After any life, the
connections have received what the server has answered, and at most the answers that could
not be sent and the errors more; with datagrams that fit the buffer, each connection has
counted 48 bytes for each packet. -/
theorem connections_agree (evp : Evp) (c : NtpConfig) (logger : LoggerSettings)
    (events : List Step) {d : Daemon} (hrun : (create c logger).run evp events = .ok d) :
    d.server.stats.totalRequests ≤ packetsReceived d.server.activeConnections ∧
    packetsReceived d.server.activeConnections
      ≤ d.server.stats.totalRequests + events.countP Step.sendFails ∧
    packetsReceived d.server.activeConnections
      ≤ d.server.stats.totalRequests + d.server.stats.totalErrors ∧
    ((∀ e ∈ events, e.FitsBuffer) → d.server.AllMetered) := by
  have hcreated := BooksAgree.create c logger
  have hbooks := hcreated.run hrun
  rw [Nat.zero_add] at hbooks
  refine ⟨hbooks.answered, hbooks.unsent, hbooks.errors, fun hfits => ?_⟩
  exact allMetered_run hcreated.active (fun _ hentry => nomatch hentry) hfits hrun

/-- One connection, two packets. -/
theorem connections_agree_example :
    ∃ d, (create .defaults (startupLogger .defaults)).run (fun _ _ => none) exampleLife = .ok d ∧
      packetsReceived d.server.activeConnections = 2 ∧ d.server.stats.totalRequests ≤ 2 ∧
      2 ≤ d.server.stats.totalRequests + exampleLife.countP Step.sendFails ∧
      2 ≤ d.server.stats.totalRequests + d.server.stats.totalErrors ∧ d.server.AllMetered := by
  have hpackets : (((create .defaults (startupLogger .defaults)).run (fun _ _ => none)
      exampleLife).map (fun d => packetsReceived d.server.activeConnections)).toOption
        = some 2 := by
    decide +kernel
  obtain ⟨d, hrun, htwo⟩ := Runs.exists_of_toOption_map hpackets
  obtain ⟨hanswered, hunsent, hbooked, hmetered⟩ := connections_agree (fun _ _ => none) .defaults
    (startupLogger .defaults) exampleLife hrun
  rw [htwo] at hanswered hunsent hbooked
  refine ⟨d, hrun, htwo, hanswered, hunsent, hbooked, hmetered ?_⟩
  have hrequest : exampleRequest.length ≤ ntpPacketSize := by decide +kernel
  have hshort : [(0x23 : UInt8)].length ≤ ntpPacketSize := by decide
  simp only [exampleLife, List.forall_mem_cons]
  exact ⟨trivial, hrequest, hrequest, hshort, trivial, by simp⟩

end SimpleNtpd
