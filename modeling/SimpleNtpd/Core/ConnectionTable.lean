import SimpleNtpd.Core.Statistics

/-!
# The connection table

`max_connections` is documented as the maximum of concurrent connections, and
`stop` has a step that closes all connections. A datagram from a new address and
port makes a connection without a look at the limit; a connection is made active
and nothing makes it inactive, so a clean-up finds none to erase and the table
only grows. The table is bounded and drained in exactly those runs where every
event finds room (`Step.Room`): a new connection fits below the limit, a reload
does not lower it below the table, and the server is stopped before there are any
connections.
-/

namespace SimpleNtpd

open Cpp

/-! ## Connections stay active -/

/-- No method call makes a connection inactive. -/
theorem NtpConnection.handlePacket_active (evp : Evp) (conn : NtpConnection) (c : NtpConfig)
    (now : SteadyTime) (data : Bytes) :
    (conn.handlePacket evp c now data).2.active = conn.active := by
  cases hactive : conn.active with
  | false => rw [handlePacket_of_inactive hactive, hactive]
  | true =>
    cases hrequest : clientRequest data with
    | none => rw [handlePacket_of_none hrequest, hactive]
    | some packet =>
      have hlimit : (conn.applyLimiter c now).2.active = conn.active := by
        unfold applyLimiter
        split <;> rfl
      rw [handlePacket_of_request hactive hrequest]
      split
      · exact hlimit.trans hactive
      · exact hlimit.trans hactive

namespace NtpServer

variable {s s' : NtpServer}

/-- Every connection of the table is active. -/
def AllActive (s : NtpServer) : Prop := ∀ entry ∈ s.activeConnections.entries, entry.2.active = true

/-- Where all connections are active, a clean-up erases nothing. -/
theorem AllActive.cleanupConnections (h : s.AllActive) : s.cleanupConnections = s := by
  have hnone : s.activeConnections.entries.filter (fun entry => !entry.2.active) = [] := by
    rw [List.filter_eq_nil_iff]
    rintro entry hentry hinactive
    rw [h entry hentry] at hinactive
    cases hinactive
  unfold NtpServer.cleanupConnections
  rw [hnone]
  rfl

theorem AllActive.of_eq (h : s.AllActive) (heq : s'.activeConnections = s.activeConnections) :
    s'.AllActive := by
  unfold AllActive
  rw [heq]
  exact h

/-- A new connection is active. -/
theorem AllActive.getOrCreateConnection (h : s.AllActive) {clientIp : Str} {clientPort : UInt16}
    (hmade : s.getOrCreateConnection clientIp clientPort = .ok s') : s'.AllActive := by
  rcases getOrCreateConnection_cases hmade with ⟨rfl, -⟩ | ⟨-, trusted, -, rfl⟩
  · exact h
  · exact Tables.forall_insert h rfl

theorem AllActive.handleOn (h : s.AllActive) (pick : NtpServer → NtpConnection → NtpConfig)
    (evp : Evp) (clientKey : Str) (now : SteadyTime) (data : Bytes) :
    (s.handleOn pick evp clientKey now data).2.AllActive := by
  unfold NtpServer.handleOn onConnection
  cases hlookup : s.activeConnections.lookup clientKey with
  | none => exact h
  | some conn =>
    refine Tables.forall_insert h ?_
    show (conn.handlePacket evp (pick s conn) now data).2.active = true
    rw [NtpConnection.handlePacket_active]
    exact h ⟨clientKey, conn⟩ (AList.mem_lookup_iff.mp hlookup)

/-- A datagram leaves every connection active. -/
theorem AllActive.processPacketWith (h : s.AllActive)
    {pick : NtpServer → NtpConnection → NtpConfig} {evp : Evp} {data : Bytes} {client : SockAddr}
    {env : PacketEnv} {p : Processed} (hp : s.processPacketWith pick evp data client env = .ok p) :
    p.server.AllActive := by
  rcases processPacketWith_stages hp with
    ⟨-, t, verdict, hbuckets, -, rfl⟩ | ⟨-, t, u, hbuckets, hconn, rfl⟩
  all_goals
    have ht : t.AllActive := by
      obtain ⟨rate, second, rfl⟩ := hbuckets
      exact h
  · exact ht
  · exact ((ht.getOrCreateConnection hconn).handleOn pick evp _ _ _).of_eq
      (finishPacket_books _ env length_of_handleOn).2

end NtpServer

/-! ## Lives -/

namespace Daemon

open NtpServer

/-- The table is within the limit of the configuration in force. -/
def Bounded (d : Daemon) : Prop :=
  (d.server.getActiveConnectionCount : Int) ≤ d.currentConfig.maxConnections

instance decidableBounded (d : Daemon) : Decidable d.Bounded := Int.decLe _ _

/-- The table is empty, and so the statistics say. -/
def Drained (d : Daemon) : Prop :=
  d.server.getActiveConnectionCount = 0 ∧ d.server.stats.activeConnections = 0

/-- In every state of the life the table is bounded, and it is drained whenever
`stop` has returned. -/
def BoundedAndDrained (evp : Evp) (d : Daemon) (events : List Step) : Prop :=
  d.Bounded ∧
    Runs.EveryStep (step evp) (fun _ e t => t.Bounded ∧ (e = .stop → t.Drained)) d events

/-- The event finds room. -/
def Step.Room (d : Daemon) : Step → Prop
  | .serve (.packet _ client env) => d.server.opensConnection client env = true →
      (d.server.getActiveConnectionCount : Int) < d.currentConfig.maxConnections
  | .serve (.reload getenv file) => ∀ content, file = some content →
      d.currentConfig.lastConfigFile ≠ [] → (reloaded d.server getenv content).validate = true →
      (d.server.getActiveConnectionCount : Int) ≤ (reloaded d.server getenv content).maxConnections
  | .stop => d.server.getActiveConnectionCount = 0
  | _ => True

variable {evp : Evp} {d d' : Daemon}

/-- One event leaves every connection active. -/
theorem allActive_step {e : Step} (h : d.server.AllActive) (hstep : d.step evp e = .ok d') :
    d'.server.AllActive := by
  cases e with
  | start env =>
    cases hstep
    rcases d.start_cases env with hstay | ⟨-, -, -, hstart⟩
    · rw [hstay]
      exact h
    · rw [hstart]
      obtain ⟨healthy, sync, ref, heq⟩ := startUpstreams_eq d.server
      dsimp only
      rw [heq]
      exact h
  | serve e =>
    obtain ⟨s, out, hserve, rfl⟩ := step_serve hstep
    cases e with
    | packet data client env =>
      obtain ⟨p, hp, rfl, -⟩ := stepWith_packet hserve
      exact h.processPacketWith hp
    | sync world now =>
      cases hserve
      exact h
    | reload getenv file =>
      cases hserve
      rcases reloadConfig_cases d.server getenv file with hstay | ⟨content, -, -, -, hreload⟩
      · rw [hstay]
        exact h
      · rw [hreload]
        exact h
    | cleanup =>
      cases hserve
      show d.server.cleanupConnections.AllActive
      rw [h.cleanupConnections]
      exact h
  | stop =>
    cases hstep
    unfold stop
    split
    · exact h
    · have hactive : ({ d.server with upstreamSync := none } : NtpServer).AllActive := h
      show NtpServer.AllActive (NtpServer.cleanupConnections _)
      rw [hactive.cleanupConnections]
      exact hactive

/-- A stop leaves the table as it is. -/
theorem stop_count (h : d.server.AllActive) :
    d.stop.server.getActiveConnectionCount = d.server.getActiveConnectionCount := by
  unfold stop
  split
  · rfl
  · have hactive : ({ d.server with upstreamSync := none } : NtpServer).AllActive := h
    show NtpServer.getActiveConnectionCount (NtpServer.cleanupConnections _) = _
    rw [hactive.cleanupConnections]
    rfl

/-- The states of a life in which the table is bounded. -/
structure TableInvariant (d : Daemon) : Prop where
  allActive : d.server.AllActive
  tabled : d.server.Tabled
  bounded : d.Bounded

/-- **One event keeps the table bounded, and drains it if it is a stop, exactly
when it finds room.** -/
theorem room_iff {e : Step} (h : d.TableInvariant) (hstep : d.step evp e = .ok d') :
    (d'.Bounded ∧ (e = .stop → d'.Drained)) ↔ e.Room d := by
  have hbounded := h.bounded
  unfold Bounded at hbounded
  cases e with
  | start env =>
    refine iff_of_true ⟨?_, fun h => nomatch h⟩ trivial
    cases hstep
    rcases d.start_cases env with hstay | ⟨-, -, -, hstart⟩
    · rw [hstay]
      exact h.bounded
    · rw [hstart]
      show ((startUpstreams d.server).getActiveConnectionCount : Int)
        ≤ (startUpstreams d.server).currentConfig.maxConnections
      obtain ⟨healthy, sync, ref, heq⟩ := startUpstreams_eq d.server
      rw [startUpstreams_currentConfig, heq]
      exact h.bounded
  | serve e =>
    obtain ⟨s, out, hserve, rfl⟩ := step_serve hstep
    rw [and_iff_left (fun h => nomatch h)]
    unfold Bounded currentConfig
    dsimp only
    cases e with
    | packet data client env =>
      obtain ⟨p, hp, rfl, -⟩ := stepWith_packet hserve
      -- a datagram may raise the stratum, but not the limit
      have hmax : p.server.currentConfig.maxConnections = d.currentConfig.maxConnections := by
        rcases stepWith_currentConfig hserve with hsame | ⟨-, hraise⟩ | ⟨_, _, hreload, -⟩
        · rw [hsame]
          rfl
        · rw [hraise]
          rfl
        · cases hreload
      rw [(processPacketWith_books hp).2, hmax]
      show _ ↔ (d.server.opensConnection client env = true → _)
      cases d.server.opensConnection client env with
      | false => exact iff_of_true hbounded fun h => nomatch h
      | true =>
        rw [forall_prop_of_true rfl]
        show ((d.server.getActiveConnectionCount + 1 : Nat) : Int) ≤ _ ↔ _
        rw [Nat.cast_succ, Int.add_one_le_iff]
    | sync world now =>
      cases hserve
      exact iff_of_true hbounded trivial
    | reload getenv file =>
      cases hserve
      rcases reloadConfig_cases d.server getenv file with hstay | ⟨content, rfl, hpath, hvalid, hreload⟩
      · -- the reload is refused, so its condition has no case
        rw [hstay]
        refine iff_of_true hbounded ?_
        rintro content rfl hpath hvalid
        rw [reloadConfig_of_valid hpath hvalid] at hstay
        cases hstay
      · rw [hreload]
        show (d.server.getActiveConnectionCount : Int)
          ≤ (putInForce d.server _).currentConfig.maxConnections ↔ _
        rw [putInForce_currentConfig]
        constructor
        · rintro hle content' heq - -
          cases heq
          exact hle
        · exact fun hroom => hroom content rfl hpath hvalid
    | cleanup =>
      cases hserve
      show ((d.server.cleanupConnections.getActiveConnectionCount : Int)
        ≤ d.server.cleanupConnections.currentConfig.maxConnections) ↔ True
      rw [h.allActive.cleanupConnections]
      exact iff_of_true hbounded trivial
  | stop =>
    -- nothing is erased, so the table has to be empty before
    have htabled := tabled_step h.tabled hstep
    cases hstep
    unfold Bounded Drained
    rw [stop_currentConfig, htabled.active, stop_count h.allActive]
    rw [and_self, forall_prop_of_true rfl]
    show _ ∧ _ ↔ d.server.getActiveConnectionCount = 0
    exact and_iff_right hbounded

/-- What a bounded step leads to is again such a state. -/
theorem TableInvariant.step {e : Step} (h : d.TableInvariant) (hstep : d.step evp e = .ok d')
    (hbounded : d'.Bounded) : d'.TableInvariant :=
  ⟨allActive_step h.allActive hstep, tabled_step h.tabled hstep, hbounded⟩

end Daemon

open Daemon

/-- **When the connection table is bounded and drained.** In every life of a
server: the table is within `max_connections` in every state and empty after
every stop exactly when every event finds room where it is met. -/
theorem table_bounded_iff (evp : Evp) (c : NtpConfig) (logger : LoggerSettings)
    (events : List Step) :
    (create c logger).BoundedAndDrained evp events ↔
      0 ≤ c.maxConnections ∧
        Runs.EveryStep (step evp) (fun d e _ => e.Room d) (create c logger) events := by
  show 0 ≤ c.maxConnections ∧ _ ↔ _
  refine and_congr_right fun hmax => ?_
  have hinit : (create c logger).TableInvariant :=
    ⟨fun entry hentry => (List.not_mem_nil hentry).elim, ⟨rfl, Nat.le_refl 0⟩, hmax⟩
  refine Runs.everyStep_iff ?_ ?_ hinit events
  · exact fun h hstep => room_iff h hstep
  · exact fun h hstep hnext => h.step hstep hnext.1

/-- The defaults with room for one connection. -/
def oneConnection : NtpConfig := { NtpConfig.defaults with maxConnections := 1 }

/-- Two requests from different ports of one host. -/
def twoPorts : List Step :=
  [.start ⟨true, true⟩, .serve (.packet exampleRequest exampleClient exampleEnv),
    .serve (.packet exampleRequest { exampleClient with port := 40001 } exampleEnv)]

/-- The second request makes a second connection, and both are in the table after
the stop. -/
theorem connections_pile_up :
    (¬ ∀ evp c logger events d, c.validate = true → (create c logger).run evp events = .ok d →
      d.Bounded) ∧
    ¬ ∀ evp c logger events d, c.validate = true →
      (create c logger).run evp (events ++ [.stop]) = .ok d → d.Drained := by
  have hvalid : oneConnection.validate = true := by decide +kernel
  constructor
  · intro h
    have hcount : (((create oneConnection (startupLogger oneConnection)).run (fun _ _ => none)
        twoPorts).map (fun d => decide d.Bounded)).toOption = some false := by
      decide +kernel
    obtain ⟨d, hrun, hfalse⟩ := Runs.exists_of_toOption_map hcount
    exact of_decide_eq_false hfalse (h _ _ _ _ d hvalid hrun)
  · intro h
    have hcount : (((create oneConnection (startupLogger oneConnection)).run (fun _ _ => none)
        (twoPorts ++ [.stop])).map
          (fun d => d.server.getActiveConnectionCount)).toOption = some 2 := by
      decide +kernel
    obtain ⟨d, hrun, htwo⟩ := Runs.exists_of_toOption_map hcount
    have hzero := (h _ _ _ _ d hvalid hrun).1
    rw [htwo] at hzero
    cases hzero

end SimpleNtpd
