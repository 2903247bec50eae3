import SimpleNtpd.Core.Authentication
import SimpleNtpd.Core.WellFormedReplies

/-!
# The scope of a reload

A reload makes a new configuration object and points the server to it. The
access lists and the connection limiter read it from then on; a connection made
before keeps reading the object it was made with, for the request limiter and
for authentication.

The server one would expect is the same program with `governed` in the place of
`captured`: a connection's method reads the configuration in force. The two
agree on a datagram when the client has no connection yet, or the object its
connection points to has the rules of the current one, or the datagram does not
reach the connection (`InForce`), and `reload_governs` shows that runs whose
datagrams all arrive like that are runs of the expected server.
-/

namespace SimpleNtpd

open Cpp

/-! ## Rules -/

/-- The settings a connection's method reads agree: the request limiter, and
whether and how a request is authenticated. -/
structure SameRules (c c' : NtpConfig) : Prop where
  enableRateLimiting : c.enableRateLimiting = c'.enableRateLimiting
  requestRateLimit : c'.enableRateLimiting = true →
    c.requestRateLimitPerMinute = c'.requestRateLimitPerMinute
  enableAuthentication : c.enableAuthentication = c'.enableAuthentication
  keyMaterial : c'.enableAuthentication = true → keyMaterial c = keyMaterial c'
  digest : c'.enableAuthentication = true →
    c.authenticationAlgorithm.digest = c'.authenticationAlgorithm.digest

theorem SameRules.refl (c : NtpConfig) : SameRules c c :=
  ⟨rfl, fun _ => rfl, rfl, fun _ => rfl, fun _ => rfl⟩

/-- The stratum is not one of the rules. -/
theorem SameRules.of_stratum (c : NtpConfig) (stratum : UInt8) :
    SameRules { c with stratum := stratum } c :=
  ⟨rfl, fun _ => rfl, rfl, fun _ => rfl, fun _ => rfl⟩

/-- Under the same rules the tag is judged the same. -/
theorem SameRules.validateAuthentication {c c' : NtpConfig} (h : SameRules c c') (evp : Evp)
    (packet : NtpPacket) (data : Bytes) :
    validateAuthentication evp c packet data = validateAuthentication evp c' packet data := by
  unfold SimpleNtpd.validateAuthentication
  rw [h.enableAuthentication]
  cases hauth : c'.enableAuthentication with
  | false => rfl
  | true => rw [h.keyMaterial hauth, h.digest hauth]

/-- Under the same rules a connection does the same. -/
theorem SameRules.handlePacket {c c' : NtpConfig} (h : SameRules c c') (evp : Evp)
    (conn : NtpConnection) (now : SteadyTime) (data : Bytes) :
    conn.handlePacket evp c now data = conn.handlePacket evp c' now data := by
  have hlimit : conn.applyLimiter c now = conn.applyLimiter c' now := by
    unfold NtpConnection.applyLimiter
    rw [h.enableRateLimiting]
    cases hrate : c'.enableRateLimiting with
    | false => rfl
    | true => rw [h.requestRateLimit hrate]
  cases hactive : conn.active with
  | false =>
    rw [NtpConnection.handlePacket_of_inactive hactive,
      NtpConnection.handlePacket_of_inactive hactive]
  | true =>
    cases hrequest : clientRequest data with
    | none =>
      rw [NtpConnection.handlePacket_of_none hrequest,
        NtpConnection.handlePacket_of_none hrequest]
    | some packet =>
      rw [NtpConnection.handlePacket_of_request hactive hrequest,
        NtpConnection.handlePacket_of_request hactive hrequest, hlimit,
        h.validateAuthentication evp packet data]

/-! ## One datagram -/

namespace NtpServer

/-- A connection's method reads the configuration in force. -/
def governed (s : NtpServer) (_ : NtpConnection) : NtpConfig := s.currentConfig

/-- One of the checks in front of the connection drops the datagram. -/
def DroppedEarly (s : NtpServer) (client : SockAddr) (env : PacketEnv) : Prop :=
  let rate := s.isRateLimitExceeded (inetNtop client.ip) env.rateTime
  let ddos := rate.2.isDdosAnomaly (inetNtop client.ip) env.ddosTime
  isClientAllowed s.currentConfig (inetNtop client.ip) = .ok false ∨ rate.1 = true ∨
    ddos.1 = true ∧ ddos.2.currentConfig.enableGracefulDegradation = true

/-- The client has no connection yet, its connection points to a configuration
with the rules of the current one, or the datagram is no client's request or
dropped before. -/
def InForce (s : NtpServer) (data : Bytes) (client : SockAddr) (env : PacketEnv) : Prop :=
  clientRequest data = none ∨ s.DroppedEarly client env ∨
    ∀ conn, s.activeConnections.lookup (connectionKey (inetNtop client.ip) client.port) = some conn →
      SameRules (s.captured conn) s.currentConfig

/-- Two ways to read the configuration that agree on the connection under a key
make its method do the same. -/
theorem handleOn_congr {p q : NtpServer → NtpConnection → NtpConfig} {evp : Evp} {s : NtpServer}
    {clientKey : Str} {now : SteadyTime} {data : Bytes}
    (h : ∀ conn, s.activeConnections.lookup clientKey = some conn →
      conn.handlePacket evp (p s conn) now data = conn.handlePacket evp (q s conn) now data) :
    s.handleOn p evp clientKey now data = s.handleOn q evp clientKey now data := by
  unfold handleOn onConnection
  cases hlookup : s.activeConnections.lookup clientKey with
  | none => rfl
  | some conn => simp only [h conn hlookup]

/-- Two ways to read the configuration give the same result for a datagram when
they do in every state with these settings and these connections, or the
client's new one. -/
theorem processPacketWith_congr {p q : NtpServer → NtpConnection → NtpConfig} {evp : Evp}
    {s : NtpServer} {data : Bytes} {client : SockAddr} {env : PacketEnv}
    (h : ∀ s' conn, SameSettings s s' →
      (s.activeConnections.lookup (connectionKey (inetNtop client.ip) client.port) = some conn ∨
        conn.config = s.config) →
      conn.handlePacket evp (p s' conn) env.requestTime data
        = conn.handlePacket evp (q s' conn) env.requestTime data) :
    s.processPacketWith p evp data client env = s.processPacketWith q evp data client env := by
  unfold processPacketWith
  dsimp only
  cases isClientAllowed s.currentConfig (inetNtop client.ip) with
  | error e => rfl
  | ok allowed =>
    cases allowed with
    | false => rfl
    | true =>
      have hrate := isRateLimitExceeded_same s (inetNtop client.ip) env.rateTime
      have hrateConn := isRateLimitExceeded_connections s (inetNtop client.ip) env.rateTime
      generalize s.isRateLimitExceeded (inetNtop client.ip) env.rateTime = rate at hrate hrateConn
      obtain ⟨exceeded, s₁⟩ := rate
      have hddos := hrate.trans (isDdosAnomaly_same s₁ (inetNtop client.ip) env.ddosTime)
      have hddosConn := (isDdosAnomaly_connections s₁ (inetNtop client.ip) env.ddosTime).trans
        hrateConn
      dsimp only
      generalize s₁.isDdosAnomaly (inetNtop client.ip) env.ddosTime = ddos at hddos hddosConn
      obtain ⟨anomaly, s₂⟩ := ddos
      dsimp only at hddos hddosConn ⊢
      cases hcreate : s₂.getOrCreateConnection (inetNtop client.ip) client.port with
      | error e => rfl
      | ok s₃ =>
        have hsame := hddos.trans (getOrCreateConnection_same hcreate)
        -- the connection is the one in the table, or the new one
        have hhandle : s₃.handleOn p evp (connectionKey (inetNtop client.ip) client.port)
            env.requestTime data
            = s₃.handleOn q evp (connectionKey (inetNtop client.ip) client.port)
              env.requestTime data := by
          refine handleOn_congr fun conn hconn => h s₃ conn hsame ?_
          rcases getOrCreateConnection_cases hcreate with ⟨rfl, -⟩ | ⟨-, trusted, -, rfl⟩
          · left
            rw [← hddosConn]
            exact hconn
          · right
            dsimp only at hconn
            rw [AList.lookup_insert] at hconn
            rw [← Option.some.inj hconn]
            exact hddos.config
        dsimp only
        rw [hhandle]

/-- A datagram that is dropped early fares the same however connections read the
configuration. -/
theorem DroppedEarly.processPacketWith_eq {s : NtpServer} {client : SockAddr} {env : PacketEnv}
    (h : s.DroppedEarly client env) (p q : NtpServer → NtpConnection → NtpConfig) (evp : Evp)
    (data : Bytes) :
    s.processPacketWith p evp data client env = s.processPacketWith q evp data client env := by
  unfold processPacketWith
  dsimp only
  cases hallowed : isClientAllowed s.currentConfig (inetNtop client.ip) with
  | error e => rfl
  | ok allowed =>
    cases allowed with
    | false => rfl
    | true =>
      dsimp only
      rcases h with hdenied | hlimited | ⟨hanomaly, hdegraded⟩
      · rw [hallowed] at hdenied
        cases hdenied
      · rw [if_pos hlimited, if_pos hlimited]
      · have hdropped := Bool.and_eq_true_iff.mpr ⟨hanomaly, hdegraded⟩
        rw [if_pos hdropped, if_pos hdropped]

/-- In force, a datagram is processed under the current configuration. -/
theorem InForce.processPacket_eq {s : NtpServer} {data : Bytes} {client : SockAddr}
    {env : PacketEnv} (h : s.InForce data client env) (evp : Evp) :
    s.processPacketWith captured evp data client env
      = s.processPacketWith governed evp data client env := by
  rcases h with hnone | hdropped | hrules
  · refine processPacketWith_congr fun s' conn _ _ => ?_
    rw [NtpConnection.handlePacket_of_none hnone, NtpConnection.handlePacket_of_none hnone]
  · exact hdropped.processPacketWith_eq captured governed evp data
  · refine processPacketWith_congr fun s' conn hsame hconn => ?_
    have hcaptured : captured s' conn = s.captured conn := by
      rw [captured, captured, hsame.configs]
    have hgoverned : governed s' conn = s.currentConfig := hsame.currentConfig
    rw [hcaptured, hgoverned]
    rcases hconn with hold | hnew
    · exact (hrules conn hold).handlePacket evp conn _ data
    · rw [captured, hnew]
      rfl

/-! ## Runs -/

/-- Two ways to read the configuration give the same run when they agree on each
event in the state it is met in; induction on the events. -/
theorem runWith_congr {p q : NtpServer → NtpConnection → NtpConfig} {evp : Evp}
    {events : List Event} {s : NtpServer}
    (h : ∀ pre e post, events = pre ++ e :: post → ∀ s' outs, s.runWith p evp pre = .ok (s', outs) →
      s'.stepWith p evp e = s'.stepWith q evp e) :
    s.runWith p evp events = s.runWith q evp events := by
  induction events generalizing s with
  | nil => rfl
  | cons e events ih =>
    have hstep := h [] e events rfl s [] rfl
    rw [runWith, runWith, ← hstep]
    cases hs : s.stepWith p evp e with
    | error exn => rfl
    | ok r =>
      obtain ⟨t, out⟩ := r
      have hrest : t.runWith p evp events = t.runWith q evp events := by
        refine ih ?_
        intro pre e' post heq s' outs hpre
        refine h (e :: pre) e' post (by rw [heq]; rfl) s' (out :: outs) ?_
        rw [runWith, hs]
        simp only [hpre]
      simp only [hrest]

/-- Every datagram of the run is in force where it arrives. -/
def RunInForce (evp : Evp) (s : NtpServer) (events : List Event) : Prop :=
  ∀ pre data client env post, events = pre ++ .packet data client env :: post →
    ∀ s' outs, s.run evp pre = .ok (s', outs) → s'.InForce data client env

/-- A run whose datagrams are in force is a run of the expected server. -/
theorem run_eq_governed {evp : Evp} {s : NtpServer} {events : List Event}
    (h : RunInForce evp s events) : s.run evp events = s.runWith governed evp events := by
  refine runWith_congr ?_
  intro pre e post heq s' outs hpre
  cases e with
  | packet data client env =>
    rw [stepWith, stepWith, (h pre data client env post heq s' outs hpre).processPacket_eq evp]
  | sync world now => rfl
  | reload getenv file => rfl
  | cleanup => rfl

/-! ## Between two reloads -/

end NtpServer

/-- Not a reload. -/
def Event.NoReload : Event → Prop
  | .reload _ _ => False
  | _ => True

namespace NtpServer

/-- No event but a reload changes more than the stratum. -/
theorem RulesOf.step {c : NtpConfig} {pick : NtpServer → NtpConnection → NtpConfig} {evp : Evp}
    {s s' : NtpServer} {e : Event} {out : Option (Verdict × Option Bytes)} (h : RulesOf c s)
    (he : e.NoReload) (hstep : s.stepWith pick evp e = .ok (s', out)) : RulesOf c s' := by
  cases e with
  | packet data client env =>
    obtain ⟨p, hp, rfl, -⟩ := stepWith_packet hstep
    rcases processPacketWith_cases hp with ⟨-, -, hsame⟩ | ⟨t, packet, hsame, -, rfl⟩
    · exact h.of_same hsame
    · exact (h.of_same hsame).finishPacket true data env
  | sync world now =>
    cases hstep
    exact h
  | reload getenv file => exact he.elim
  | cleanup =>
    cases hstep
    exact h.of_same s.cleanupConnections_same

/-- A run without reloads keeps the rules. -/
theorem RulesOf.run {c : NtpConfig} {pick : NtpServer → NtpConnection → NtpConfig} {evp : Evp}
    {s s' : NtpServer} {events : List Event} {outs : List (Option (Verdict × Option Bytes))}
    (h : RulesOf c s) (he : ∀ e ∈ events, e.NoReload)
    (hrun : s.runWith pick evp events = .ok (s', outs)) : RulesOf c s' :=
  runWith_invariant (fun e hmem _ _ _ ht hstep => RulesOf.step ht (he e hmem) hstep) h hrun

/-- Between two reloads the expected server applies one configuration to every
datagram. -/
theorem governed_eq_const {evp : Evp} {c : NtpConfig} {s : NtpServer} {events : List Event}
    (h : RulesOf c s) (he : ∀ e ∈ events, e.NoReload) :
    s.runWith governed evp events = s.runWith (fun _ _ => c) evp events := by
  refine runWith_congr ?_
  intro pre e post heq s' outs hpre
  have hpre' : ∀ e' ∈ pre, e'.NoReload := fun e' he' => he e' (by
    rw [heq]
    exact List.mem_append_left _ he')
  obtain ⟨n, hn⟩ := h.run hpre' hpre
  cases e with
  | packet data client env =>
    have hpacket : s'.processPacketWith governed evp data client env
        = s'.processPacketWith (fun _ _ => c) evp data client env := by
      refine processPacketWith_congr ?_
      intro t conn hsame _
      rw [governed, hsame.currentConfig, hn]
      exact (SameRules.of_stratum c n).handlePacket evp conn _ data
    rw [stepWith, stepWith, hpacket]
  | sync world now => rfl
  | reload getenv file => rfl
  | cleanup => rfl

/-- After a successful reload, until the next one, a run whose datagrams are in
force applies the new configuration to each of them. -/
theorem run_after_reload {evp : Evp} {s : NtpServer} {events : List Event}
    (h : RunInForce evp s events) (he : ∀ e ∈ events, e.NoReload) :
    s.run evp events = s.runWith (fun _ _ => s.currentConfig) evp events := by
  rw [run_eq_governed h]
  exact governed_eq_const (RulesOf.currentConfig s) he

end NtpServer

open NtpServer

/-- **A reload governs what is in force.** A run whose datagrams are all in force
where they arrive is, with its states, verdicts and replies, a run of the server
whose connections read the current configuration; and after a successful reload,
until the next one, that is the new configuration for every datagram. -/
theorem reload_governs (evp : Evp) (s : NtpServer) :
    (∀ events, RunInForce evp s events → s.run evp events = s.runWith governed evp events) ∧
    (∀ getenv file events, (s.reloadConfig getenv file).1 = true → (∀ e ∈ events, e.NoReload) →
      RunInForce evp (s.reloadConfig getenv file).2 events →
        (s.reloadConfig getenv file).2.run evp events
          = (s.reloadConfig getenv file).2.runWith
            (fun _ _ => (s.reloadConfig getenv file).2.currentConfig) evp events) :=
  ⟨fun _ => run_eq_governed, fun _ _ _ _ he h => run_after_reload h he⟩

/-- The defaults, loaded from a file. -/
def fileConfig : NtpConfig := { NtpConfig.defaults with lastConfigFile := lit "ntpd.conf" }

/-- What the file says after authentication has been switched on. -/
def authenticatingFile : Str :=
  lit "enable_authentication=true\nauthentication_key=secret\nauthentication_algorithm=md5\n"

/-- A server with those defaults. -/
def fileServer : NtpServer := .start fileConfig (loggerSettings fileConfig)

/-- A datagram with a wrong tag. -/
def wrongTagEvents : List Event := [.packet (taggedRequest 1) exampleClient exampleEnv]

/-- What became of the datagrams of a run. -/
def verdicts (r : Except Exn (NtpServer × List (Option (Verdict × Option Bytes)))) :
    Option (List (Option Verdict)) :=
  (r.map fun r => r.2.map (·.map (·.1))).toOption

/-- The client has no connection when the reload switches authentication on: the
run after it applies the new configuration. -/
theorem reload_governs_new_client :
    fileServer.run constantDigest [.reload (fun _ => none) (some authenticatingFile)]
        = fileServer.runWith governed constantDigest
          [.reload (fun _ => none) (some authenticatingFile)] ∧
      (fileServer.reloadConfig (fun _ => none) (some authenticatingFile)).1 = true ∧
      (fileServer.reloadConfig (fun _ => none) (some authenticatingFile)).2.run constantDigest
          wrongTagEvents
        = (fileServer.reloadConfig (fun _ => none) (some authenticatingFile)).2.runWith
          (fun _ _ =>
            (fileServer.reloadConfig (fun _ => none) (some authenticatingFile)).2.currentConfig)
          constantDigest wrongTagEvents := by
  have hreload : (fileServer.reloadConfig (fun _ => none) (some authenticatingFile)).1 = true := by
    decide +kernel
  refine ⟨(reload_governs constantDigest fileServer).1 _ ?_, hreload,
    (reload_governs constantDigest fileServer).2 _ _ _ hreload ?_ ?_⟩
  · rintro pre data client env post heq
    rcases List.cons_eq_append_iff.mp heq with ⟨rfl, h⟩ | ⟨pre', rfl, h⟩
    · cases h
    · cases pre' <;> cases h
  · rintro e he
    rw [List.mem_singleton.mp he]
    trivial
  · rintro pre data client env post heq s' outs hpre
    refine .inr (.inr ?_)
    rcases List.cons_eq_append_iff.mp heq with ⟨rfl, h⟩ | ⟨pre', rfl, h⟩
    · cases h
      obtain ⟨rfl, -⟩ := Prod.mk.inj (Except.ok.inj hpre)
      have hnone : (fileServer.reloadConfig (fun _ => none)
          (some authenticatingFile)).2.activeConnections.lookup
            (connectionKey (inetNtop exampleClient.ip) exampleClient.port) = none := by
        rw [reloadConfig_activeConnections]
        rfl
      intro conn hconn
      rw [hnone] at hconn
      cases hconn
    · cases pre' <;> cases h

/-- A client that sent a datagram before authentication was switched on is
answered afterwards, whatever its tag; a server that applied the new
configuration to it would refuse. -/
theorem stale_connection_answered :
    ¬ ∀ (evp : Evp) (c : NtpConfig) (logger : LoggerSettings) (before : List Event) s outs,
      c.validate = true → (NtpServer.start c logger).run evp before = .ok (s, outs) →
        ∀ getenv file, (s.reloadConfig getenv file).1 = true →
          ∀ after : List Event, (∀ e ∈ after, e.NoReload) →
            (s.reloadConfig getenv file).2.run evp after
              = (s.reloadConfig getenv file).2.runWith
                (fun _ _ => (s.reloadConfig getenv file).2.currentConfig) evp after := by
  intro h
  have hdiffer : ((fileServer.run constantDigest
      [.packet exampleRequest exampleClient exampleEnv]).map fun r =>
        let t := r.1.reloadConfig (fun _ => none) (some authenticatingFile)
        (t.1, verdicts (t.2.run constantDigest wrongTagEvents),
          verdicts (t.2.runWith (fun _ _ => t.2.currentConfig) constantDigest
            wrongTagEvents))).toOption
      = some (true, some [some .answered], some [some .refused]) := by
    decide +kernel
  -- the same datagram is answered by one server and refused by the other
  obtain ⟨⟨s, outs⟩, hrun, hall⟩ := Runs.exists_of_toOption_map hdiffer
  dsimp only at hall
  rw [Prod.mk.injEq, Prod.mk.injEq] at hall
  obtain ⟨hreload, hcaptured, hgoverned⟩ := hall
  have heq := h constantDigest fileConfig (loggerSettings fileConfig) _ s outs
    (by decide +kernel) hrun _ _ hreload wrongTagEvents fun e he => by
      rw [List.mem_singleton.mp he]
      trivial
  rw [heq] at hcaptured
  rw [hcaptured] at hgoverned
  cases hgoverned

end SimpleNtpd
