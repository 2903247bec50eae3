import SimpleNtpd.Config.Fields
import SimpleNtpd.Core.Frame
import SimpleNtpd.Lib.Runs

/-!
# The life of the daemon

`NtpServer::start` and `NtpServer::stop` around what a running server does
(server.cpp), and the settings `main` gives the logger before (production.cpp).

A `Daemon` is a server with what only its life cycle looks at: `running_`, and
the listen address the constructor copies. The socket is the operating system's
(`StartEnv`). A life is a list of events in any order. An event of the server
does not ask whether the server is running: a worker is in the middle of its loop
when `stop` clears the flag, and a signal can ask for a reload before `start`.
-/

namespace SimpleNtpd

open Cpp

/-- The logger when `main` has configured it (production.cpp:310–318). `setSyslog`
is not called, and a new logger does not write to the system log. -/
def startupLogger (c : NtpConfig) : LoggerSettings where
  level := c.logLevel
  logFile := c.logFile
  destination := if c.enableConsoleLogging then .console else .file
  enableSyslog := false
  structuredJson := c.logJson
  rotateMaxSizeBytes := c.logMaxSizeBytes
  rotateMaxFiles := max 1 c.logMaxFiles

/-! ## Start and stop -/

/-- What the operating system does during `start`. -/
structure StartEnv where
  /-- whether the socket can be created -/
  socketOk : Bool
  /-- whether it can be bound to the address -/
  bindOk : Bool
  deriving DecidableEq, Repr

/-- The files the secure controls need are not named (server.cpp:76–88). -/
def secureFilesMissing (c : NtpConfig) : Bool :=
  (c.enableCertificateValidation && c.tlsCaFile.isEmpty) ||
    ((c.enableTls || c.enableCertificateAuthentication)
      && (c.tlsCertFile.isEmpty || c.tlsKeyFile.isEmpty))

/-- A server with its life cycle. -/
structure Daemon where
  server : NtpServer
  /-- `running_` -/
  running : Bool
  /-- `server_address_` -/
  serverAddress : Str

namespace Daemon

/-- The constructor (server.cpp:39–64). -/
def create (c : NtpConfig) (logger : LoggerSettings) : Daemon where
  server := { configs := fun _ => c, nextConfig := 1, config := 0, logger := logger }
  running := false
  serverAddress := c.listenAddress

/-- `*config_`. -/
def currentConfig (d : Daemon) : NtpConfig := d.server.currentConfig

/-- `bindSocket` (server.cpp:327–346). -/
def bindSocket (d : Daemon) (env : StartEnv) : Bool :=
  (inetPton d.serverAddress).isSome && env.bindOk

/-- The upstream servers, after the workers have been started
(server.cpp:112–121). Without a list an older manager would stay. -/
def startUpstreams (s : NtpServer) : NtpServer :=
  let s := { s with healthyUpstreams := s.currentConfig.upstreamServers }
  if s.currentConfig.upstreamServers.isEmpty then s
  else { s with upstreamSync := some {}, syncConfig := s.config }

/-- Start the server (server.cpp:68–128). The configuration is not validated. -/
def start (d : Daemon) (env : StartEnv) : Bool × Daemon :=
  if d.running then (false, d)
  else if secureFilesMissing d.currentConfig then (false, d)
  else if !env.socketOk then (false, d)
  else if !d.bindSocket env then (false, d)
  else (true, { d with running := true, server := startUpstreams d.server })

/-- Stop the server (server.cpp:181–210). -/
def stop (d : Daemon) : Daemon :=
  if !d.running then d
  else { d with
    running := false
    server := { d.server with upstreamSync := none }.cleanupConnections }

/-! ## Lives -/

/-- What can happen to a daemon. -/
inductive Step where
  | start (env : StartEnv)
  /-- what can happen to the running server, with a datagram of any length -/
  | serve (e : Event)
  | stop

/-- One event. -/
def step (evp : Evp) (d : Daemon) : Step → Except Exn Daemon
  | .start env => .ok (d.start env).2
  | .serve e => (d.server.stepWith NtpServer.captured evp e).map fun r => { d with server := r.1 }
  | .stop => .ok d.stop

/-- The state after some events. -/
def run (evp : Evp) (d : Daemon) (events : List Step) : Except Exn Daemon :=
  events.foldlM (step evp) d

/-! ## What an event changes -/

variable {evp : Evp} {d d' : Daemon}

/-- A successful start is one of a stopped server with its files named and an
address that can be bound. -/
theorem start_cases (d : Daemon) (env : StartEnv) :
    d.start env = (false, d) ∨
      d.running = false ∧ secureFilesMissing d.currentConfig = false ∧
        (inetPton d.serverAddress).isSome = true ∧
        d.start env = (true, { d with running := true, server := startUpstreams d.server }) := by
  unfold start
  cases hrunning : d.running with
  | true => exact .inl rfl
  | false =>
    cases hfiles : secureFilesMissing d.currentConfig with
    | true => exact .inl rfl
    | false =>
      cases hsocket : env.socketOk with
      | false => exact .inl rfl
      | true =>
        cases hbind : d.bindSocket env with
        | false => exact .inl rfl
        | true => exact .inr ⟨rfl, rfl, (Bool.and_eq_true _ _ ▸ hbind).1, rfl⟩

/-- A new server that can be started is the running server of the other results. -/
theorem start_create {c : NtpConfig} {logger : LoggerSettings} {env : StartEnv}
    (h : ((create c logger).start env).1 = true) :
    ((create c logger).start env).2.server = NtpServer.start c logger := by
  rcases start_cases (create c logger) env with hstay | ⟨-, -, -, hstart⟩
  · rw [hstay] at h
    cases h
  · rw [hstart]
    show startUpstreams (create c logger).server = NtpServer.start c logger
    unfold startUpstreams NtpServer.start
    cases hempty : c.upstreamServers.isEmpty with
    | true => simp only [create, NtpServer.currentConfig, hempty, if_true]
    | false => simp only [create, NtpServer.currentConfig, hempty, Bool.false_eq_true, if_false]

/-- An event of the server changes the server only. -/
theorem step_serve {e : Event} (h : d.step evp (.serve e) = .ok d') :
    ∃ s out, d.server.stepWith NtpServer.captured evp e = .ok (s, out) ∧
      d' = { d with server := s } := by
  rw [step] at h
  cases hstep : d.server.stepWith NtpServer.captured evp e with
  | error exn =>
    rw [hstep] at h
    cases h
  | ok r =>
    rw [hstep] at h
    cases h
    exact ⟨r.1, r.2, rfl, rfl⟩

/-- A datagram is `processPacket`. -/
theorem step_packet (evp : Evp) (d : Daemon) (data : Bytes) (client : SockAddr)
    (env : PacketEnv) : step evp d (.serve (.packet data client env))
      = (d.server.processPacket evp data client env).map fun p => { d with server := p.server } := by
  rw [step, NtpServer.stepWith, ← NtpServer.processPacket]
  cases d.server.processPacket evp data client env <;> rfl

/-! ## What changes the configuration in force -/

/-- What a reload makes of the configuration in force and the content of its
file. -/
def reloaded (s : NtpServer) (getenv : Str → Option Str) (content : Str) : NtpConfig :=
  configFields.storeAll s.currentConfig
    (loadAssignments getenv s.currentConfig.lastConfigFile content)

/-- The logger is set, and the server points to a new configuration object. What
else points to a configuration still points to the old one. -/
def putInForce (s : NtpServer) (c : NtpConfig) : NtpServer :=
  { s with
    logger := NtpServer.loggerSettings c
    configs := Function.update s.configs s.nextConfig c
    config := s.nextConfig
    nextConfig := s.nextConfig + 1 }

@[simp] theorem putInForce_currentConfig (s : NtpServer) (c : NtpConfig) :
    (putInForce s c).currentConfig = c := Function.update_self _ _ _

/-- A reload of a file that leads to a valid configuration puts it in force. -/
theorem reloadConfig_of_valid {s : NtpServer} {getenv : Str → Option Str} {content : Str}
    (hpath : s.currentConfig.lastConfigFile ≠ [])
    (hvalid : (reloaded s getenv content).validate = true) :
    s.reloadConfig getenv (some content) = (true, putInForce s (reloaded s getenv content)) := by
  unfold NtpServer.reloadConfig
  dsimp only
  rw [if_neg (fun hnil => hpath (List.isEmpty_iff.mp hnil)), NtpConfig.loadFromFile_some]
  dsimp only
  rw [← reloaded, hvalid]
  rfl

/-- A reload changes nothing, or puts the loaded configuration, which is valid,
in force. -/
theorem reloadConfig_cases (s : NtpServer) (getenv : Str → Option Str) (file : Option Str) :
    s.reloadConfig getenv file = (false, s) ∨
      ∃ content, file = some content ∧ s.currentConfig.lastConfigFile ≠ [] ∧
        (reloaded s getenv content).validate = true ∧
        s.reloadConfig getenv file = (true, putInForce s (reloaded s getenv content)) := by
  by_cases hpath : s.currentConfig.lastConfigFile = []
  · left
    unfold NtpServer.reloadConfig
    dsimp only
    rw [hpath]
    rfl
  · cases file with
    | none =>
      left
      unfold NtpServer.reloadConfig
      dsimp only
      rw [if_neg (fun hnil => hpath (List.isEmpty_iff.mp hnil)), NtpConfig.loadFromFile_none]
      rfl
    | some content =>
      cases hvalid : (reloaded s getenv content).validate with
      | true => exact .inr ⟨content, rfl, hpath, hvalid, reloadConfig_of_valid hpath hvalid⟩
      | false =>
        left
        unfold NtpServer.reloadConfig
        dsimp only
        rw [if_neg (fun hnil => hpath (List.isEmpty_iff.mp hnil)), NtpConfig.loadFromFile_some]
        dsimp only
        rw [← reloaded, hvalid]
        rfl

/-- **What one event does to the configuration in force**: nothing, it raises
the stratum from below fifteen, or it reloads. -/
theorem stepWith_currentConfig {pick : NtpServer → NtpConnection → NtpConfig} {s s' : NtpServer}
    {e : Event} {out : Option (Verdict × Option Bytes)}
    (h : s.stepWith pick evp e = .ok (s', out)) :
    s'.currentConfig = s.currentConfig ∨
      (s.currentConfig.stratum < 15 ∧
        s'.currentConfig = { s.currentConfig with stratum := s.currentConfig.stratum + 1 }) ∨
      ∃ getenv file, e = .reload getenv file ∧ s' = (s.reloadConfig getenv file).2 := by
  cases e with
  | packet data client env =>
    obtain ⟨p, hp, rfl, -⟩ := NtpServer.stepWith_packet h
    rcases NtpServer.processPacketWith_cases hp with ⟨-, -, hsame⟩ | ⟨t, packet, hsame, -, rfl⟩
    · exact .inl hsame.currentConfig
    · -- the reply is built in a state with the same settings
      rcases t.finishPacket_same true data env with hstay | hraise
      · exact .inl (hstay.currentConfig.trans hsame.currentConfig)
      · -- a datagram that is answered has the stratum looked at
        rw [hraise.currentConfig]
        rcases t.applyDynamicStratum_cases with hno | ⟨hlt, hyes⟩
        · rw [hno]
          exact .inl hsame.currentConfig
        · rw [hyes, NtpServer.currentConfig]
          dsimp only
          rw [Function.update_self, ← hsame.currentConfig]
          exact .inr (.inl ⟨hlt, rfl⟩)
  | sync world now =>
    cases h
    exact .inl rfl
  | reload getenv file =>
    cases h
    exact .inr (.inr ⟨getenv, file, rfl, rfl⟩)
  | cleanup =>
    cases h
    exact .inl s.cleanupConnections_same.currentConfig

/-- The start of the upstream servers changes nothing but these. -/
theorem startUpstreams_eq (s : NtpServer) :
    ∃ healthy sync ref, startUpstreams s = { s with
      healthyUpstreams := healthy
      upstreamSync := sync
      syncConfig := ref } := by
  unfold startUpstreams
  dsimp only
  split
  · exact ⟨_, s.upstreamSync, s.syncConfig, rfl⟩
  · exact ⟨_, _, _, rfl⟩

/-- The start of the upstreams leaves the configuration in force. -/
@[simp] theorem startUpstreams_currentConfig (s : NtpServer) :
    (startUpstreams s).currentConfig = s.currentConfig := by
  obtain ⟨healthy, sync, ref, heq⟩ := startUpstreams_eq s
  rw [heq]
  rfl

/-- A stop leaves the configuration in force. -/
theorem stop_currentConfig (d : Daemon) : d.stop.currentConfig = d.currentConfig := by
  unfold stop
  split
  · rfl
  · exact (NtpServer.cleanupConnections_same _).currentConfig

end Daemon

end SimpleNtpd
