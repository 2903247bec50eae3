import SimpleNtpd.Config.Loader
import SimpleNtpd.Core.AccessControl
import SimpleNtpd.Core.Connection
import SimpleNtpd.Core.UpstreamSync

/-!
# The server

`NtpServer` (server.cpp): its state, the processing of one datagram, the reload
of the configuration, the clean-up of connections, and runs of these.

Configuration objects are shared: the server points to the current one, every
connection to the one that was current when it was made, the sync manager to the
one the server was started with, and `applyDynamicStratum` changes the current
one in place. So the objects live in `configs`, and the pointers are numbers
(`ConfigRef`). A reload makes a new object and moves the server's pointer only.

A connection object lives in the table under its key. The two unordered maps of
rate buckets are association lists; a missing entry is the zero `operator[]`
inserts. Counters of the statistics are natural numbers; the counters a limiter
compares keep their 32 bits.
-/

namespace SimpleNtpd

open Cpp

/-! ## State -/

/-- server.hpp:36–56. The counters are `uint64_t`, which workers increment without a lock. -/
structure NtpServerStats where
  totalConnections : Nat := 0
  activeConnections : Nat := 0
  totalRequests : Nat := 0
  totalResponses : Nat := 0
  totalBytesTransferred : Nat := 0
  totalErrors : Nat := 0
  totalRequestProcessingTimeUs : Nat := 0
  processedRequestCount : Nat := 0
  maxRequestProcessingTimeUs : Nat := 0
  minRequestProcessingTimeUs : Nat := 2 ^ 64 - 1
  deriving DecidableEq, Repr

/-- The destinations of `enum class LogDestination` (logger.hpp:26) that a reload sets. -/
inductive LogDestination where
  | console | file | both
  deriving DecidableEq, Repr

/-- What a reload sets in the logger (logger.cpp:102–152). -/
structure LoggerSettings where
  level : LogLevel
  logFile : Str
  destination : LogDestination
  enableSyslog : Bool
  structuredJson : Bool
  rotateMaxSizeBytes : UInt64
  rotateMaxFiles : UInt32
  deriving DecidableEq, Repr

/-- The state of the server that datagrams, sync rounds, reloads and clean-ups
read or change (server.hpp:262–335). -/
structure NtpServer where
  /-- the configuration objects -/
  configs : ConfigRef → NtpConfig
  /-- the first name not used for one -/
  nextConfig : ConfigRef
  /-- `config_` -/
  config : ConfigRef
  logger : LoggerSettings
  activeConnections : AList fun _ : Str => NtpConnection := ∅
  stats : NtpServerStats := {}
  healthyUpstreams : List Str := []
  upstreamRrIndex : UInt64 := 0
  connectionRateBuckets : AList fun _ : Str => Nat × UInt32 := ∅
  requestSecondBuckets : AList fun _ : Str => Nat × UInt32 := ∅
  upstreamSync : Option UpstreamSyncManager := none
  /-- the configuration the sync manager points to -/
  syncConfig : ConfigRef := 0

namespace NtpServer

/-- `*config_`. -/
def currentConfig (s : NtpServer) : NtpConfig := s.configs s.config

/-- A running server after `start` with the given configuration
(server.cpp:40–128). -/
def start (c : NtpConfig) (logger : LoggerSettings) : NtpServer where
  configs := fun _ => c
  nextConfig := 1
  config := 0
  logger := logger
  healthyUpstreams := c.upstreamServers
  upstreamSync := if c.upstreamServers.isEmpty then none else some {}
  syncConfig := 0

/-! ## Admission -/

/-- `stats_.total_errors++`. -/
def countError (s : NtpServer) : NtpServer :=
  { s with stats := { s.stats with totalErrors := s.stats.totalErrors + 1 } }

end NtpServer

/-- A counter for the latest bucket only: a new bucket replaces the old one
(server.cpp:817–822, 835–840). -/
def countInBucket (entry : Nat × UInt32) (bucket : Nat) : Nat × UInt32 :=
  let entry := if entry.1 ≠ bucket then (bucket, 0) else entry
  (entry.1, entry.2 + 1)

namespace NtpServer

/-- Count a datagram of a client in its minute; whether there were too many
(server.cpp:807–824). -/
def isRateLimitExceeded (s : NtpServer) (clientIp : Str) (now : SteadyTime) :
    Bool × NtpServer :=
  if !s.currentConfig.enableRateLimiting then (false, s)
  else
    let entry := countInBucket ((s.connectionRateBuckets.lookup clientIp).getD (0, 0))
      (minuteBucket now)
    (entry.2 > s.currentConfig.connectionRateLimitPerMinute,
      { s with connectionRateBuckets := s.connectionRateBuckets.insert clientIp entry })

/-- Count a datagram of a client in its second; whether there were too many
(server.cpp:826–843). -/
def isDdosAnomaly (s : NtpServer) (clientIp : Str) (now : SteadyTime) : Bool × NtpServer :=
  if !s.currentConfig.enableDdosProtection then (false, s)
  else
    let entry := countInBucket ((s.requestSecondBuckets.lookup clientIp).getD (0, 0))
      (secondBucket now)
    (entry.2 > s.currentConfig.ddosAnomalyThresholdPerSecond,
      { s with requestSecondBuckets := s.requestSecondBuckets.insert clientIp entry })

/-! ## Connections -/

/-- `client_ip + ":" + std::to_string(client_port)`. -/
def connectionKey (clientIp : Str) (clientPort : UInt16) : Str :=
  clientIp ++ ':'.toUInt8 :: toDecimal clientPort.toNat

/-- The connection of a client, made with the current configuration where there
is none (server.cpp:546–573). The new one asks the access lists again. -/
def getOrCreateConnection (s : NtpServer) (clientIp : Str) (clientPort : UInt16) :
    Except Exn NtpServer :=
  let clientKey := connectionKey clientIp clientPort
  match s.activeConnections.lookup clientKey with
  | some _ => .ok s
  | none =>
    match isClientAllowed s.currentConfig clientIp with
    | .error e => .error e
    | .ok trusted =>
      .ok { s with
        activeConnections := s.activeConnections.insert clientKey
          { clientAddress := clientIp, config := s.config, trustedClient := trusted }
        stats := { s.stats with
          totalConnections := s.stats.totalConnections + 1
          activeConnections := s.stats.activeConnections + 1 } }

/-- Call a method of the connection under a key. -/
def onConnection (s : NtpServer) (clientKey : Str)
    (method : NtpConnection → Bool × NtpConnection) : Bool × NtpServer :=
  match s.activeConnections.lookup clientKey with
  | none => (false, s)
  | some conn =>
    ((method conn).1,
      { s with activeConnections := s.activeConnections.insert clientKey (method conn).2 })

/-- server.cpp:593–594. -/
def eraseConnection (s : NtpServer) (clientKey : Str) : NtpServer :=
  { s with
    activeConnections := s.activeConnections.erase clientKey
    stats := { s.stats with activeConnections := s.stats.activeConnections - 1 } }

/-- Erase the connections that are no longer active (server.cpp:587–599). -/
def cleanupConnections (s : NtpServer) : NtpServer :=
  let inactive := s.activeConnections.entries.filter fun entry => !entry.2.active
  inactive.foldl (fun s entry => s.eraseConnection entry.1) s

/-! ## Replies -/

/-- `static_cast<double>(errors) / static_cast<double>(requests) > 0.20`; in
exact arithmetic, with which the double comparison agrees for counters below
2^52. -/
def errorRatioHigh (errors requests : Nat) : Bool := 5 * errors > requests

/-- Raise the stratum of the current configuration, in place, while many
requests fail (server.cpp:912–924). -/
def applyDynamicStratum (s : NtpServer) : NtpServer :=
  let c := s.currentConfig
  if c.enableDynamicStratumAdjustment && s.stats.totalRequests > 100
      && errorRatioHigh s.stats.totalErrors s.stats.totalRequests && c.stratum < 15 then
    { s with configs := Function.update s.configs s.config { c with stratum := c.stratum + 1 } }
  else s

end NtpServer

/-- The identifier a reply is sent with (server.cpp:926–942). -/
def effectiveReferenceId (c : NtpConfig) : Str :=
  if !c.enableReferenceClockSupport then c.referenceId
  else
    let source := lower c.referenceClockSource
    if source = lit "gps" then lit "GPS "
    else if source = lit "atomic" then lit "ATOM"
    else if source = lit "hardware" then lit "HARD"
    else if c.referenceId.isEmpty then lit "LOCL" else c.referenceId

/-- The clocks, the random number generator and the network during the
processing of one datagram. -/
structure PacketEnv where
  /-- the steady clock on entry -/
  startTime : SteadyTime
  /-- the steady clock when the connection limiter reads it -/
  rateTime : SteadyTime
  /-- the steady clock when the anomaly detector reads it -/
  ddosTime : SteadyTime
  /-- the steady clock when the request limiter reads it -/
  requestTime : SteadyTime
  /-- the steady clock at the end -/
  endTime : SteadyTime
  /-- the system clock for the receive, transmit and reference timestamps -/
  receiveTime : Int
  transmitTime : Int
  referenceTime : Int
  /-- what the uniform distribution returns -/
  randomIndex : Nat
  /-- whether `sendto` succeeds -/
  sendOk : Bool

namespace NtpServer

/-- The upstream server a reply is attributed to (server.cpp:887–910). -/
def selectUpstreamServer (s : NtpServer) (randomIndex : Nat) : Str × NtpServer :=
  let c := s.currentConfig
  if c.upstreamServers.isEmpty then ([], s)
  else
    let healthy := if s.healthyUpstreams.isEmpty then c.upstreamServers else s.healthyUpstreams
    let s := { s with healthyUpstreams := healthy }
    if healthy.length = 1 then (healthy.headD [], s)
    else match c.upstreamSelectionAlgorithm with
      | .random => (healthy.getD (randomIndex % healthy.length) [], s)
      -- least-errors falls through to round-robin
      | _ => (healthy.getD (s.upstreamRrIndex.toNat % healthy.length) [],
          { s with upstreamRrIndex := s.upstreamRrIndex + 1 })

/-- The stratum of a reply (server.cpp:483–487). -/
def responseStratum (s : NtpServer) : UInt8 :=
  match s.upstreamSync with
  | none => s.currentConfig.stratum
  | some m =>
    if m.synced then m.effectiveStratum s.currentConfig.stratum else s.currentConfig.stratum

end NtpServer

/-- A timestamp moved by some microseconds. -/
def NtpTimestamp.shift (ts : NtpTimestamp) (offsetUs : Int) : NtpTimestamp :=
  .fromSystemTime (ts.toSystemTime + offsetUs * 1000)

/-- The receive and transmit timestamps moved by the clock offset, unless it is
zero (server.cpp:493–502). -/
def applyClockOffset (sync : Option UpstreamSyncManager) (response : NtpPacket) : NtpPacket :=
  match sync with
  | none => response
  | some m =>
    if m.clockOffsetUs ≠ 0 then
      { response with
        receiveTs := response.receiveTs.shift m.clockOffsetUs
        transmitTs := response.transmitTs.shift m.clockOffsetUs }
    else response

namespace NtpServer

/-- The reply to a request, the upstream server it is attributed to, and the
state afterwards (server.cpp:483–507). -/
def buildReply (s : NtpServer) (request : NtpPacket) (env : PacketEnv) :
    Bytes × Str × NtpServer :=
  let response := NtpPacket.createServerResponse request s.responseStratum
    (effectiveReferenceId s.currentConfig) env.receiveTime env.transmitTime env.referenceTime
  let s := s.applyDynamicStratum
  let response := applyClockOffset s.upstreamSync response
  let selected := s.selectUpstreamServer env.randomIndex
  (response.serializeToData, selected.1, selected.2)

/-- server.cpp:528–530. -/
def recordReply (s : NtpServer) (bytes : Nat) : NtpServer :=
  { s with stats := { s.stats with
      totalRequests := s.stats.totalRequests + 1
      totalBytesTransferred := s.stats.totalBytesTransferred + bytes
      totalResponses := s.stats.totalResponses + 1 } }

/-- The reply could not be sent (server.cpp:512–525). -/
def recordSendFailure (s : NtpServer) (selected : Str) : NtpServer :=
  let s := s.countError
  if s.currentConfig.enableUpstreamFailover && !selected.isEmpty then
    { s with healthyUpstreams := s.healthyUpstreams.erase selected }
  else s

/-- server.cpp:535–543. -/
def recordTime (s : NtpServer) (env : PacketEnv) : NtpServer :=
  let durUs := (env.endTime - env.startTime) / 1000
  { s with stats := { s.stats with
      totalRequestProcessingTimeUs := s.stats.totalRequestProcessingTimeUs + durUs
      processedRequestCount := s.stats.processedRequestCount + 1
      maxRequestProcessingTimeUs := max s.stats.maxRequestProcessingTimeUs durUs
      minRequestProcessingTimeUs := min s.stats.minRequestProcessingTimeUs durUs } }

end NtpServer

/-! ## One datagram -/

/-- What becomes of a datagram. -/
inductive Verdict where
  | aclDenied | rateLimited | ddosAnomaly | refused | answered
  deriving DecidableEq, Repr

/-- The server after a datagram, the verdict, and what was handed to `sendto`. -/
structure Processed where
  server : NtpServer
  verdict : Verdict
  reply : Option Bytes

namespace NtpServer

/-- The part of `processPacket` behind `handlePacket` (server.cpp:475–543). -/
def finishPacket (s : NtpServer) (accepted : Bool) (data : Bytes) (env : PacketEnv) :
    Processed :=
  if accepted then
    match NtpPacket.new.parseFromData data with
    | (false, _) => ⟨s.countError, .refused, none⟩
    | (true, request) =>
      let (reply, selected, s) := s.buildReply request env
      if env.sendOk then ⟨(s.recordReply data.length).recordTime env, .answered, some reply⟩
      else ⟨s.recordSendFailure selected, .answered, some reply⟩
  else ⟨s.countError.recordTime env, .refused, none⟩

/-- `connection->handlePacket(data)`. `pick` is the configuration the method
reads, given the server and the connection. -/
def handleOn (pick : NtpServer → NtpConnection → NtpConfig) (evp : Evp) (s : NtpServer)
    (clientKey : Str) (now : SteadyTime) (data : Bytes) : Bool × NtpServer :=
  s.onConnection clientKey fun conn => conn.handlePacket evp (pick s conn) now data

/-- Process one datagram (server.cpp:435–544). -/
def processPacketWith (pick : NtpServer → NtpConnection → NtpConfig) (evp : Evp)
    (s : NtpServer) (data : Bytes) (client : SockAddr) (env : PacketEnv) :
    Except Exn Processed :=
  let clientIp := inetNtop client.ip
  match isClientAllowed s.currentConfig clientIp with
  | .error e => .error e
  | .ok false => .ok ⟨s.countError, .aclDenied, none⟩
  | .ok true =>
    let (exceeded, s) := s.isRateLimitExceeded clientIp env.rateTime
    if exceeded then .ok ⟨s.countError, .rateLimited, none⟩
    else
      let (anomaly, s) := s.isDdosAnomaly clientIp env.ddosTime
      if anomaly && s.currentConfig.enableGracefulDegradation then
        .ok ⟨s.countError, .ddosAnomaly, none⟩
      else match s.getOrCreateConnection clientIp client.port with
        | .error e => .error e
        | .ok s =>
          let (accepted, s) := s.handleOn pick evp (connectionKey clientIp client.port)
            env.requestTime data
          .ok (s.finishPacket accepted data env)

/-- The configuration object a connection points to. -/
def captured (s : NtpServer) (conn : NtpConnection) : NtpConfig := s.configs conn.config

/-- `NtpServer::processPacket`: a connection reads the configuration it was
made with. -/
def processPacket (evp : Evp) (s : NtpServer) (data : Bytes) (client : SockAddr)
    (env : PacketEnv) : Except Exn Processed :=
  processPacketWith captured evp s data client env

/-! ## Reload -/

/-- The logger settings of a configuration (server.cpp:148–163). -/
def loggerSettings (c : NtpConfig) : LoggerSettings where
  level := c.logLevel
  logFile := c.logFile
  destination :=
    if c.enableConsoleLogging && !c.logFile.isEmpty then .both
    else if c.enableConsoleLogging then .console
    else .file
  enableSyslog := c.enableSyslog
  structuredJson := c.logJson
  rotateMaxSizeBytes := c.logMaxSizeBytes
  rotateMaxFiles := max 1 c.logMaxFiles

/-- Reload the recorded file over a copy of the current configuration; whether
the result was accepted (server.cpp:129–179). -/
def reloadConfig (s : NtpServer) (getenv : Str → Option Str) (file : Option Str) :
    Bool × NtpServer :=
  let cfgPath := s.currentConfig.lastConfigFile
  if cfgPath.isEmpty then (false, s)
  else
    let (loaded, newConfig) := NtpConfig.loadFromFile getenv cfgPath file s.currentConfig
    if !loaded || !newConfig.validate then (false, s)
    else
      (true, { s with
        logger := loggerSettings newConfig
        configs := Function.update s.configs s.nextConfig newConfig
        config := s.nextConfig
        nextConfig := s.nextConfig + 1 })

/-- A reload leaves the connections alone. -/
theorem reloadConfig_activeConnections (s : NtpServer) (getenv : Str → Option Str)
    (file : Option Str) :
    (s.reloadConfig getenv file).2.activeConnections = s.activeConnections := by
  unfold reloadConfig
  dsimp only
  split
  · rfl
  · split <;> rfl

/-- One round of the sync manager, where there is one. -/
def syncOnce (s : NtpServer) (world : Nat → QueryEnv) (now : Int) : NtpServer :=
  { s with upstreamSync := s.upstreamSync.map fun m =>
      (m.syncOnce (s.configs s.syncConfig).upstreamServers world now).1 }

end NtpServer

/-! ## Runs -/

/-- What can happen to a running server. -/
inductive Event where
  /-- a worker processes a datagram; any is admitted here, while `processIncomingPackets`
  skips the empty ones (server.cpp:422–424) -/
  | packet (data : Bytes) (client : SockAddr) (env : PacketEnv)
  | sync (world : Nat → QueryEnv) (now : Int)
  | reload (getenv : Str → Option Str) (file : Option Str)
  | cleanup

namespace NtpServer

/-- One event: the state afterwards, and what became of a datagram. An
exception leaves a worker thread and ends the process. -/
def stepWith (pick : NtpServer → NtpConnection → NtpConfig) (evp : Evp) (s : NtpServer) :
    Event → Except Exn (NtpServer × Option (Verdict × Option Bytes))
  | .packet data client env =>
    match s.processPacketWith pick evp data client env with
    | .error e => .error e
    | .ok p => .ok (p.server, some (p.verdict, p.reply))
  | .sync world now => .ok (s.syncOnce world now, none)
  | .reload getenv file => .ok ((s.reloadConfig getenv file).2, none)
  | .cleanup => .ok (s.cleanupConnections, none)

/-- A run: the state reached, and what became of the datagrams, in order. -/
def runWith (pick : NtpServer → NtpConnection → NtpConfig) (evp : Evp) (s : NtpServer) :
    List Event → Except Exn (NtpServer × List (Option (Verdict × Option Bytes)))
  | [] => .ok (s, [])
  | e :: events =>
    match s.stepWith pick evp e with
    | .error exn => .error exn
    | .ok (s, out) =>
      match s.runWith pick evp events with
      | .error exn => .error exn
      | .ok (s, outs) => .ok (s, out :: outs)

/-- The runs of the daemon. -/
def run (evp : Evp) (s : NtpServer) (events : List Event) :
    Except Exn (NtpServer × List (Option (Verdict × Option Bytes))) :=
  s.runWith captured evp events

end NtpServer

end SimpleNtpd
