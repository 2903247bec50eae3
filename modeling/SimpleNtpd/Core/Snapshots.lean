import SimpleNtpd.Core.SyncHistory
import SimpleNtpd.Lib.Steps
import SimpleNtpd.Lib.Versions

/-!
# Snapshots

`processPacket` follows the pointer `config_` anew for every setting it reads, and
asks the sync manager three times, each time under the mutex alone. Here it is a
program in steps (`Steps`), one for each read of the pointer, each question and
each section under a mutex; the replacement of the pointer at the end of a reload,
the commits of the sync thread and the steps of other workers come in between.
Alone, the program is `processPacket` (`processPacket_alone`).

A log records what every step reads: which configuration object, and after how
many commits. So a reply has one configuration and one commit exactly when no
replacement comes between its reads of the pointer, no commit between those of the
manager, and the connection of its client is not from before a reload
(`one_snapshot_iff`).
-/

namespace SimpleNtpd

open Cpp

/-! ## The worker's program -/

/-- What the threads share. -/
structure Shared where
  server : NtpServer
  /-- `connections_mutex_` is held beyond the step -/
  connectionsLocked : Bool := false

/-- What a step reads of what can be replaced. -/
inductive Access where
  /-- a member of `*config_`, or the pointer -/
  | config
  /-- a connection that exists, with the configuration it points to -/
  | connection (ref : ConfigRef)
  /-- the manager, for the stratum of the reply -/
  | stratum
  /-- the manager, for the clock offset of the reply -/
  | offset
  deriving DecidableEq, Repr

/-- The program of a worker. -/
abbrev Work := Steps Shared Access

/-- The walk over the access lists (server.cpp:791–804). -/
def walkClients (c : NtpConfig) (clientIp : Str) : Except Exn Bool :=
  match anyCidr clientIp c.deniedClients with
  | .error e => .error e
  | .ok true => .ok false
  | .ok false =>
    if c.allowedClients.isEmpty then .ok (!c.restrictQueries)
    else anyCidr clientIp c.allowedClients

theorem isClientAllowed_eq (c : NtpConfig) (clientIp : Str) :
    isClientAllowed c clientIp =
      if !c.enableAcl && !c.restrictQueries then .ok true else walkClients c clientIp := rfl

/-- A connection that is entered and counted (server.cpp:565–567). -/
def NtpServer.putNew (s : NtpServer) (clientKey : Str) (conn : NtpConnection) : NtpServer :=
  { s with
    activeConnections := s.activeConnections.insert clientKey conn
    stats := { s.stats with
      totalConnections := s.stats.totalConnections + 1
      activeConnections := s.stats.activeConnections + 1 } }

theorem NtpServer.getOrCreateConnection_eq (s : NtpServer) (clientIp : Str) (clientPort : UInt16) :
    s.getOrCreateConnection clientIp clientPort =
      if (s.activeConnections.lookup (connectionKey clientIp clientPort)).isSome then .ok s
      else (isClientAllowed s.currentConfig clientIp).map fun trusted =>
        s.putNew (connectionKey clientIp clientPort)
          { clientAddress := clientIp, config := s.config, trustedClient := trusted } := by
  unfold getOrCreateConnection
  cases hfound : s.activeConnections.lookup (connectionKey clientIp clientPort) with
  | some conn => simp only [hfound, Option.isSome_some, if_true]
  | none =>
    simp only [hfound]
    cases isClientAllowed s.currentConfig clientIp <;> rfl

/-- What follows the three checks (server.cpp:464–543). -/
def NtpServer.serveWith (pick : NtpServer → NtpConnection → NtpConfig) (evp : Evp) (s : NtpServer)
    (data : Bytes) (client : SockAddr) (env : PacketEnv) : Except Exn Processed :=
  (s.getOrCreateConnection (inetNtop client.ip) client.port).map fun s =>
    let handled := s.handleOn pick evp (connectionKey (inetNtop client.ip) client.port)
      env.requestTime data
    handled.2.finishPacket handled.1 data env

theorem NtpServer.processPacketWith_eq (pick : NtpServer → NtpConnection → NtpConfig) (evp : Evp)
    (s : NtpServer) (data : Bytes) (client : SockAddr) (env : PacketEnv) :
    s.processPacketWith pick evp data client env =
      (isClientAllowed s.currentConfig (inetNtop client.ip)).bind fun allowed =>
        if !allowed then .ok ⟨s.countError, .aclDenied, none⟩
        else
          let rate := s.isRateLimitExceeded (inetNtop client.ip) env.rateTime
          if rate.1 then .ok ⟨rate.2.countError, .rateLimited, none⟩
          else
            let ddos := rate.2.isDdosAnomaly (inetNtop client.ip) env.ddosTime
            if ddos.1 && ddos.2.currentConfig.enableGracefulDegradation then
              .ok ⟨ddos.2.countError, .ddosAnomaly, none⟩
            else ddos.2.serveWith pick evp data client env := by
  unfold processPacketWith serveWith
  dsimp only
  cases isClientAllowed s.currentConfig (inetNtop client.ip) with
  | error e => rfl
  | ok allowed =>
    cases allowed with
    | false => rfl
    | true =>
      show (if _ then _ else if _ then _ else _) = (if _ then _ else if _ then _ else _)
      refine if_congr Iff.rfl rfl (if_congr Iff.rfl rfl ?_)
      cases NtpServer.getOrCreateConnection _ (inetNtop client.ip) client.port <;> rfl

/-- `config_->stratum = stratum`. -/
def NtpServer.putStratum (s : NtpServer) (stratum : UInt8) : NtpServer :=
  { s with configs :=
      Function.update s.configs s.config { s.currentConfig with stratum := stratum } }

/-- `healthy_upstreams_ = servers`. -/
def NtpServer.putHealthy (s : NtpServer) (servers : List Str) : NtpServer :=
  { s with healthyUpstreams := servers }

/-- The choice among the healthy servers (server.cpp:894–909). -/
def NtpServer.chooseUpstream (s : NtpServer) (randomIndex : Nat) : Str × NtpServer :=
  let healthy := s.healthyUpstreams
  if healthy.length = 1 then (healthy.headD [], s)
  else match s.currentConfig.upstreamSelectionAlgorithm with
    | .random => (healthy.getD (randomIndex % healthy.length) [], s)
    | _ => (healthy.getD (s.upstreamRrIndex.toNat % healthy.length) [],
        { s with upstreamRrIndex := s.upstreamRrIndex + 1 })

theorem NtpServer.selectUpstreamServer_eq (s : NtpServer) (randomIndex : Nat) :
    s.selectUpstreamServer randomIndex =
      if s.currentConfig.upstreamServers.isEmpty then ([], s)
      else (s.putHealthy (if s.healthyUpstreams.isEmpty then s.currentConfig.upstreamServers
        else s.healthyUpstreams)).chooseUpstream randomIndex := rfl

theorem NtpServer.applyDynamicStratum_eq (s : NtpServer) :
    s.applyDynamicStratum =
      if s.currentConfig.enableDynamicStratumAdjustment && s.stats.totalRequests > 100
        && errorRatioHigh s.stats.totalErrors s.stats.totalRequests && s.currentConfig.stratum < 15
      then s.putStratum (s.currentConfig.stratum + 1) else s := rfl

namespace Work

variable {α : Type}

/-- A step on the server. -/
def onServer (access : Option Access) (f : NtpServer → α × NtpServer) : Work α :=
  .atomic (fun _ => access) fun w => ((f w.server).1, { w with server := (f w.server).2 })

/-- A read of a member of `*config_`. -/
def config (f : NtpConfig → α) : Work α :=
  onServer (some .config) fun s => (f s.currentConfig, s)

/-- A step that reads nothing that can be replaced. -/
def update (f : NtpServer → NtpServer) : Work Unit := onServer none fun s => ((), f s)

/-- server.cpp:791–804. -/
def walkClients (clientIp : Str) : Work (Except Exn Bool) := do
  match anyCidr clientIp (← config (·.deniedClients)) with
  | .error e => return .error e
  | .ok true => return .ok false
  | .ok false =>
    if ← config (·.allowedClients.isEmpty) then
      let restrictQueries ← config (·.restrictQueries)
      return .ok !restrictQueries
    else return anyCidr clientIp (← config (·.allowedClients))

/-- server.cpp:786–805. -/
def isClientAllowed (clientIp : Str) : Work (Except Exn Bool) := do
  if ← config (·.enableAcl) then walkClients clientIp
  else if ← config (·.restrictQueries) then walkClients clientIp
  else return .ok true

/-- server.cpp:807–824. The section under `security_mutex_` is one step. -/
def isRateLimitExceeded (clientIp : Str) (now : SteadyTime) : Work Bool := do
  if ← config (·.enableRateLimiting) then
    onServer (some .config) fun s =>
      let entry := countInBucket ((s.connectionRateBuckets.lookup clientIp).getD (0, 0))
        (minuteBucket now)
      (entry.2 > s.currentConfig.connectionRateLimitPerMinute,
        { s with connectionRateBuckets := s.connectionRateBuckets.insert clientIp entry })
  else return false

/-- server.cpp:826–843. -/
def isDdosAnomaly (clientIp : Str) (now : SteadyTime) : Work Bool := do
  if ← config (·.enableDdosProtection) then
    onServer (some .config) fun s =>
      let entry := countInBucket ((s.requestSecondBuckets.lookup clientIp).getD (0, 0))
        (secondBucket now)
      (entry.2 > s.currentConfig.ddosAnomalyThresholdPerSecond,
        { s with requestSecondBuckets := s.requestSecondBuckets.insert clientIp entry })
  else return false

/-- Take `connections_mutex_` and look for the client's connection. Without one the
mutex stays held (server.cpp:549–556). -/
def findConnection (clientKey : Str) : Work (Option NtpConnection) :=
  .step (fun w => !w.connectionsLocked)
    (fun w => (w.server.activeConnections.lookup clientKey).map fun conn => .connection conn.config)
    (fun w => { w with
      connectionsLocked := (w.server.activeConnections.lookup clientKey).isNone })
    fun w => .done (w.server.activeConnections.lookup clientKey)

/-- Enter the new connection and release the mutex (server.cpp:565–568). -/
def addConnection (clientKey : Str) (conn : NtpConnection) : Work Unit :=
  .atomic (fun _ => none) fun w => ((),
    { server := w.server.putNew clientKey conn, connectionsLocked := false })

/-- server.cpp:546–573. The pointer is copied into the connection, and then read
again for the access lists. -/
def getOrCreateConnection (clientIp : Str) (clientPort : UInt16) : Work (Except Exn Unit) := do
  let clientKey := NtpServer.connectionKey clientIp clientPort
  match ← findConnection clientKey with
  | some _ => return .ok ()
  | none =>
    let ref ← onServer (some .config) fun s => (s.config, s)
    match ← isClientAllowed clientIp with
    | .error e => return .error e
    | .ok trusted =>
      addConnection clientKey { clientAddress := clientIp, config := ref, trustedClient := trusted }
      return .ok ()

/-- `upstream_sync_ && upstream_sync_->isSynced()`. The answer no decides the
stratum. -/
def isSynced : Work Bool :=
  .atomic (fun w => w.server.upstreamSync.bind fun m => if m.synced then none else some .stratum)
    fun w => (w.server.upstreamSync.any (·.synced), w)

/-- `upstream_sync_->effectiveStratum(configured)`. -/
def effectiveStratum (configured : UInt8) : Work UInt8 :=
  onServer (some .stratum) fun s =>
    ((s.upstreamSync.map (·.effectiveStratum configured)).getD configured, s)

/-- The stratum of the reply (server.cpp:483–487). -/
def responseStratum : Work UInt8 := do
  let stratum ← config (·.stratum)
  if ← isSynced then effectiveStratum (← config (·.stratum)) else return stratum

/-- server.cpp:926–942. -/
def effectiveReferenceId : Work Str := do
  if ← config (!·.enableReferenceClockSupport) then config (·.referenceId)
  else
    let source ← config fun c => lower c.referenceClockSource
    if source = lit "gps" then return lit "GPS "
    else if source = lit "atomic" then return lit "ATOM"
    else if source = lit "hardware" then return lit "HARD"
    else do
      if ← config (·.referenceId.isEmpty) then return lit "LOCL" else config (·.referenceId)

/-- server.cpp:912–924. The stratum is read for the test, read for the sum, and
written, through the pointer each time. -/
def applyDynamicStratum : Work Unit := do
  if ← config (·.enableDynamicStratumAdjustment) then
    if ← onServer none fun s => (s.stats.totalRequests > 100
        && NtpServer.errorRatioHigh s.stats.totalErrors s.stats.totalRequests, s) then
      if ← config fun c => decide (c.stratum < 15) then
        let stratum ← config (·.stratum)
        onServer (some .config) fun s => ((), s.putStratum (stratum + 1))
      else return ()
    else return ()
  else return ()

/-- server.cpp:493–502. -/
def applyClockOffset (response : NtpPacket) : Work NtpPacket :=
  .atomic (fun w => w.server.upstreamSync.map fun _ => .offset)
    fun w => (SimpleNtpd.applyClockOffset w.server.upstreamSync response, w)

/-- server.cpp:891–893. -/
def fillHealthy : Work Unit := do
  if ← onServer none fun s => (s.healthyUpstreams.isEmpty, s) then
    onServer (some .config) fun s => ((), s.putHealthy s.currentConfig.upstreamServers)
  else return ()

/-- server.cpp:894–909. -/
def chooseUpstream (randomIndex : Nat) : Work Str := do
  let healthy ← onServer none fun s => (s.healthyUpstreams, s)
  if healthy.length = 1 then return healthy.headD []
  else match ← config (·.upstreamSelectionAlgorithm) with
    | .random => return healthy.getD (randomIndex % healthy.length) []
    | _ => onServer none fun s => (healthy.getD (s.upstreamRrIndex.toNat % healthy.length) [],
        { s with upstreamRrIndex := s.upstreamRrIndex + 1 })

/-- server.cpp:887–910. -/
def selectUpstreamServer (randomIndex : Nat) : Work Str := do
  if ← config (·.upstreamServers.isEmpty) then return []
  else
    fillHealthy
    chooseUpstream randomIndex

/-- server.cpp:483–507. -/
def buildReply (request : NtpPacket) (env : PacketEnv) : Work (Bytes × Str) := do
  let stratum ← responseStratum
  let referenceId ← effectiveReferenceId
  let response := NtpPacket.createServerResponse request stratum referenceId
    env.receiveTime env.transmitTime env.referenceTime
  applyDynamicStratum
  let response ← applyClockOffset response
  let selected ← selectUpstreamServer env.randomIndex
  return (response.serializeToData, selected)

/-- server.cpp:512–525. -/
def recordSendFailure (selected : Str) : Work Unit := do
  update (·.countError)
  if ← config (·.enableUpstreamFailover) then
    if selected.isEmpty then return ()
    else update fun s => { s with healthyUpstreams := s.healthyUpstreams.erase selected }
  else return ()

/-- server.cpp:475–543. -/
def finishPacket (accepted : Bool) (data : Bytes) (env : PacketEnv) :
    Work (Verdict × Option Bytes) := do
  if accepted then
    match NtpPacket.new.parseFromData data with
    | (false, _) =>
      update (·.countError)
      return (.refused, none)
    | (true, request) =>
      let (reply, selected) ← buildReply request env
      if env.sendOk then
        update fun s => (s.recordReply data.length).recordTime env
        return (.answered, some reply)
      else
        recordSendFailure selected
        return (.answered, some reply)
  else
    update fun s => s.countError.recordTime env
    return (.refused, none)

/-- server.cpp:456–462. -/
def isDegraded (clientIp : Str) (now : SteadyTime) : Work Bool := do
  if ← isDdosAnomaly clientIp now then config (·.enableGracefulDegradation) else return false

/-- server.cpp:464–543. `handlePacket` reads through the pointer of the connection
only, which never changes: it is one step. -/
def serve (evp : Evp) (data : Bytes) (client : SockAddr) (env : PacketEnv) :
    Work (Except Exn (Verdict × Option Bytes)) := do
  match ← getOrCreateConnection (inetNtop client.ip) client.port with
  | .error e => return .error e
  | .ok _ =>
    let accepted ← onServer none fun s =>
      s.handleOn NtpServer.captured evp
        (NtpServer.connectionKey (inetNtop client.ip) client.port) env.requestTime data
    return .ok (← finishPacket accepted data env)

/-- `processPacket` (server.cpp:435–544). -/
def processPacket (evp : Evp) (data : Bytes) (client : SockAddr) (env : PacketEnv) :
    Work (Except Exn (Verdict × Option Bytes)) := do
  match ← isClientAllowed (inetNtop client.ip) with
  | .error e => return .error e
  | .ok false =>
    update (·.countError)
    return .ok (.aclDenied, none)
  | .ok true =>
    if ← isRateLimitExceeded (inetNtop client.ip) env.rateTime then
      update (·.countError)
      return .ok (.rateLimited, none)
    else if ← isDegraded (inetNtop client.ip) env.ddosTime then
      update (·.countError)
      return .ok (.ddosAnomaly, none)
    else serve evp data client env

/-! ## Alone -/

/-- Alone, the program ends as a function on servers does. -/
def Ends (p : Work (Except Exn α)) (w : Shared) : Except Exn (α × NtpServer) → Prop
  | .error e => ∃ w', p.alone w = some (.error e, w')
  | .ok (a, s) => p.alone w = some (.ok a, { w with server := s })

theorem Ends.of_alone {p q : Work (Except Exn α)} {w : Shared} {s : NtpServer}
    {r : Except Exn (α × NtpServer)} (h : Ends q { w with server := s } r)
    (halone : p.alone w = q.alone { w with server := s }) : Ends p w r := by
  cases r with
  | error e =>
    obtain ⟨w', hw'⟩ := h
    exact ⟨w', halone.trans hw'⟩
  | ok r => exact halone.trans h

section Alone

variable (w : Shared)

@[simp] theorem alone_onServer (access : Option Access) (f : NtpServer → α × NtpServer) :
    (onServer access f).alone w = some ((f w.server).1, { w with server := (f w.server).2 }) := rfl

@[simp] theorem alone_config (f : NtpConfig → α) :
    (config f).alone w = some (f w.server.currentConfig, w) := rfl

@[simp] theorem alone_update (f : NtpServer → NtpServer) :
    (update f).alone w = some ((), { w with server := f w.server }) := rfl

theorem walkClients_alone (clientIp : Str) :
    (walkClients clientIp).alone w
      = some (SimpleNtpd.walkClients w.server.currentConfig clientIp, w) := by
  unfold walkClients SimpleNtpd.walkClients
  simp only [Steps.alone_bind, alone_config, Option.bind_some]
  cases anyCidr clientIp w.server.currentConfig.deniedClients with
  | error e => rfl
  | ok denied =>
    cases denied with
    | true => rfl
    | false =>
      simp only [Steps.alone_bind, alone_config, Option.bind_some]
      cases w.server.currentConfig.allowedClients.isEmpty <;> rfl

theorem isClientAllowed_alone (clientIp : Str) :
    (isClientAllowed clientIp).alone w
      = some (SimpleNtpd.isClientAllowed w.server.currentConfig clientIp, w) := by
  rw [isClientAllowed_eq]
  unfold isClientAllowed
  simp only [Steps.alone_bind, alone_config, Option.bind_some]
  cases w.server.currentConfig.enableAcl with
  | true => exact walkClients_alone w clientIp
  | false =>
    simp only [Bool.false_eq_true, if_false, Steps.alone_bind, alone_config, Option.bind_some]
    cases w.server.currentConfig.restrictQueries with
    | true => exact walkClients_alone w clientIp
    | false => rfl

theorem isRateLimitExceeded_alone (clientIp : Str) (now : SteadyTime) :
    (isRateLimitExceeded clientIp now).alone w
      = some ((w.server.isRateLimitExceeded clientIp now).1,
        { w with server := (w.server.isRateLimitExceeded clientIp now).2 }) := by
  unfold isRateLimitExceeded NtpServer.isRateLimitExceeded
  simp only [Steps.alone_bind, alone_config, Option.bind_some]
  cases w.server.currentConfig.enableRateLimiting <;> rfl

theorem isDdosAnomaly_alone (clientIp : Str) (now : SteadyTime) :
    (isDdosAnomaly clientIp now).alone w
      = some ((w.server.isDdosAnomaly clientIp now).1,
        { w with server := (w.server.isDdosAnomaly clientIp now).2 }) := by
  unfold isDdosAnomaly NtpServer.isDdosAnomaly
  simp only [Steps.alone_bind, alone_config, Option.bind_some]
  cases w.server.currentConfig.enableDdosProtection <;> rfl

theorem findConnection_alone (hfree : w.connectionsLocked = false) (clientKey : Str) :
    (findConnection clientKey).alone w = some (w.server.activeConnections.lookup clientKey,
      { w with connectionsLocked := (w.server.activeConnections.lookup clientKey).isNone }) := by
  unfold findConnection
  rw [Steps.alone, hfree]
  rfl

theorem addConnection_alone (clientKey : Str) (conn : NtpConnection) :
    (addConnection clientKey conn).alone w
      = some ((), { server := w.server.putNew clientKey conn, connectionsLocked := false }) := rfl

/-- With the mutex free there is the connection in the end, and the mutex is free. -/
theorem getOrCreateConnection_alone (hfree : w.connectionsLocked = false) (clientIp : Str)
    (clientPort : UInt16) :
    Ends (getOrCreateConnection clientIp clientPort) w
      ((w.server.getOrCreateConnection clientIp clientPort).map fun s => ((), s)) := by
  rw [NtpServer.getOrCreateConnection_eq]
  unfold getOrCreateConnection
  cases hfound : w.server.activeConnections.lookup
    (NtpServer.connectionKey clientIp clientPort) with
  | some conn =>
    show Steps.alone _ w = some (Except.ok (), w)
    rw [Steps.alone_bind, findConnection_alone w hfree, Option.bind_some, hfound]
    show some (Except.ok (), { w with connectionsLocked := false }) = _
    rw [← hfree]
  | none =>
    cases hallowed : SimpleNtpd.isClientAllowed w.server.currentConfig clientIp with
    | error e =>
      refine ⟨{ w with connectionsLocked := true }, ?_⟩
      simp only [Steps.alone_bind, findConnection_alone w hfree, hfound, alone_onServer,
        Option.bind_some, isClientAllowed_alone, hallowed]
      rfl
    | ok trusted =>
      show Steps.alone _ w = some (Except.ok (), { w with server := w.server.putNew _ _ })
      simp only [Steps.alone_bind, findConnection_alone w hfree, hfound, alone_onServer,
        Option.bind_some, isClientAllowed_alone, hallowed, addConnection_alone, Steps.alone_pure]
      rw [hfree]

theorem responseStratum_alone :
    responseStratum.alone w = some (w.server.responseStratum, w) := by
  unfold responseStratum NtpServer.responseStratum
  simp only [Steps.alone_bind, alone_config, Option.bind_some]
  unfold isSynced
  rw [Steps.alone_atomic, Option.bind_some]
  cases hsync : w.server.upstreamSync with
  | none => rfl
  | some m =>
    show Steps.alone (if m.synced = true then _ else _) w = some (if m.synced = true then _ else _, w)
    cases m.synced with
    | false => rfl
    | true =>
      simp only [if_true, Steps.alone_bind, alone_config, Option.bind_some]
      unfold effectiveStratum
      rw [alone_onServer, hsync]
      rfl

theorem effectiveReferenceId_alone :
    effectiveReferenceId.alone w
      = some (SimpleNtpd.effectiveReferenceId w.server.currentConfig, w) := by
  unfold effectiveReferenceId SimpleNtpd.effectiveReferenceId
  simp only [Steps.alone_bind, alone_config, Option.bind_some]
  cases w.server.currentConfig.enableReferenceClockSupport with
  | false => rfl
  | true =>
    simp only [Bool.not_true, Bool.false_eq_true, if_false, Steps.alone_bind, alone_config,
      Option.bind_some]
    split
    · rfl
    · split
      · rfl
      · split
        · rfl
        · rw [Steps.alone_bind, alone_config, Option.bind_some]
          cases w.server.currentConfig.referenceId.isEmpty <;> rfl

theorem applyDynamicStratum_alone :
    applyDynamicStratum.alone w = some ((), { w with server := w.server.applyDynamicStratum }) := by
  rw [NtpServer.applyDynamicStratum_eq]
  unfold applyDynamicStratum
  simp only [Steps.alone_bind, alone_config, Option.bind_some]
  cases w.server.currentConfig.enableDynamicStratumAdjustment with
  | false => rfl
  | true =>
    simp only [if_true, Steps.alone_bind, alone_onServer, Option.bind_some, Bool.true_and]
    cases decide (w.server.stats.totalRequests > 100) &&
      NtpServer.errorRatioHigh w.server.stats.totalErrors w.server.stats.totalRequests with
    | false => rfl
    | true =>
      simp only [if_true, Steps.alone_bind, alone_config, Option.bind_some, Bool.true_and]
      cases decide (w.server.currentConfig.stratum < 15) <;> rfl

theorem fillHealthy_alone :
    fillHealthy.alone w = some ((), { w with
      server := w.server.putHealthy (if w.server.healthyUpstreams.isEmpty then
        w.server.currentConfig.upstreamServers else w.server.healthyUpstreams) }) := by
  unfold fillHealthy
  simp only [Steps.alone_bind, alone_onServer, Option.bind_some]
  cases w.server.healthyUpstreams.isEmpty <;> rfl

theorem chooseUpstream_alone (randomIndex : Nat) :
    (chooseUpstream randomIndex).alone w
      = some ((w.server.chooseUpstream randomIndex).1,
        { w with server := (w.server.chooseUpstream randomIndex).2 }) := by
  unfold chooseUpstream NtpServer.chooseUpstream
  simp only [Steps.alone_bind, alone_onServer, Option.bind_some]
  split
  · rfl
  · rw [Steps.alone_bind, alone_config, Option.bind_some]
    dsimp only
    cases w.server.currentConfig.upstreamSelectionAlgorithm <;> rfl

theorem selectUpstreamServer_alone (randomIndex : Nat) :
    (selectUpstreamServer randomIndex).alone w
      = some ((w.server.selectUpstreamServer randomIndex).1,
        { w with server := (w.server.selectUpstreamServer randomIndex).2 }) := by
  rw [NtpServer.selectUpstreamServer_eq]
  unfold selectUpstreamServer
  simp only [Steps.alone_bind, alone_config, Option.bind_some]
  cases w.server.currentConfig.upstreamServers.isEmpty with
  | true => rfl
  | false =>
    simp only [Bool.false_eq_true, if_false, Steps.alone_bind, fillHealthy_alone,
      Option.bind_some, chooseUpstream_alone]

/-- The reply alone, and what the worker goes on with. -/
theorem buildReply_alone (request : NtpPacket) (env : PacketEnv) :
    (buildReply request env).alone w
      = some (((w.server.buildReply request env).1, (w.server.buildReply request env).2.1),
        { w with server := (w.server.buildReply request env).2.2 }) := by
  unfold buildReply NtpServer.buildReply applyClockOffset
  simp only [Steps.alone_bind, Option.bind_some, responseStratum_alone,
    effectiveReferenceId_alone, applyDynamicStratum_alone, Steps.alone_atomic,
    selectUpstreamServer_alone, Steps.alone_pure]

theorem recordSendFailure_alone (selected : Str) :
    (recordSendFailure selected).alone w
      = some ((), { w with server := w.server.recordSendFailure selected }) := by
  unfold recordSendFailure NtpServer.recordSendFailure
  simp only [Steps.alone_bind, alone_update, alone_config, Option.bind_some]
  cases w.server.countError.currentConfig.enableUpstreamFailover with
  | false => rfl
  | true => cases selected.isEmpty <;> rfl

theorem finishPacket_alone (accepted : Bool) (data : Bytes) (env : PacketEnv) :
    (finishPacket accepted data env).alone w
      = some (((w.server.finishPacket accepted data env).verdict,
          (w.server.finishPacket accepted data env).reply),
        { w with server := (w.server.finishPacket accepted data env).server }) := by
  unfold finishPacket NtpServer.finishPacket
  cases accepted with
  | false => rfl
  | true =>
    simp only [if_true]
    obtain ⟨parsed, request⟩ := NtpPacket.new.parseFromData data
    cases parsed with
    | false => rfl
    | true =>
      simp only [Steps.alone_bind, buildReply_alone, Option.bind_some]
      cases env.sendOk with
      | true => rfl
      | false =>
        simp only [Bool.false_eq_true, if_false, Steps.alone_bind, recordSendFailure_alone,
          Option.bind_some, Steps.alone_pure]

theorem isDegraded_alone (clientIp : Str) (now : SteadyTime) :
    (isDegraded clientIp now).alone w
      = some ((w.server.isDdosAnomaly clientIp now).1 &&
          (w.server.isDdosAnomaly clientIp now).2.currentConfig.enableGracefulDegradation,
        { w with server := (w.server.isDdosAnomaly clientIp now).2 }) := by
  unfold isDegraded
  rw [Steps.alone_bind, isDdosAnomaly_alone, Option.bind_some]
  dsimp only
  cases (w.server.isDdosAnomaly clientIp now).1 <;> rfl

theorem serve_alone (hfree : w.connectionsLocked = false) (evp : Evp) (data : Bytes)
    (client : SockAddr) (env : PacketEnv) :
    Ends (serve evp data client env) w
      ((w.server.serveWith NtpServer.captured evp data client env).map fun p =>
        ((p.verdict, p.reply), p.server)) := by
  have hconnect := getOrCreateConnection_alone w hfree (inetNtop client.ip) client.port
  unfold serve NtpServer.serveWith
  cases hget : w.server.getOrCreateConnection (inetNtop client.ip) client.port with
  | error e =>
    rw [hget] at hconnect
    obtain ⟨w', hw'⟩ := hconnect
    refine ⟨w', ?_⟩
    rw [Steps.alone_bind, hw']
    rfl
  | ok s =>
    rw [hget] at hconnect
    have hw : Steps.alone _ w = some (Except.ok (), { w with server := s }) := hconnect
    show Steps.alone _ w = _
    simp only [Steps.alone_bind, hw, Option.bind_some, alone_onServer, finishPacket_alone,
      Steps.alone_pure]

/-- **Alone, the program is `processPacket`.** -/
theorem processPacket_alone (hfree : w.connectionsLocked = false) (evp : Evp) (data : Bytes)
    (client : SockAddr) (env : PacketEnv) :
    Ends (processPacket evp data client env) w
      ((w.server.processPacket evp data client env).map fun p => ((p.verdict, p.reply), p.server))
    := by
  rw [NtpServer.processPacket, NtpServer.processPacketWith_eq]
  unfold processPacket
  cases hallowed : SimpleNtpd.isClientAllowed w.server.currentConfig (inetNtop client.ip) with
  | error e =>
    refine ⟨w, ?_⟩
    simp only [Steps.alone_bind, isClientAllowed_alone, hallowed, Option.bind_some,
      Steps.alone_pure]
  | ok allowed =>
    cases allowed with
    | false =>
      show Steps.alone _ w = _
      simp only [Steps.alone_bind, isClientAllowed_alone, hallowed, Option.bind_some,
        alone_update, Steps.alone_pure]
    | true =>
      show Ends _ w (Except.map _ (if _ then _ else _))
      have hcheck : ∀ s f, Steps.alone (isClientAllowed (inetNtop client.ip) >>= f) w
          = Steps.alone (f (.ok true) : Work s) w := by
        intro s f
        rw [Steps.alone_bind, isClientAllowed_alone, hallowed]
        rfl
      split
      · rename_i hexceeded
        show Steps.alone _ w = _
        rw [hcheck]
        simp only [Steps.alone_bind, Option.bind_some, isRateLimitExceeded_alone, hexceeded,
          if_true, alone_update, Steps.alone_pure]
      · rename_i hpassed
        split
        · rename_i hdegraded
          show Steps.alone _ w = _
          rw [hcheck]
          simp only [Steps.alone_bind, Option.bind_some, isRateLimitExceeded_alone, hpassed,
            Bool.false_eq_true, if_false, isDegraded_alone, hdegraded, if_true, alone_update,
            Steps.alone_pure]
        · rename_i hserved
          have hserve := fun s => serve_alone { w with server := s } hfree evp data client env
          refine (hserve _).of_alone ?_
          rw [hcheck]
          simp only [Steps.alone_bind, Option.bind_some, isRateLimitExceeded_alone, hpassed,
            Bool.false_eq_true, if_false, isDegraded_alone, hserved]

end Alone

/-! ## Programs that only read -/

section Reads

variable {P : Shared → Shared → Prop}

theorem keeps_ite {c : Prop} [Decidable c] {p q : Work α} (hp : p.Keeps P) (hq : q.Keeps P) :
    (if c then p else q).Keeps P := by
  split
  · exact hp
  · exact hq

variable [Std.Refl P]

theorem keeps_config (f : NtpConfig → α) : (config f).Keeps P :=
  Steps.keeps_atomic fun w => Std.Refl.refl w

theorem walkClients_keeps (clientIp : Str) : (walkClients clientIp).Keeps P := by
  refine (keeps_config _).bind fun denied => ?_
  rcases anyCidr clientIp denied with e | denied
  · exact Steps.keeps_pure _
  · cases denied with
    | true => exact Steps.keeps_pure _
    | false =>
      refine (keeps_config _).bind fun _ => keeps_ite ?_ ?_
      · exact (keeps_config _).bind fun _ => Steps.keeps_pure _
      · exact (keeps_config _).bind fun _ => Steps.keeps_pure _

theorem isClientAllowed_keeps (clientIp : Str) : (isClientAllowed clientIp).Keeps P := by
  refine (keeps_config _).bind fun _ => keeps_ite (walkClients_keeps _) ?_
  exact (keeps_config _).bind fun _ => keeps_ite (walkClients_keeps _) (Steps.keeps_pure _)

theorem responseStratum_keeps : responseStratum.Keeps P := by
  have hsynced : isSynced.Keeps P := fun w => ⟨Std.Refl.refl w, trivial⟩
  refine (keeps_config _).bind fun _ => hsynced.bind fun _ => keeps_ite ?_ (Steps.keeps_pure _)
  exact (keeps_config _).bind fun _ => Steps.keeps_atomic fun w => Std.Refl.refl w

theorem effectiveReferenceId_keeps : effectiveReferenceId.Keeps P := by
  refine (keeps_config _).bind fun _ => keeps_ite (keeps_config _) ?_
  refine (keeps_config _).bind fun _ => keeps_ite (Steps.keeps_pure _) ?_
  refine keeps_ite (Steps.keeps_pure _) (keeps_ite (Steps.keeps_pure _) ?_)
  exact (keeps_config _).bind fun _ => keeps_ite (Steps.keeps_pure _) (keeps_config _)

end Reads

/-! ## No step of a worker moves the pointer -/

/-- The pointer `config_` and the number of objects stay. -/
def SamePointers (w w' : Shared) : Prop :=
  w'.server.config = w.server.config ∧ w'.server.nextConfig = w.server.nextConfig

instance instReflSamePointers : Std.Refl SamePointers := ⟨fun _ => ⟨rfl, rfl⟩⟩

theorem keeps_onServer {access : Option Access} {f : NtpServer → α × NtpServer}
    (h : ∀ s, (f s).2.config = s.config ∧ (f s).2.nextConfig = s.nextConfig) :
    (onServer access f).Keeps SamePointers :=
  Steps.keeps_atomic fun w => h w.server

theorem keeps_update {f : NtpServer → NtpServer}
    (h : ∀ s, (f s).config = s.config ∧ (f s).nextConfig = s.nextConfig) :
    (update f).Keeps SamePointers :=
  keeps_onServer h

theorem isDegraded_keeps (clientIp : Str) (now : SteadyTime) :
    (isDegraded clientIp now).Keeps SamePointers := by
  have hanomaly : (isDdosAnomaly clientIp now).Keeps SamePointers :=
    (keeps_config _).bind fun _ => keeps_ite (keeps_onServer fun _ => ⟨rfl, rfl⟩)
      (Steps.keeps_pure _)
  exact hanomaly.bind fun _ => keeps_ite (keeps_config _) (Steps.keeps_pure _)

theorem getOrCreateConnection_keeps (clientIp : Str) (clientPort : UInt16) :
    (getOrCreateConnection clientIp clientPort).Keeps SamePointers := by
  have hfind : ∀ clientKey, (findConnection clientKey).Keeps SamePointers :=
    fun _ _ => ⟨⟨rfl, rfl⟩, trivial⟩
  refine (hfind _).bind fun found => ?_
  cases found with
  | some conn => exact Steps.keeps_pure _
  | none =>
    refine (keeps_onServer fun _ => ⟨rfl, rfl⟩).bind fun ref =>
      (isClientAllowed_keeps _).bind fun allowed => ?_
    cases allowed with
    | error e => exact Steps.keeps_pure _
    | ok trusted => exact Steps.Keeps.bind (fun _ => ⟨⟨rfl, rfl⟩, trivial⟩) fun _ => Steps.keeps_pure _

theorem applyDynamicStratum_keeps : applyDynamicStratum.Keeps SamePointers := by
  refine (keeps_config _).bind fun _ => keeps_ite ?_ (Steps.keeps_pure _)
  refine (keeps_onServer fun _ => ⟨rfl, rfl⟩).bind fun _ => keeps_ite ?_ (Steps.keeps_pure _)
  refine (keeps_config _).bind fun _ => keeps_ite ?_ (Steps.keeps_pure _)
  exact (keeps_config _).bind fun _ => keeps_onServer fun _ => ⟨rfl, rfl⟩

theorem selectUpstreamServer_keeps (randomIndex : Nat) :
    (selectUpstreamServer randomIndex).Keeps SamePointers := by
  refine (keeps_config _).bind fun _ => keeps_ite (Steps.keeps_pure _) ?_
  have hfill : fillHealthy.Keeps SamePointers :=
    (keeps_onServer fun _ => ⟨rfl, rfl⟩).bind fun _ =>
      keeps_ite (keeps_onServer fun _ => ⟨rfl, rfl⟩) (Steps.keeps_pure _)
  refine hfill.bind fun _ => (keeps_onServer fun _ => ⟨rfl, rfl⟩).bind fun _ =>
    keeps_ite (Steps.keeps_pure _) ?_
  refine (keeps_config _).bind fun algorithm => ?_
  cases algorithm <;> first | exact Steps.keeps_pure _ | exact keeps_onServer fun _ => ⟨rfl, rfl⟩

theorem buildReply_keeps (request : NtpPacket) (env : PacketEnv) :
    (buildReply request env).Keeps SamePointers := by
  have hoffset : ∀ response, (applyClockOffset response).Keeps SamePointers :=
    fun _ _ => ⟨⟨rfl, rfl⟩, trivial⟩
  refine responseStratum_keeps.bind fun _ => effectiveReferenceId_keeps.bind fun _ =>
    applyDynamicStratum_keeps.bind fun _ => (hoffset _).bind fun _ => ?_
  exact (selectUpstreamServer_keeps _).bind fun _ => Steps.keeps_pure _

theorem finishPacket_keeps (accepted : Bool) (data : Bytes) (env : PacketEnv) :
    (finishPacket accepted data env).Keeps SamePointers := by
  refine keeps_ite ?_ ((keeps_update fun _ => ⟨rfl, rfl⟩).bind fun _ => Steps.keeps_pure _)
  obtain ⟨parsed, request⟩ := NtpPacket.new.parseFromData data
  cases parsed with
  | false => exact (keeps_update fun _ => ⟨rfl, rfl⟩).bind fun _ => Steps.keeps_pure _
  | true =>
    refine (buildReply_keeps request env).bind fun _ => keeps_ite ?_ ?_
    · exact (keeps_update fun _ => ⟨rfl, rfl⟩).bind fun _ => Steps.keeps_pure _
    · refine Steps.Keeps.bind ?_ fun _ => Steps.keeps_pure _
      refine (keeps_update fun _ => ⟨rfl, rfl⟩).bind fun _ => (keeps_config _).bind fun _ =>
        keeps_ite ?_ (Steps.keeps_pure _)
      exact keeps_ite (Steps.keeps_pure _) (keeps_update fun _ => ⟨rfl, rfl⟩)

/-- Every step of `processPacket` leaves the pointer, whatever others do between. -/
theorem processPacket_keeps (evp : Evp) (data : Bytes) (client : SockAddr) (env : PacketEnv) :
    (processPacket evp data client env).Keeps SamePointers := by
  have hrefuse : ∀ r : Except Exn (Verdict × Option Bytes),
      (update (·.countError) >>= fun _ => pure r : Work _).Keeps SamePointers :=
    fun _ => (keeps_update fun _ => ⟨rfl, rfl⟩).bind fun _ => Steps.keeps_pure _
  have hserve : (serve evp data client env).Keeps SamePointers := by
    refine (getOrCreateConnection_keeps _ _).bind fun connected => ?_
    cases connected with
    | error e => exact Steps.keeps_pure _
    | ok _ =>
      refine (keeps_onServer fun s => ?_).bind fun _ =>
        (finishPacket_keeps _ _ _).bind fun _ => Steps.keeps_pure _
      have hsame := s.handleOn_same NtpServer.captured evp
        (NtpServer.connectionKey (inetNtop client.ip) client.port) env.requestTime data
      exact ⟨hsame.config, hsame.nextConfig⟩
  refine (isClientAllowed_keeps _).bind fun allowed => ?_
  rcases allowed with e | allowed
  · exact Steps.keeps_pure _
  · cases allowed with
    | false => exact hrefuse _
    | true =>
      have hrate : (isRateLimitExceeded (inetNtop client.ip) env.rateTime).Keeps SamePointers :=
        (keeps_config _).bind fun _ => keeps_ite (keeps_onServer fun _ => ⟨rfl, rfl⟩)
          (Steps.keeps_pure _)
      exact hrate.bind fun _ => keeps_ite (hrefuse _)
        ((isDegraded_keeps _ _).bind fun _ => keeps_ite (hrefuse _) hserve)

end Work

/-! ## The threads -/

/-- What happens to the pointer and the manager, and who reads them. -/
inductive LogEntry where
  /-- a datagram's work reads: the configuration object, or after how many commits -/
  | read (id : Nat) (access : Access) (version : Nat)
  /-- a reload has replaced the pointer -/
  | replaced
  /-- a round has committed an answer -/
  | committed
  deriving DecidableEq, Repr

/-- The shared state, the datagrams in work, and the log. -/
structure Threads where
  shared : Shared
  /-- the commits of the sync thread -/
  commits : Nat
  work : List (Work (Except Exn (Verdict × Option Bytes)))
  log : List LogEntry

/-- What happens next. -/
inductive Turn where
  /-- a worker receives a datagram -/
  | receive (data : Bytes) (client : SockAddr) (env : PacketEnv)
  /-- the next step on a datagram -/
  | worker (id : Nat)
  /-- a round of the sync thread, with its commit -/
  | sync (world : Nat → QueryEnv) (now : Int)
  /-- `reloadConfig` replaces the pointer by whatever it has loaded -/
  | replace (c : NtpConfig)
  | cleanup

namespace Threads

/-- What a step that reads finds. -/
def version (n : Threads) : Access → Nat
  | .config => n.shared.server.config
  | .connection ref => ref
  | .stratum => n.commits
  | .offset => n.commits

/-- The round commits an answer. -/
def commits? (s : NtpServer) (world : Nat → QueryEnv) (now : Int) : Bool :=
  s.upstreamSync.any fun m =>
    (m.syncOnce (s.configs s.syncConfig).upstreamServers world now).2.success

/-- One step. A step that waits for the mutex does nothing. An exception leaves the
worker and ends the process. -/
def step (evp : Evp) (n : Threads) : Turn → Except Exn Threads
  | .receive data client env =>
    .ok { n with work := n.work ++ [Work.processPacket evp data client env] }
  | .worker id =>
    match n.work[id]?.bind fun p => p.advance n.shared with
    | none => .ok n
    | some (.done (.error e), _, _) => .error e
    | some (p, shared, access) => .ok { n with
        shared := shared
        work := n.work.set id p
        log := n.log ++ (access.map fun a => .read id a (n.version a)).toList }
  | .sync world now =>
    let n' := { n with
      shared := { n.shared with server := n.shared.server.syncOnce world now } }
    if commits? n.shared.server world now then
      .ok { n' with commits := n.commits + 1, log := n.log ++ [.committed] }
    else .ok n'
  | .replace c => .ok { n with
      shared := { n.shared with server := Daemon.putInForce n.shared.server c }
      log := n.log ++ [.replaced] }
  | .cleanup =>
    if n.shared.connectionsLocked then .ok n
    else .ok { n with
      shared := { n.shared with server := n.shared.server.cleanupConnections } }

/-- A running server with no datagram in work. -/
def start (c : NtpConfig) (logger : LoggerSettings) : Threads where
  shared := { server := .start c logger }
  commits := 0
  work := []
  log := []

/-- The threads after some turns. -/
def run (evp : Evp) (n : Threads) (turns : List Turn) : Except Exn Threads :=
  turns.foldlM (step evp) n

/-- A turn of a worker leaves what is still to come of its datagram, were it alone. -/
theorem step_worker_alone {evp : Evp} {n n' : Threads} {id : Nat}
    {p : Work (Except Exn (Verdict × Option Bytes))} (hp : n.work[id]? = some p)
    (hstep : n.step evp (.worker id) = .ok n') :
    ∃ p', n'.work[id]? = some p' ∧ p'.alone n'.shared = p.alone n.shared := by
  rw [step, hp, Option.bind_some] at hstep
  split at hstep
  · cases hstep
    exact ⟨p, hp, rfl⟩
  · cases hstep
  · rename_i p' w access _ hadvance
    cases hstep
    refine ⟨p', ?_, (Steps.alone_of_advance hadvance).symm⟩
    exact List.getElem?_set_self (List.getElem?_eq_some_iff.mp hp).1

/-- **A worker that nobody interrupts serves a datagram as `processPacket` does.** -/
theorem processPacket_uninterrupted {evp : Evp} {n n' : Threads}
    (hfree : n.shared.connectionsLocked = false) {data : Bytes} {client : SockAddr}
    {env : PacketEnv} {steps : Nat}
    (hrun : n.run evp (.receive data client env :: List.replicate steps (.worker n.work.length))
      = .ok n')
    {verdict : Verdict} {reply : Option Bytes}
    (hdone : n'.work[n.work.length]? = some (.done (.ok (verdict, reply)))) :
    ∃ p, n.shared.server.processPacket evp data client env = .ok p ∧
      p.verdict = verdict ∧ p.reply = reply ∧ p.server = n'.shared.server := by
  let work := Work.processPacket evp data client env
  obtain ⟨m, hreceive, hrest⟩ := Components.foldlM_cons_iff.mp hrun
  cases hreceive
  have halone : ∃ p', n'.work[n.work.length]? = some p' ∧
      p'.alone n'.shared = work.alone n.shared := by
    refine Runs.foldlM_invariant (I := fun m => ∃ p', m.work[n.work.length]? = some p' ∧
      p'.alone m.shared = work.alone n.shared) ?_ ?_ hrest
    · rintro turn hturn m m' ⟨p, hp, hsame⟩ hstep
      rw [List.eq_of_mem_replicate hturn] at hstep
      obtain ⟨p', hp', hsame'⟩ := step_worker_alone hp hstep
      exact ⟨p', hp', hsame'.trans hsame⟩
    · exact ⟨work, List.getElem?_concat_length, rfl⟩
  obtain ⟨p', hp', hsame⟩ := halone
  rw [hdone] at hp'
  cases hp'
  -- the program has ended, so what it does alone is what it has done
  have hends := Work.processPacket_alone n.shared hfree evp data client env
  cases hpacket : n.shared.server.processPacket evp data client env with
  | error e =>
    rw [hpacket] at hends
    obtain ⟨w, hw⟩ := hends
    cases hsame.trans hw
  | ok p =>
    rw [hpacket] at hends
    have hw : some (Except.ok (verdict, reply), n'.shared)
        = some (Except.ok (p.verdict, p.reply), { n.shared with server := p.server }) :=
      hsame.trans hends
    simp only [Option.some.injEq, Prod.mk.injEq, Except.ok.injEq] at hw
    obtain ⟨⟨rfl, rfl⟩, hshared⟩ := hw
    exact ⟨p, rfl, rfl, rfl, by rw [hshared]⟩

end Threads

/-! ## Snapshots -/

namespace LogEntry

/-- The configuration object a datagram's work reads. -/
def configRead (id : Nat) : LogEntry → Option Nat
  | read i .config version => if i = id then some version else none
  | read i (.connection _) version => if i = id then some version else none
  | _ => none

/-- The configuration object a datagram's work reads through the connection it finds. -/
def connectionRead (id : Nat) : LogEntry → Option Nat
  | read i (.connection _) version => if i = id then some version else none
  | _ => none

/-- The commits before a datagram's work reads the manager. -/
def syncRead (id : Nat) : LogEntry → Option Nat
  | read i .stratum version => if i = id then some version else none
  | read i .offset version => if i = id then some version else none
  | _ => none

def isReplaced (e : LogEntry) : Bool := e == replaced

def isCommitted (e : LogEntry) : Bool := e == committed

end LogEntry

open Versions

/-- All configuration values of a datagram come from one object, and its stratum and
clock offset from one commit. -/
def OneSnapshot (id : Nat) (log : List LogEntry) : Prop :=
  SameVersion (LogEntry.configRead id) log ∧ SameVersion (LogEntry.syncRead id) log

/-- No replacement comes between two reads of the configuration for the datagram, and
no commit between the reads of its stratum and its offset. -/
def Undisturbed (id : Nat) (log : List LogEntry) : Prop :=
  ¬Torn (LogEntry.configRead id) LogEntry.isReplaced log ∧
    ¬Torn (LogEntry.syncRead id) LogEntry.isCommitted log

/-- A connection that is found for the datagram has been made since the last
replacement. -/
def FreshConnection (id : Nat) (log : List LogEntry) : Prop :=
  Stamped (LogEntry.connectionRead id) LogEntry.isReplaced 0 log

/-! ## What the log says -/

/-- The configuration object a datagram's work reads through `config_`. -/
def LogEntry.pointerRead (id : Nat) : LogEntry → Option Nat
  | read i .config version => if i = id then some version else none
  | _ => none

theorem LogEntry.configRead_cases {id : Nat} {e : LogEntry} {v : Nat}
    (h : e.configRead id = some v) :
    e.pointerRead id = some v ∨ e.connectionRead id = some v := by
  cases e with
  | read i access version =>
    cases access with
    | config => exact .inl h
    | connection ref => exact .inr h
    | stratum | offset => cases h
  | replaced | committed => cases h

/-- The pointer and the commits are counted by the log, and every read has found
what the log says. -/
structure Threads.Logged (n : Threads) : Prop where
  pointer : n.shared.server.config = n.log.countP LogEntry.isReplaced
  next : n.shared.server.nextConfig = n.shared.server.config + 1
  rounds : n.commits = n.log.countP LogEntry.isCommitted
  work : ∀ p ∈ n.work, p.Keeps Work.SamePointers
  pointerReads : ∀ id, Stamped (LogEntry.pointerRead id) LogEntry.isReplaced 0 n.log
  syncReads : ∀ id, Stamped (LogEntry.syncRead id) LogEntry.isCommitted 0 n.log

namespace Threads

variable {n n' : Threads} {evp : Evp}

theorem Logged.start (c : NtpConfig) (logger : LoggerSettings) : Logged (start c logger) where
  pointer := rfl
  next := rfl
  rounds := rfl
  work _ h := nomatch h
  pointerReads _ := trivial
  syncReads _ := trivial

/-- A step that leaves the pointer and is not logged. -/
theorem Logged.quiet (h : n.Logged) {w : Shared} (hw : Work.SamePointers n.shared w)
    {work : List (Work (Except Exn (Verdict × Option Bytes)))}
    (hwork : ∀ p ∈ work, p.Keeps Work.SamePointers) :
    Logged { n with shared := w, work := work } where
  pointer := hw.1.trans h.pointer
  next := by
    show w.server.nextConfig = w.server.config + 1
    rw [hw.1, hw.2]
    exact h.next
  rounds := h.rounds
  work := hwork
  pointerReads := h.pointerReads
  syncReads := h.syncReads

/-- A read is logged with what it finds. -/
theorem Logged.read (h : n.Logged) (id : Nat) (access : Access) :
    Logged { n with log := n.log ++ [.read id access (n.version access)] } where
  pointer := by
    rw [List.countP_append]
    exact h.pointer
  next := h.next
  rounds := by
    rw [List.countP_append]
    exact h.rounds
  work := h.work
  pointerReads i := by
    refine stamped_append_iff.mpr ⟨h.pointerReads i, fun v hv => ⟨?_, rfl⟩⟩
    cases access with
    | config =>
      obtain ⟨-, heq⟩ := Option.ite_none_right_eq_some.mp hv
      rw [Nat.zero_add, ← h.pointer]
      exact (Option.some.inj heq).symm
    | connection | stratum | offset => cases hv
  syncReads i := by
    refine stamped_append_iff.mpr ⟨h.syncReads i, fun v hv => ⟨?_, rfl⟩⟩
    cases access with
    | config | connection => cases hv
    | stratum | offset =>
      obtain ⟨-, heq⟩ := Option.ite_none_right_eq_some.mp hv
      rw [Nat.zero_add, ← h.rounds]
      exact (Option.some.inj heq).symm

/-- A commit is counted. -/
theorem Logged.commit (h : n.Logged) :
    Logged { n with commits := n.commits + 1, log := n.log ++ [.committed] } where
  pointer := by
    rw [List.countP_append]
    exact h.pointer
  next := h.next
  rounds := by
    rw [List.countP_append, ← h.rounds]
    rfl
  work := h.work
  pointerReads i := stamped_append_iff.mpr ⟨h.pointerReads i, fun _ hv => nomatch hv⟩
  syncReads i := stamped_append_iff.mpr ⟨h.syncReads i, fun _ hv => nomatch hv⟩

/-- The pointer moves on to the next object. -/
theorem Logged.replace (h : n.Logged) (c : NtpConfig) :
    Logged { n with
      shared := { n.shared with server := Daemon.putInForce n.shared.server c }
      log := n.log ++ [.replaced] } where
  pointer := by
    rw [List.countP_append, ← h.pointer]
    exact h.next
  next := rfl
  rounds := by
    rw [List.countP_append]
    exact h.rounds
  work := h.work
  pointerReads i := stamped_append_iff.mpr ⟨h.pointerReads i, fun _ hv => nomatch hv⟩
  syncReads i := stamped_append_iff.mpr ⟨h.syncReads i, fun _ hv => nomatch hv⟩

/-- **One turn.** -/
theorem Logged.step (h : n.Logged) {turn : Turn} (hstep : n.step evp turn = .ok n') :
    n'.Logged := by
  cases turn with
  | receive data client env =>
    cases hstep
    refine h.quiet ⟨rfl, rfl⟩ fun p hp => ?_
    rcases List.mem_append.mp hp with hp | hp
    · exact h.work p hp
    · rw [List.mem_singleton.mp hp]
      exact Work.processPacket_keeps evp data client env
  | worker id =>
    rw [Threads.step] at hstep
    split at hstep
    · cases hstep
      exact h
    · cases hstep
    · rename_i p w access _ hadvance
      cases hstep
      obtain ⟨q, hq, hstep⟩ := Option.bind_eq_some_iff.mp hadvance
      obtain ⟨hpointers, hkeeps⟩ := (h.work q (List.mem_of_getElem? hq)).advance hstep
      have hwork : ∀ r ∈ n.work.set id p, r.Keeps Work.SamePointers := by
        intro r hr
        rcases List.mem_or_eq_of_mem_set hr with hr | rfl
        · exact h.work r hr
        · exact hkeeps
      cases access with
      | none =>
        rw [Option.map_none, Option.toList_none, List.append_nil]
        exact h.quiet hpointers hwork
      | some a => exact (h.read id a).quiet hpointers hwork
  | sync world now =>
    have hquiet := h.quiet (w := { n.shared with server := n.shared.server.syncOnce world now })
      ⟨rfl, rfl⟩ h.work
    rw [Threads.step] at hstep
    split at hstep
    · cases hstep
      exact hquiet.commit
    · cases hstep
      exact hquiet
  | replace c =>
    cases hstep
    exact h.replace c
  | cleanup =>
    rw [Threads.step] at hstep
    split at hstep
    · cases hstep
      exact h
    · cases hstep
      have hsame := n.shared.server.cleanupConnections_same
      exact h.quiet ⟨hsame.config, hsame.nextConfig⟩ h.work

theorem Logged.run (h : n.Logged) {turns : List Turn} (hrun : n.run evp turns = .ok n') :
    n'.Logged :=
  Runs.foldlM_invariant (fun _ _ _ _ ht hstep => ht.step hstep) h hrun

end Threads

/-- **When a reply reflects one snapshot.** For every interleaving of any number of
workers with reloads, rounds and clean-ups, and every datagram whose connection, where
it finds one, is not from before a reload: its configuration values come from one
object and its stratum and clock offset from one commit exactly when no replacement
comes between two of its reads of the configuration and no commit between its reads of
the stratum and of the offset. -/
theorem one_snapshot_iff (evp : Evp) (c : NtpConfig) (logger : LoggerSettings)
    (turns : List Turn) (n : Threads) (hrun : (Threads.start c logger).run evp turns = .ok n)
    (id : Nat) (hconnection : FreshConnection id n.log) :
    OneSnapshot id n.log ↔ Undisturbed id n.log := by
  have hlogged := (Threads.Logged.start c logger).run hrun
  have hconfig : Stamped (LogEntry.configRead id) LogEntry.isReplaced 0 n.log :=
    (hlogged.pointerReads id).of_or hconnection fun _ _ => LogEntry.configRead_cases
  exact and_congr hconfig.sameVersion_iff (hlogged.syncReads id).sameVersion_iff

/-- A worker receives a request, and is alone for a number of steps. -/
def receiveAndWork (steps : Nat) : List Turn :=
  .receive exampleRequest exampleClient exampleEnv :: List.replicate steps (.worker 0)

/-- A server with an upstream server, before its first round. -/
def followingThreads : Threads :=
  .start followingConfig (NtpServer.loggerSettings followingConfig)

/-- A request that is answered without anybody in between. -/
theorem one_snapshot_example :
    ∃ n, followingThreads.run (fun _ _ => none) (receiveAndWork 20) = .ok n ∧
      (n.log.filterMap (LogEntry.syncRead 0)).length = 2 ∧
      (OneSnapshot 0 n.log ↔ Undisturbed 0 n.log) := by
  have hlog : ((followingThreads.run (fun _ _ => none) (receiveAndWork 20)).map fun n =>
      ((n.log.filterMap (LogEntry.syncRead 0)).length,
        n.log.all fun e => (e.connectionRead 0).isNone)).toOption = some (2, true) := by
    decide +kernel
  obtain ⟨n, hrun, hboth⟩ := Runs.exists_of_toOption_map hlog
  obtain ⟨hreads, hnone⟩ := Prod.mk.inj hboth
  refine ⟨n, hrun, hreads, one_snapshot_iff _ _ _ _ n hrun 0 (stamped_of_none ?_)⟩
  exact fun e he => Option.isNone_iff_eq_none.mp (List.all_eq_true.mp hnone e he)

/-- The first round commits its answer when the stratum of the reply has been read. -/
def commitBetween : List Turn :=
  receiveAndWork 14 ++ .sync exampleRound.world 0 :: List.replicate 20 (.worker 0)

/-- The reply has the configured stratum, from before the commit, and its offset. -/
theorem torn_reply :
    ¬ ∀ (evp : Evp) (c : NtpConfig) (logger : LoggerSettings) (turns : List Turn) (n : Threads),
      (Threads.start c logger).run evp turns = .ok n → ∀ id, OneSnapshot id n.log := by
  intro h
  have hlog : ((followingThreads.run (fun _ _ => none) commitBetween).map fun n =>
      n.log.filterMap (LogEntry.syncRead 0)).toOption = some [0, 1] := by
    decide +kernel
  obtain ⟨n, hrun, hreads⟩ := Runs.exists_of_toOption_map hlog
  have hmem : ∀ v ∈ [0, 1], ∃ e ∈ n.log, e.syncRead 0 = some v := by
    intro v hv
    rw [← hreads] at hv
    exact List.mem_filterMap.mp hv
  obtain ⟨e, he, hv⟩ := hmem 0 List.mem_cons_self
  obtain ⟨e', he', hv'⟩ := hmem 1 (List.mem_cons_of_mem 0 List.mem_cons_self)
  exact Nat.zero_ne_one ((h _ _ _ _ n hrun 0).2 e he e' he' 0 1 hv hv')

end SimpleNtpd
