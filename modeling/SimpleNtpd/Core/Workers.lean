import SimpleNtpd.Core.Frame

/-!
# Worker threads

Several worker threads run `processPacket` at once (workerThreadFunction), each
on a datagram of its own. Others come in between the sections under a mutex:
the connection limiter and the anomaly detector (`security_mutex_`), the table
of connections (`connections_mutex_`), the request limiter (the connection's
`rate_limit_mutex_`).

So the processing of a datagram is cut at these places. A `Stage` says where it
stands, `Task.advance` is what happens until the next stage, and the steps of
any number of datagrams, the sync thread's rounds and clean-ups come in any
order. There is no reload here: it would replace the configuration under a
datagram in work.

The last section is more than one in the source: it asks the sync manager three
times, and changes the server's counters without a lock. The program with each
of its questions is in `Snapshots`.

A datagram alone goes through `processPacket` (`run_alone`).
-/

namespace SimpleNtpd

open Cpp

/-! ## Datagrams in work -/

/-- Where the processing of a datagram stands: what comes next. -/
inductive Stage where
  /-- the access lists -/
  | received
  /-- the connection limiter -/
  | allowed
  /-- the anomaly detector -/
  | admitted
  /-- the table of connections -/
  | screened
  /-- the checks of `handlePacket` -/
  | connected
  /-- the request limiter, for a minute read before its section -/
  | timed (packet : NtpPacket) (bucket : Nat)
  /-- the authentication -/
  | limited (packet : NtpPacket)
  /-- the reply -/
  | accepted
  | done (verdict : Verdict)
  deriving DecidableEq, Repr

/-- A datagram of a client, told from the client's others by a number. -/
structure TaskId where
  client : SockAddr
  number : Nat
  deriving DecidableEq, Repr

/-- A datagram in work. -/
structure Task where
  data : Bytes
  stage : Stage := .received
  /-- the reading of the clock with which the connection limiter let it pass -/
  admittedAt : SteadyTime := 0

/-- What the limiters decide and which datagrams are answered, for the record. -/
inductive Observation where
  /-- `isRateLimitExceeded` read the clock and let the datagram pass, or not -/
  | connection (id : TaskId) (now : SteadyTime) (passed : Bool)
  /-- the request limiter of the connection counted the datagram in a minute -/
  | request (id : TaskId) (bucket : Nat) (passed : Bool)
  /-- a reply was handed to `sendto` -/
  | reply (id : TaskId) (admittedAt : SteadyTime)
  deriving DecidableEq, Repr

/-- The datagram an observation is about. -/
def Observation.id : Observation → TaskId
  | connection id _ _ => id
  | request id _ _ => id
  | reply id _ => id

/-- The result of a step on a datagram. -/
structure Advanced where
  server : NtpServer
  task : Task
  observed : Option Observation := none
  /-- what was handed to `sendto` -/
  reply : Option Bytes := none

/-- The stage changes. -/
def Task.goto (t : Task) (stage : Stage) : Task := { t with stage := stage }

namespace NtpServer

/-- The client's connection. -/
def connectionOf (s : NtpServer) (client : SockAddr) : Option NtpConnection :=
  s.activeConnections.lookup (connectionKey (inetNtop client.ip) client.port)

/-- The client's connection after one of its methods. -/
def putConnection (s : NtpServer) (client : SockAddr) (conn : NtpConnection) : NtpServer :=
  { s with activeConnections :=
      s.activeConnections.insert (connectionKey (inetNtop client.ip) client.port) conn }

@[simp] theorem connectionOf_putConnection (s : NtpServer) (client : SockAddr)
    (conn : NtpConnection) : (s.putConnection client conn).connectionOf client = some conn :=
  AList.lookup_insert _

@[simp] theorem putConnection_putConnection (s : NtpServer) (client : SockAddr)
    (conn conn' : NtpConnection) :
    (s.putConnection client conn).putConnection client conn' = s.putConnection client conn' := by
  simp only [putConnection, AList.insert_insert]

@[simp] theorem captured_putConnection (s : NtpServer) (client : SockAddr)
    (conn conn' : NtpConnection) : (s.putConnection client conn).captured conn' = s.captured conn' :=
  rfl

/-- There is a connection after `getOrCreateConnection`. -/
theorem connectionOf_of_getOrCreate {s s' : NtpServer} {client : SockAddr}
    (h : s.getOrCreateConnection (inetNtop client.ip) client.port = .ok s') :
    ∃ conn, s'.connectionOf client = some conn := by
  rcases getOrCreateConnection_cases h with ⟨rfl, hconn⟩ | ⟨-, trusted, -, rfl⟩
  · exact hconn
  · exact ⟨_, AList.lookup_insert _⟩

/-- `handlePacket` on the client's connection. -/
theorem handleOn_of_connectionOf {s : NtpServer} {client : SockAddr} {conn : NtpConnection}
    (h : s.connectionOf client = some conn) (pick : NtpServer → NtpConnection → NtpConfig)
    (evp : Evp) (now : SteadyTime) (data : Bytes) :
    s.handleOn pick evp (connectionKey (inetNtop client.ip) client.port) now data
      = ((conn.handlePacket evp (pick s conn) now data).1,
        s.putConnection client (conn.handlePacket evp (pick s conn) now data).2) := by
  rw [connectionOf] at h
  simp only [handleOn, onConnection, h]
  rfl

end NtpServer

namespace Task

section Steps

variable (evp : Evp) (s : NtpServer) (id : TaskId) (t : Task) (env : PacketEnv)

/-- The access lists (server.cpp:443). -/
def access : Except Exn Advanced :=
  match isClientAllowed s.currentConfig (inetNtop id.client.ip) with
  | .error e => .error e
  | .ok false => .ok { server := s.countError, task := t.goto (.done .aclDenied) }
  | .ok true => .ok { server := s, task := t.goto .allowed }

/-- The connection limiter (server.cpp:449). -/
def limitConnections : Advanced :=
  let (exceeded, s) := s.isRateLimitExceeded (inetNtop id.client.ip) env.rateTime
  let observed := some (.connection id env.rateTime !exceeded)
  if exceeded then
    { server := s.countError, task := t.goto (.done .rateLimited), observed := observed }
  else
    { server := s, task := { t with stage := .admitted, admittedAt := env.rateTime },
      observed := observed }

/-- The anomaly detector (server.cpp:456). -/
def detectAnomaly : Advanced :=
  let (anomaly, s) := s.isDdosAnomaly (inetNtop id.client.ip) env.ddosTime
  if anomaly && s.currentConfig.enableGracefulDegradation then
    { server := s.countError, task := t.goto (.done .ddosAnomaly) }
  else { server := s, task := t.goto .screened }

/-- The table of connections (server.cpp:465). -/
def connect : Except Exn Advanced :=
  match s.getOrCreateConnection (inetNtop id.client.ip) id.client.port with
  | .error e => .error e
  | .ok s => .ok { server := s, task := t.goto .connected }

/-- What comes behind `handlePacket` (server.cpp:475–543), as one section. -/
def finish (accepted : Bool) : Advanced :=
  let p := s.finishPacket accepted t.data env
  { server := p.server, task := t.goto (.done p.verdict), reply := p.reply,
    observed := p.reply.map fun _ => .reply id t.admittedAt }

/-- `handlePacket` up to its limiter (connection.cpp:83–119). -/
def check : Advanced :=
  match s.connectionOf id.client with
  | none => t.finish s id env false
  | some conn =>
    if !conn.active then t.finish (s.putConnection id.client conn) id env false
    else match clientRequest t.data with
      | none => t.finish (s.putConnection id.client conn) id env false
      | some packet =>
        if (s.captured conn).enableRateLimiting then
          { server := s, task := t.goto (.timed packet (minuteBucket env.requestTime)) }
        else { server := s, task := t.goto (.limited packet) }

/-- The section of the request limiter (connection.cpp:120–126). -/
def limitRequests (packet : NtpPacket) (bucket : Nat) : Advanced :=
  match s.connectionOf id.client with
  | none => t.finish s id env false
  | some conn =>
    let (passed, conn) := conn.limitRequest (s.captured conn).requestRateLimitPerMinute bucket
    let s := s.putConnection id.client conn
    let observed := some (.request id bucket passed)
    if passed then { server := s, task := t.goto (.limited packet), observed := observed }
    else { t.finish s id env false with observed := observed }

/-- The rest of `handlePacket` (connection.cpp:129–140). -/
def authenticate (packet : NtpPacket) : Advanced :=
  match s.connectionOf id.client with
  | none => t.finish s id env false
  | some conn =>
    if (s.captured conn).enableAuthentication
        && !validateAuthentication evp (s.captured conn) packet t.data then
      t.finish (s.putConnection id.client conn) id env false
    else
      { server := s.putConnection id.client (conn.recordPacket t.data.length),
        task := t.goto .accepted }

/-- One step of the processing of a datagram. `env` is what the clocks, the
random number generator and the network show the worker during the step. -/
def advance : Except Exn Advanced :=
  match t.stage with
  | .received => t.access s id
  | .allowed => .ok (t.limitConnections s id env)
  | .admitted => .ok (t.detectAnomaly s id env)
  | .screened => t.connect s id
  | .connected => .ok (t.check s id env)
  | .timed packet bucket => .ok (t.limitRequests s id env packet bucket)
  | .limited packet => .ok (t.authenticate evp s id env packet)
  | .accepted => .ok (t.finish s id env true)
  | .done _ => .ok { server := s, task := t }

end Steps

end Task

/-! ## The whole -/

/-- The server, the datagrams in work, and the record of what was decided, in
order, and sent. The record is not part of the program. -/
structure Workers where
  server : NtpServer
  tasks : TaskId → Option Task := fun _ => none
  log : List Observation := []
  sent : TaskId → Option Bytes := fun _ => none

/-- What happens in a step. -/
inductive WorkerEvent where
  /-- a worker takes a datagram from the socket -/
  | receive (id : TaskId) (data : Bytes)
  /-- it goes on with it -/
  | advance (id : TaskId) (env : PacketEnv)
  /-- a round of the sync thread -/
  | sync (world : Nat → QueryEnv) (now : Int)
  /-- a worker clears the table of connections -/
  | cleanup

namespace Workers

/-- A server with no datagram in work. -/
def idle (s : NtpServer) : Workers := { server := s }

/-- The state after a step on a datagram. -/
def record (w : Workers) (id : TaskId) (a : Advanced) : Workers where
  server := a.server
  tasks := Function.update w.tasks id (some a.task)
  log := w.log ++ a.observed.toList
  sent := match a.reply with
    | none => w.sent
    | some reply => Function.update w.sent id (some reply)

/-- A step. A number is used for one datagram of a client only, and an
exception ends the process. -/
def step (evp : Evp) (w : Workers) : WorkerEvent → Except Exn Workers
  | .receive id data =>
    match w.tasks id with
    | some _ => .ok w
    | none => .ok { w with tasks := Function.update w.tasks id (some { data := data }) }
  | .advance id env =>
    match w.tasks id with
    | none => .ok w
    | some t =>
      match t.advance evp w.server id env with
      | .error e => .error e
      | .ok a => .ok (w.record id a)
  | .sync world now => .ok { w with server := w.server.syncOnce world now }
  | .cleanup => .ok { w with server := w.server.cleanupConnections }

/-- The steps of a list of events: an interleaving. -/
def run (evp : Evp) (w : Workers) (events : List WorkerEvent) : Except Exn Workers :=
  events.foldlM (step evp) w

/-! ## A datagram alone -/

/-- The steps of one datagram with no others in between. -/
def alone (id : TaskId) (data : Bytes) (env : PacketEnv) : List WorkerEvent :=
  .receive id data :: List.replicate 8 (.advance id env)

/-- The server, the stage of a datagram and its reply. -/
def outcome (id : TaskId) (w : Workers) : NtpServer × Option Stage × Option Bytes :=
  (w.server, (w.tasks id).map Task.stage, w.sent id)

end Workers

/-- The server, the last stage and the reply of a datagram that has been processed. -/
def Processed.outcome (p : Processed) : NtpServer × Option Stage × Option Bytes :=
  (p.server, some (.done p.verdict), p.reply)

namespace Workers

section Alone

variable {evp : Evp} {w : Workers} {id : TaskId} {t : Task} {env : PacketEnv} {n : Nat}

@[simp] theorem record_server (w : Workers) (id : TaskId) (a : Advanced) :
    (w.record id a).server = a.server := rfl

@[simp] theorem record_tasks_self (w : Workers) (id : TaskId) (a : Advanced) :
    (w.record id a).tasks id = some a.task := Function.update_self ..

theorem record_tasks_of_ne {id' : TaskId} (h : id' ≠ id) {a : Advanced} :
    (w.record id a).tasks id' = w.tasks id' := Function.update_of_ne h _ _

theorem record_sent_self (w : Workers) (id : TaskId) (a : Advanced) :
    (w.record id a).sent id = match a.reply with
      | none => w.sent id
      | some reply => some reply := by
  unfold record
  cases a.reply with
  | none => rfl
  | some reply => exact Function.update_self ..

/-- The first of several steps on a datagram. -/
theorem run_advance (ht : w.tasks id = some t) {a : Advanced}
    (h : t.advance evp w.server id env = .ok a) :
    w.run evp (List.replicate (n + 1) (.advance id env))
      = (w.record id a).run evp (List.replicate n (.advance id env)) := by
  rw [List.replicate_succ, run, List.foldlM_cons]
  simp only [step, ht, h]
  rfl

theorem run_advance_error (ht : w.tasks id = some t) {e : Exn}
    (h : t.advance evp w.server id env = .error e) :
    w.run evp (List.replicate (n + 1) (.advance id env)) = .error e := by
  rw [List.replicate_succ, run, List.foldlM_cons]
  simp only [step, ht, h]
  rfl

/-- Nothing happens to a datagram that is done. -/
theorem run_done {verdict : Verdict} (ht : w.tasks id = some t) (h : t.stage = .done verdict) :
    (w.run evp (List.replicate n (.advance id env))).map (outcome id)
      = .ok (w.server, some (.done verdict), w.sent id) := by
  induction n generalizing w t with
  | zero =>
    show Except.ok (w.server, (w.tasks id).map Task.stage, w.sent id) = _
    rw [ht, Option.map_some, h]
  | succ n ih =>
    have hstay : t.advance evp w.server id env = .ok { server := w.server, task := t } := by
      rw [Task.advance, h]
    rw [run_advance ht hstay, ih (record_tasks_self ..) h, record_server, record_sent_self]

/-- The last step, and the ones left over. -/
theorem run_finish {s : NtpServer} {accepted : Bool} {observed : Option Observation}
    {data : Bytes} (ht : w.tasks id = some t) (hdata : t.data = data) (hsent : w.sent id = none)
    (h : t.advance evp w.server id env
      = .ok { t.finish s id env accepted with observed := observed }) :
    (w.run evp (List.replicate (n + 1) (.advance id env))).map (outcome id)
      = .ok (s.finishPacket accepted data env).outcome := by
  subst hdata
  rw [run_advance ht h, run_done (record_tasks_self ..) rfl, record_server, record_sent_self, hsent,
    Task.finish, Processed.outcome]
  cases (s.finishPacket accepted t.data env).reply <;> rfl

/-- A step that is not the last one of a datagram. -/
theorem run_goto {s : NtpServer} {t' : Task} {observed : Option Observation} {data : Bytes}
    {r : Except Exn (NtpServer × Option Stage × Option Bytes)} (ht : w.tasks id = some t)
    (hsent : w.sent id = none)
    (h : t.advance evp w.server id env = .ok { server := s, task := t', observed := observed })
    (hdata : t'.data = data)
    (hrest : ∀ w' : Workers, w'.server = s → w'.tasks id = some t' → w'.sent id = none →
      t'.data = data →
      (w'.run evp (List.replicate n (.advance id env))).map (outcome id) = r) :
    (w.run evp (List.replicate (n + 1) (.advance id env))).map (outcome id) = r := by
  rw [run_advance ht h]
  refine hrest _ rfl (record_tasks_self ..) ?_ hdata
  rw [record_sent_self]
  exact hsent

section HandlePacket

variable {s : NtpServer} {conn : NtpConnection} {packet : NtpPacket} {data : Bytes}

/-- From the authentication on. -/
theorem run_limited (hs : w.server = s) (ht : w.tasks id = some t)
    (hstage : t.stage = .limited packet) (hdata : t.data = data) (hsent : w.sent id = none)
    (hconn : s.connectionOf id.client = some conn) :
    (w.run evp (List.replicate (n + 2) (.advance id env))).map (outcome id)
      = .ok (if (s.captured conn).enableAuthentication
            && !validateAuthentication evp (s.captured conn) packet data then
          (s.putConnection id.client conn).finishPacket false data env
        else (s.putConnection id.client
          (conn.recordPacket data.length)).finishPacket true data env).outcome := by
  have hadvance : t.advance evp w.server id env = .ok (t.authenticate evp s id env packet) := by
    rw [Task.advance, hstage, hs]
  simp only [Task.authenticate, hconn, hdata] at hadvance
  split
  · rename_i hrefused
    rw [if_pos hrefused] at hadvance
    exact run_finish ht hdata hsent hadvance
  · rename_i haccepted
    rw [if_neg haccepted] at hadvance
    refine run_goto ht hsent hadvance hdata ?_
    intro w' hs' ht' hsent' hdata'
    have hfinish : (t.goto .accepted).advance evp w'.server id env
        = .ok ((t.goto .accepted).finish (s.putConnection id.client
          (conn.recordPacket data.length)) id env true) := by
      rw [Task.advance, hs']
      rfl
    exact run_finish ht' hdata' hsent' hfinish

/-- From the section of the request limiter on. -/
theorem run_timed {bucket : Nat} (hs : w.server = s) (ht : w.tasks id = some t)
    (hstage : t.stage = .timed packet bucket) (hdata : t.data = data) (hsent : w.sent id = none)
    (hconn : s.connectionOf id.client = some conn)
    {limited : Bool × NtpConnection}
    (hlimited : conn.limitRequest (s.captured conn).requestRateLimitPerMinute bucket = limited) :
    (w.run evp (List.replicate (n + 3) (.advance id env))).map (outcome id)
      = .ok (if !limited.1 then (s.putConnection id.client limited.2).finishPacket false data env
        else if (s.captured conn).enableAuthentication
            && !validateAuthentication evp (s.captured conn) packet data then
          (s.putConnection id.client limited.2).finishPacket false data env
        else (s.putConnection id.client
          (limited.2.recordPacket data.length)).finishPacket true data env).outcome := by
  have hadvance : t.advance evp w.server id env
      = .ok (t.limitRequests s id env packet bucket) := by
    rw [Task.advance, hstage, hs]
  simp only [Task.limitRequests, hconn, hlimited] at hadvance
  -- the limiter counts in the connection, whose configuration stays
  obtain ⟨passed, conn'⟩ := limited
  have hcaptured : s.captured conn' = s.captured conn := by
    cases hlimited
    rfl
  cases passed with
  | false => exact run_finish ht hdata hsent hadvance
  | true =>
    refine run_goto ht hsent hadvance hdata ?_
    intro w' hs' ht' hsent' hdata'
    rw [run_limited hs' ht' rfl hdata' hsent' (s.connectionOf_putConnection id.client conn')]
    simp only [NtpServer.captured_putConnection, NtpServer.putConnection_putConnection, hcaptured,
      Bool.not_true, Bool.false_eq_true, if_false]

/-- `handlePacket` and what comes behind it. -/
theorem run_connected (hs : w.server = s) (ht : w.tasks id = some t)
    (hstage : t.stage = .connected) (hdata : t.data = data) (hsent : w.sent id = none)
    (hconn : s.connectionOf id.client = some conn) :
    (w.run evp (List.replicate (n + 4) (.advance id env))).map (outcome id)
      = .ok ((s.putConnection id.client
          (conn.handlePacket evp (s.captured conn) env.requestTime data).2).finishPacket
        (conn.handlePacket evp (s.captured conn) env.requestTime data).1 data env).outcome := by
  have hadvance : t.advance evp w.server id env = .ok (t.check s id env) := by
    rw [Task.advance, hstage, hs]
  simp only [Task.check, hconn, hdata] at hadvance
  unfold NtpConnection.handlePacket
  cases hactive : conn.active with
  | false =>
    rw [hactive] at hadvance
    exact run_finish ht hdata hsent hadvance
  | true =>
    rw [hactive] at hadvance
    cases hrequest : clientRequest data with
    | none =>
      rw [hrequest] at hadvance
      exact run_finish ht hdata hsent hadvance
    | some packet =>
      rw [hrequest] at hadvance
      simp only [Bool.not_true, Bool.false_eq_true, if_false, NtpConnection.applyLimiter]
        at hadvance ⊢
      by_cases hlimit : (s.captured conn).enableRateLimiting = true
      · rw [if_pos hlimit] at hadvance
        refine run_goto ht hsent hadvance hdata ?_
        intro w' hs' ht' hsent' hdata'
        rw [run_timed hs' ht' rfl hdata' hsent' hconn rfl]
        simp only [if_pos hlimit]
        split
        · rfl
        · split <;> rfl
      · rw [if_neg hlimit] at hadvance
        refine run_goto ht hsent hadvance hdata ?_
        intro w' hs' ht' hsent' hdata'
        -- with the limiter off there is one step less
        rw [run_limited hs' ht' rfl hdata' hsent' hconn]
        simp only [if_neg hlimit, Bool.not_true, Bool.false_eq_true, if_false]
        split <;> rfl

end HandlePacket

section Admission

variable {s : NtpServer} {data : Bytes}

/-- A datagram is dropped. -/
theorem run_dropped {verdict : Verdict} {observed : Option Observation}
    (ht : w.tasks id = some t) (hsent : w.sent id = none)
    (h : t.advance evp w.server id env
      = .ok { server := s, task := t.goto (.done verdict), observed := observed }) :
    (w.run evp (List.replicate (n + 1) (.advance id env))).map (outcome id)
      = .ok (Processed.mk s verdict none).outcome := by
  rw [run_advance ht h, run_done (record_tasks_self ..) rfl, record_server, record_sent_self, hsent]
  rfl

/-- From the table of connections on. -/
theorem run_screened (hs : w.server = s) (ht : w.tasks id = some t)
    (hstage : t.stage = .screened) (hdata : t.data = data) (hsent : w.sent id = none) :
    (w.run evp (List.replicate (n + 5) (.advance id env))).map (outcome id)
      = match s.getOrCreateConnection (inetNtop id.client.ip) id.client.port with
        | .error e => .error e
        | .ok s => .ok ((s.handleOn NtpServer.captured evp
            (NtpServer.connectionKey (inetNtop id.client.ip) id.client.port) env.requestTime
            data).2.finishPacket (s.handleOn NtpServer.captured evp
            (NtpServer.connectionKey (inetNtop id.client.ip) id.client.port) env.requestTime
            data).1 data env).outcome := by
  have hadvance : t.advance evp w.server id env = t.connect s id := by
    rw [Task.advance, hstage, hs]
  rw [Task.connect] at hadvance
  cases hcreate : s.getOrCreateConnection (inetNtop id.client.ip) id.client.port with
  | error e =>
    rw [hcreate] at hadvance
    rw [run_advance_error ht hadvance]
    rfl
  | ok s' =>
    rw [hcreate] at hadvance
    refine run_goto ht hsent hadvance hdata ?_
    intro w' hs' ht' hsent' hdata'
    obtain ⟨conn, hconn⟩ := NtpServer.connectionOf_of_getOrCreate hcreate
    rw [run_connected hs' ht' rfl hdata' hsent' hconn]
    simp only [NtpServer.handleOn_of_connectionOf hconn]

/-- From the access lists on. -/
theorem run_received (hs : w.server = s) (ht : w.tasks id = some t)
    (hstage : t.stage = .received) (hdata : t.data = data) (hsent : w.sent id = none) :
    (w.run evp (List.replicate (n + 8) (.advance id env))).map (outcome id)
      = (s.processPacket evp data id.client env).map Processed.outcome := by
  have haccess : t.advance evp w.server id env = t.access s id := by
    rw [Task.advance, hstage, hs]
  rw [Task.access] at haccess
  unfold NtpServer.processPacket NtpServer.processPacketWith
  dsimp only
  cases hallowed : isClientAllowed s.currentConfig (inetNtop id.client.ip) with
  | error e =>
    rw [hallowed] at haccess
    rw [run_advance_error ht haccess]
    rfl
  | ok allowed =>
    rw [hallowed] at haccess
    cases allowed with
    -- each section drops the datagram or leads to the next one
    | false => exact run_dropped ht hsent haccess
    | true =>
      refine run_goto ht hsent haccess hdata ?_
      intro w₁ hs₁ ht₁ hsent₁ hdata₁
      have hlimit : (t.goto .allowed).advance evp w₁.server id env
          = .ok ((t.goto .allowed).limitConnections s id env) := by
        rw [Task.advance, hs₁]
        rfl
      rw [Task.limitConnections] at hlimit
      generalize s.isRateLimitExceeded (inetNtop id.client.ip) env.rateTime = rate at hlimit ⊢
      obtain ⟨exceeded, s'⟩ := rate
      cases exceeded with
      | true => exact run_dropped ht₁ hsent₁ hlimit
      | false =>
        refine run_goto ht₁ hsent₁ hlimit hdata₁ ?_
        intro w₂ hs₂ ht₂ hsent₂ hdata₂
        have hdetect : Task.advance evp w₂.server id
            { t with stage := .admitted, admittedAt := env.rateTime } env
            = .ok (Task.detectAnomaly s' id
              { t with stage := .admitted, admittedAt := env.rateTime } env) := by
          rw [Task.advance, hs₂]
        rw [Task.detectAnomaly] at hdetect
        dsimp only
        generalize s'.isDdosAnomaly (inetNtop id.client.ip) env.ddosTime = ddos at hdetect ⊢
        obtain ⟨anomaly, s''⟩ := ddos
        rw [if_neg Bool.false_ne_true]
        dsimp only at hdetect ⊢
        split
        · rename_i hdrop
          rw [if_pos hdrop] at hdetect
          exact run_dropped ht₂ hsent₂ hdetect
        · rename_i hkeep
          rw [if_neg hkeep] at hdetect
          refine run_goto ht₂ hsent₂ hdetect hdata₂ ?_
          intro w₃ hs₃ ht₃ hsent₃ hdata₃
          rw [run_screened hs₃ ht₃ rfl hdata₃ hsent₃]
          cases s''.getOrCreateConnection (inetNtop id.client.ip) id.client.port <;> rfl

/-- **A datagram alone.** With no steps of others in between, the steps on a new
datagram are `processPacket`: the same state of the server, verdict and reply, or
the same exception. -/
theorem run_alone (ht : w.tasks id = none) (hsent : w.sent id = none) (data : Bytes) :
    (w.run evp (alone id data env)).map (outcome id)
      = (w.server.processPacket evp data id.client env).map Processed.outcome := by
  rw [alone, run, List.foldlM_cons]
  simp only [step, ht]
  exact run_received (n := 0) rfl (Function.update_self ..) rfl rfl hsent

end Admission

end Alone

end Workers

end SimpleNtpd
