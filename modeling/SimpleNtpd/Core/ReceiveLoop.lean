import SimpleNtpd.Core.Workers
import SimpleNtpd.Core.Statistics
import SimpleNtpd.Lib.WorkQueue

/-!
# The receive loop

Each worker thread goes around `processIncomingPackets` with a buffer of its own
(server.cpp:372–433): `recvfrom` writes at most as many bytes as the buffer has, the
buffer is cut down to these, `processPacket` works on it, and it is brought back to 48
bytes. All workers receive from the one socket.

The socket with the workers is a queue with several consumers (`ReceiveLoop.queue`,
`step_queue`), and what the workers do with a datagram are the steps of `Workers`
(`step_workers`). So every datagram that leaves the socket goes to one worker, in the
order of arrival, and what `processPacket` is given are its first 48 bytes, with nothing
in them of an earlier one (`datagrams_served`).
-/

namespace SimpleNtpd

open Cpp

/-- A datagram that has arrived. -/
structure Datagram where
  client : SockAddr
  bytes : Bytes
  deriving DecidableEq, Repr

/-- `buffer.resize(n)`. -/
def resize (buffer : Bytes) (n : Nat) : Bytes :=
  buffer.take n ++ List.replicate (n - buffer.length) 0

/-- The buffer behind `recvfrom`: what does not fit is lost. -/
def fill (buffer bytes : Bytes) : Bytes := bytes.take buffer.length ++ buffer.drop bytes.length

@[simp] theorem resize_length (buffer : Bytes) (n : Nat) : (resize buffer n).length = n := by
  simp only [resize, List.length_append, List.length_take, List.length_replicate]
  omega

@[simp] theorem fill_length (buffer bytes : Bytes) : (fill buffer bytes).length = buffer.length := by
  simp only [fill, List.length_append, List.length_take, List.length_drop]
  omega

/-- Cut down to what was received, the buffer has nothing else in it. -/
theorem resize_fill (buffer bytes : Bytes) :
    resize (fill buffer bytes) (min bytes.length buffer.length) = bytes.take buffer.length := by
  have hlength : min bytes.length buffer.length = (bytes.take buffer.length).length := by
    rw [List.length_take, Nat.min_comm]
  have hzero : min bytes.length buffer.length - (fill buffer bytes).length = 0 := by
    rw [fill_length]
    omega
  rw [resize, hzero, List.replicate_zero, List.append_nil, hlength, fill, List.take_left]

/-- A worker thread. -/
structure Receiver where
  /-- the `buffer` of `processIncomingPackets` -/
  buffer : Bytes := List.replicate ntpPacketSize 0
  /-- the datagram that is in `processPacket` -/
  current : Option TaskId := none

/-- The worker threads around the socket. -/
structure ReceiveLoop where
  workers : Workers
  /-- what waits in the socket -/
  socket : List Datagram := []
  receivers : List Receiver
  /-- `workers_running_` -/
  workersRunning : Bool := true
  /-- for the record: what has arrived -/
  arrived : List Datagram := []
  /-- for the record: what has left the socket -/
  taken : List Datagram := []
  /-- for the record: the numbers of the datagrams that were left behind -/
  finished : List Nat := []

/-- What happens next. -/
inductive ReceiveMove where
  /-- a datagram comes into the socket -/
  | arrive (d : Datagram)
  /-- a worker that has no datagram calls `recvfrom` -/
  | recvfrom (i : Nat)
  /-- a worker goes on with its datagram -/
  | work (i : Nat) (env : PacketEnv)
  /-- the self-healing has closed the socket and bound a new one -/
  | reopen
  | stopWorkers
  | sync (world : Nat → QueryEnv) (now : Int)
  | cleanup

/-- `processPacket` has returned. -/
def Stage.isDone : Stage → Bool
  | .done _ => true
  | _ => false

namespace ReceiveLoop

/-- `startWorkerThreads`. -/
def start (c : NtpConfig) (logger : LoggerSettings) (threads : Nat) : ReceiveLoop where
  workers := .idle (.start c logger)
  receivers := List.replicate threads {}

/-- `recvfrom` has returned a datagram (server.cpp:377–403, 419–424). -/
def received (evp : Evp) (l : ReceiveLoop) (i : Nat) (r : Receiver) (d : Datagram)
    (rest : List Datagram) : Except Exn ReceiveLoop :=
  let bytesReceived := min d.bytes.length r.buffer.length
  let buffer := fill r.buffer d.bytes
  if bytesReceived = 0 then
    .ok { l with
      socket := rest
      taken := l.taken ++ [d]
      receivers := l.receivers.set i { r with buffer := buffer }
      finished := l.finished ++ [l.taken.length] }
  else
    let id : TaskId := ⟨d.client, l.taken.length⟩
    (l.workers.step evp (.receive id (resize buffer bytesReceived))).map fun w =>
      { l with
        workers := w
        socket := rest
        taken := l.taken ++ [d]
        receivers := l.receivers.set i ⟨resize buffer bytesReceived, some id⟩ }

/-- A worker in `processPacket`, or behind it (server.cpp:424–428). -/
def process (evp : Evp) (l : ReceiveLoop) (i : Nat) (env : PacketEnv) (buffer : Bytes)
    (id : TaskId) (t : Task) : Except Exn ReceiveLoop :=
  if t.stage.isDone then
    .ok { l with
      receivers := l.receivers.set i ⟨resize buffer ntpPacketSize, none⟩
      finished := l.finished ++ [id.number] }
  else (l.workers.step evp (.advance id env)).map fun w => { l with workers := w }

/-- One step. With nothing in the socket, `processIncomingPackets` returns, and its next
call has a new buffer. -/
def step (evp : Evp) (l : ReceiveLoop) : ReceiveMove → Except Exn ReceiveLoop
  | .arrive d => .ok { l with socket := l.socket ++ [d], arrived := l.arrived ++ [d] }
  | .recvfrom i =>
    match l.receivers[i]? with
    | none => .ok l
    | some r =>
      if r.current.isSome || !l.workersRunning then .ok l
      else match l.socket with
        | [] => .ok { l with receivers := l.receivers.set i {} }
        | d :: rest => l.received evp i r d rest
  | .work i env =>
    match l.receivers[i]? with
    | some ⟨buffer, some id⟩ =>
      match l.workers.tasks id with
      | some t => l.process evp i env buffer id t
      | none => .ok l
    | _ => .ok l
  | .reopen => .ok { l with socket := [] }
  | .stopWorkers => .ok { l with workersRunning := false }
  | .sync world now => (l.workers.step evp (.sync world now)).map fun w => { l with workers := w }
  | .cleanup => (l.workers.step evp .cleanup).map fun w => { l with workers := w }

/-- The state after some steps. -/
def run (evp : Evp) (l : ReceiveLoop) (moves : List ReceiveMove) : Except Exn ReceiveLoop :=
  moves.foldlM (step evp) l

/-! ## What a worker does with a datagram -/

end ReceiveLoop

open NtpServerStats

/-- A reply has the length of a packet. -/
theorem NtpServer.buildReply_length (s : NtpServer) (request : NtpPacket) (env : PacketEnv) :
    (s.buildReply request env).1.length = ntpPacketSize := by
  simp only [buildReply, NtpPacket.serializeToData_length]

/-- Behind `handlePacket` a datagram is counted once, and what is answered has the length
of a packet at least. -/
theorem NtpServer.finishPacket_counted (s : NtpServer) (accepted : Bool) (data : Bytes)
    (env : PacketEnv) :
    Outcome data.length s.stats (s.finishPacket accepted data env).server.stats ∧
      ∀ reply ∈ (s.finishPacket accepted data env).reply,
        reply.length = ntpPacketSize ∧ ntpPacketSize ≤ data.length := by
  rcases Nat.lt_or_ge data.length ntpPacketSize with hshort | hlong
  · cases accepted with
    | false => exact ⟨.refused _, by simp [finishPacket]⟩
    | true =>
      simp only [finishPacket, NtpPacket.parseFromData_of_lt _ hshort]
      exact ⟨.error, by simp⟩
  · refine ⟨(s.finishPacket_books env fun _ => hlong).1, fun reply hreply => ⟨?_, hlong⟩⟩
    cases accepted with
    | false => cases hreply
    | true =>
      have hlength := s.buildReply_length (NtpPacket.decode data) env
      simp only [finishPacket, NtpPacket.parseFromData_of_le _ hlong, if_true] at hreply
      generalize s.buildReply (NtpPacket.decode data) env = built at hreply hlength
      obtain ⟨reply', selected, u⟩ := built
      dsimp only at hreply hlength
      cases hok : env.sendOk with
      | true => rw [hok] at hreply; cases hreply; exact hlength
      | false => rw [hok] at hreply; cases hreply; exact hlength

namespace Task

variable {evp : Evp} {s : NtpServer} {id : TaskId} {t : Task} {env : PacketEnv} {a : Advanced}

/-- What a step that ends the processing does to the counters, and what it sends. -/
def Ends (t : Task) (s : NtpServer) (a : Advanced) : Prop :=
  a.task.stage.isDone = true ∧ Outcome t.data.length s.stats a.server.stats ∧
    ∀ reply ∈ a.reply, reply.length = ntpPacketSize ∧ ntpPacketSize ≤ t.data.length

/-- A step before the end sends nothing, and counts a new connection at most. -/
def GoesOn (s : NtpServer) (a : Advanced) : Prop :=
  a.task.stage.isDone = false ∧ a.reply = none ∧
    (a.server.stats = s.stats ∨ a.server.stats = s.stats.countConnection)

theorem finish_ends (s : NtpServer) (id : TaskId) (t : Task) (env : PacketEnv) (accepted : Bool) :
    t.Ends s (t.finish s id env accepted) := by
  obtain ⟨hcounted, hreply⟩ := s.finishPacket_counted accepted t.data env
  exact ⟨rfl, hcounted, hreply⟩

/-- **A step of a datagram** leaves its bytes, and is one of the two. -/
theorem advance_counted (h : t.advance evp s id env = .ok a) (hopen : t.stage.isDone = false) :
    a.task.data = t.data ∧ (GoesOn s a ∨ t.Ends s a) := by
  unfold advance at h
  cases hstage : t.stage with
  | received =>
    simp only [hstage, access] at h
    split at h
    · cases h
    · cases h
      exact ⟨rfl, .inr ⟨rfl, .error, by simp⟩⟩
    · cases h
      exact ⟨rfl, .inl ⟨rfl, rfl, .inl rfl⟩⟩
  | allowed =>
    obtain ⟨rate, hrate⟩ := s.isRateLimitExceeded_snd (inetNtop id.client.ip) env.rateTime
    simp only [hstage, limitConnections, hrate, Except.ok.injEq] at h
    split at h <;> subst h
    · exact ⟨rfl, .inr ⟨rfl, .error, by simp⟩⟩
    · exact ⟨rfl, .inl ⟨rfl, rfl, .inl rfl⟩⟩
  | admitted =>
    obtain ⟨second, hsecond⟩ := s.isDdosAnomaly_snd (inetNtop id.client.ip) env.ddosTime
    simp only [hstage, detectAnomaly, hsecond, Except.ok.injEq] at h
    split at h <;> subst h
    · exact ⟨rfl, .inr ⟨rfl, .error, by simp⟩⟩
    · exact ⟨rfl, .inl ⟨rfl, rfl, .inl rfl⟩⟩
  | screened =>
    -- a connection is counted when it is made
    simp only [hstage, connect] at h
    split at h
    · cases h
    · rename_i s' hcreate
      cases h
      refine ⟨rfl, .inl ⟨rfl, rfl, ?_⟩⟩
      rw [(NtpServer.getOrCreateConnection_books hcreate).1]
      split
      · exact .inr rfl
      · exact .inl rfl
  | connected =>
    simp only [hstage, Except.ok.injEq] at h
    subst h
    unfold check
    split
    · exact ⟨rfl, .inr (finish_ends s id t env false)⟩
    · split
      · exact ⟨rfl, .inr (finish_ends (s.putConnection id.client _) id t env false)⟩
      · split
        · exact ⟨rfl, .inr (finish_ends (s.putConnection id.client _) id t env false)⟩
        · split <;> exact ⟨rfl, .inl ⟨rfl, rfl, .inl rfl⟩⟩
  | timed packet bucket =>
    simp only [hstage, Except.ok.injEq] at h
    subst h
    unfold limitRequests
    split
    · exact ⟨rfl, .inr (finish_ends s id t env false)⟩
    · dsimp only
      split
      · exact ⟨rfl, .inl ⟨rfl, rfl, .inl rfl⟩⟩
      · exact ⟨rfl, .inr (finish_ends (s.putConnection id.client _) id t env false)⟩
  | limited packet =>
    simp only [hstage, Except.ok.injEq] at h
    subst h
    unfold authenticate
    split
    · exact ⟨rfl, .inr (finish_ends s id t env false)⟩
    · split
      · exact ⟨rfl, .inr (finish_ends (s.putConnection id.client _) id t env false)⟩
      · exact ⟨rfl, .inl ⟨rfl, rfl, .inl rfl⟩⟩
  | accepted =>
    simp only [hstage, Except.ok.injEq] at h
    subst h
    exact ⟨rfl, .inr (finish_ends s id t env true)⟩
  | done verdict =>
    rw [hstage] at hopen
    cases hopen

end Task

namespace ReceiveLoop

/-! ## One step -/

/-- What a step can do, told apart by what becomes of the socket, the receivers and the
tasks. -/
inductive Happens (evp : Evp) (l : ReceiveLoop) : ReceiveMove → ReceiveLoop → Prop
  | arrives (d : Datagram) :
      Happens evp l (.arrive d) { l with socket := l.socket ++ [d], arrived := l.arrived ++ [d] }
  /-- nothing is there to receive -/
  | again {i : Nat} {buffer : Bytes} (h : l.receivers[i]? = some ⟨buffer, none⟩) :
      Happens evp l (.recvfrom i) { l with receivers := l.receivers.set i {} }
  | empty {i : Nat} {buffer : Bytes} {d : Datagram} {rest : List Datagram}
      (h : l.receivers[i]? = some ⟨buffer, none⟩) (hsocket : l.socket = d :: rest)
      (hempty : min d.bytes.length buffer.length = 0) :
      Happens evp l (.recvfrom i) { l with
        socket := rest
        taken := l.taken ++ [d]
        receivers := l.receivers.set i ⟨fill buffer d.bytes, none⟩
        finished := l.finished ++ [l.taken.length] }
  | takes {i : Nat} {buffer : Bytes} {d : Datagram} {rest : List Datagram} {w : Workers}
      (h : l.receivers[i]? = some ⟨buffer, none⟩) (hsocket : l.socket = d :: rest)
      (hbytes : min d.bytes.length buffer.length ≠ 0)
      (hstep : l.workers.step evp (.receive ⟨d.client, l.taken.length⟩
        (resize (fill buffer d.bytes) (min d.bytes.length buffer.length))) = .ok w) :
      Happens evp l (.recvfrom i) { l with
        workers := w
        socket := rest
        taken := l.taken ++ [d]
        receivers := l.receivers.set i ⟨resize (fill buffer d.bytes)
          (min d.bytes.length buffer.length), some ⟨d.client, l.taken.length⟩⟩ }
  | ends {i : Nat} {env : PacketEnv} {buffer : Bytes} {id : TaskId} {t : Task}
      (h : l.receivers[i]? = some ⟨buffer, some id⟩) (htask : l.workers.tasks id = some t)
      (hdone : t.stage.isDone = true) :
      Happens evp l (.work i env) { l with
        receivers := l.receivers.set i ⟨resize buffer ntpPacketSize, none⟩
        finished := l.finished ++ [id.number] }
  | works {i : Nat} {env : PacketEnv} {buffer : Bytes} {id : TaskId} {t : Task} {a : Advanced}
      (h : l.receivers[i]? = some ⟨buffer, some id⟩) (htask : l.workers.tasks id = some t)
      (hopen : t.stage.isDone = false) (hadvance : t.advance evp l.workers.server id env = .ok a) :
      Happens evp l (.work i env) { l with workers := l.workers.record id a }
  | reopens : Happens evp l .reopen { l with socket := [] }
  /-- the server changes, but nothing the loop looks at -/
  | around {m : ReceiveMove} (s : NtpServer) (running : Bool)
      (hstats : ∃ n, s.stats = { l.workers.server.stats with activeConnections := n })
      (hworkers : ∃ events, l.workers.run evp events = .ok { l.workers with server := s }) :
      Happens evp l m { l with
        workers := { l.workers with server := s }
        workersRunning := running }

/-- **One step.** -/
theorem step_happens {evp : Evp} {l l' : ReceiveLoop} {m : ReceiveMove}
    (h : l.step evp m = .ok l') : Happens evp l m l' := by
  have hsame : ∀ {m}, Happens evp l m l :=
    .around l.workers.server l.workersRunning ⟨_, rfl⟩ ⟨[], rfl⟩
  cases m with
  | arrive d =>
    cases h
    exact .arrives d
  | recvfrom i =>
    simp only [step] at h
    rcases hreceiver : l.receivers[i]? with _ | ⟨buffer, current⟩
    · rw [hreceiver] at h
      cases h
      exact hsame
    rw [hreceiver] at h
    dsimp only at h
    split at h
    · cases h
      exact hsame
    rename_i hfree
    obtain rfl : current = none := by
      cases current with
      | none => rfl
      | some id => exact absurd rfl hfree
    rcases hsocket : l.socket with _ | ⟨d, rest⟩
    · rw [hsocket] at h
      cases h
      rw [← hsocket]
      exact .again hreceiver
    rw [hsocket] at h
    dsimp only [received] at h
    split at h
    · rename_i hempty
      cases h
      exact .empty hreceiver hsocket hempty
    · rename_i hbytes
      cases hstep : l.workers.step evp (.receive ⟨d.client, l.taken.length⟩
        (resize (fill buffer d.bytes) (min d.bytes.length buffer.length))) with
      | error e => rw [hstep] at h; cases h
      | ok w =>
        rw [hstep] at h
        cases h
        exact .takes hreceiver hsocket hbytes hstep
  | work i env =>
    simp only [step] at h
    rcases hreceiver : l.receivers[i]? with _ | ⟨buffer, _ | id⟩
    · rw [hreceiver] at h
      cases h
      exact hsame
    · rw [hreceiver] at h
      cases h
      exact hsame
    rw [hreceiver] at h
    dsimp only at h
    rcases htask : l.workers.tasks id with _ | t
    · rw [htask] at h
      cases h
      exact hsame
    rw [htask] at h
    dsimp only [process] at h
    cases hdone : t.stage.isDone with
    | true =>
      rw [hdone] at h
      cases h
      exact .ends hreceiver htask hdone
    | false =>
      rw [hdone] at h
      simp only [Workers.step, htask] at h
      cases hadvance : t.advance evp l.workers.server id env with
      | error e => rw [hadvance] at h; cases h
      | ok a =>
        rw [hadvance] at h
        cases h
        exact .works hreceiver htask hdone hadvance
  | reopen =>
    cases h
    exact .reopens
  | stopWorkers =>
    cases h
    exact .around l.workers.server false ⟨_, rfl⟩ ⟨[], rfl⟩
  | sync world now =>
    cases h
    exact .around (l.workers.server.syncOnce world now) l.workersRunning ⟨_, rfl⟩
      ⟨[.sync world now], rfl⟩
  | cleanup =>
    cases h
    exact .around l.workers.server.cleanupConnections l.workersRunning
      l.workers.server.cleanupConnections_stats ⟨[.cleanup], rfl⟩

/-! ## The queue -/

/-- The socket with the workers that take from it. -/
def queue (l : ReceiveLoop) : WorkQueue Datagram where
  put := l.arrived
  taken := l.taken
  waiting := l.socket
  hands := l.receivers.map fun r => r.current.map TaskId.number
  done := l.finished

variable {evp : Evp} {l l' : ReceiveLoop} {m : ReceiveMove}

theorem hands_of_receiver {i : Nat} {r : Receiver} (h : l.receivers[i]? = some r) :
    l.queue.hands[i]? = some (r.current.map TaskId.number) := by
  simp [queue, h]

/-- A worker that has nothing in hand with another buffer. -/
theorem hands_set_free {receivers : List Receiver} {i : Nat} {buffer : Bytes}
    (h : receivers[i]? = some ⟨buffer, none⟩) (buffer' : Bytes) :
    (receivers.set i ⟨buffer', none⟩).map (fun r => r.current.map TaskId.number)
      = receivers.map fun r => r.current.map TaskId.number := by
  obtain ⟨hi, heq⟩ := List.getElem?_eq_some_iff.mp h
  rw [List.map_set]
  refine List.ext_getElem? fun j => ?_
  rw [List.getElem?_set]
  split
  · rename_i hij
    subst hij
    simp [hi, heq]
  · rfl

/-- **A step of the loop is some steps of the queue**; what waits is thrown away by the
self-healing only. -/
theorem step_queue (h : Happens evp l m l') :
    ∃ acts, l'.queue = l.queue.run acts ∧ (.discard ∈ acts → m = .reopen) := by
  cases h with
  | arrives d => exact ⟨[.put d], rfl, nofun⟩
  | @again i buffer h =>
    refine ⟨[], ?_, nofun⟩
    simp only [queue, WorkQueue.run, List.foldl_nil, hands_set_free h]
  | @empty i buffer d rest h hsocket hempty =>
    -- taken, and left behind at once
    refine ⟨[.take i, .finish i], ?_, by simp⟩
    have hhand := hands_of_receiver h
    have hi := (List.getElem?_eq_some_iff.mp hhand).1
    have hset := hands_set_free h (fill buffer d.bytes)
    rw [List.map_set] at hset
    simp_all [queue, WorkQueue.run, WorkQueue.step]
  | @takes i buffer d rest w h hsocket hbytes hstep =>
    refine ⟨[.take i], ?_, by simp⟩
    have hhand := hands_of_receiver h
    simp_all [queue, WorkQueue.run, WorkQueue.step, List.map_set]
  | @ends i env buffer id t h htask hdone =>
    refine ⟨[.finish i], ?_, by simp⟩
    have hhand := hands_of_receiver h
    simp_all [queue, WorkQueue.run, WorkQueue.step, List.map_set]
  | works h htask hopen hadvance => exact ⟨[], rfl, nofun⟩
  | reopens => exact ⟨[.discard], rfl, fun _ => rfl⟩
  | around s running hstats hworkers => exact ⟨[], rfl, nofun⟩

/-! ## What holds between the steps -/

/-- Every datagram that was taken is with one worker or left behind, once; a task is what
fits of its datagram into the buffer, and a buffer that waits is a whole one. -/
structure Fed (l : ReceiveLoop) : Prop where
  served : l.queue.Served
  tasks : ∀ id t, l.workers.tasks id = some t → ∃ d, l.taken[id.number]? = some d ∧
    d.client = id.client ∧ d.bytes ≠ [] ∧ t.data = d.bytes.take ntpPacketSize
  known : ∀ (k : Nat) d, l.taken[k]? = some d → d.bytes ≠ [] →
    ∃ t, l.workers.tasks ⟨d.client, k⟩ = some t
  free : ∀ (i : Nat) buffer, l.receivers[i]? = some ⟨buffer, none⟩ →
    buffer.length = ntpPacketSize
  ended : ∀ id t, l.workers.tasks id = some t → id.number ∈ l.finished → t.stage.isDone = true

/-- What is among some items and one more. -/
theorem of_getElem?_concat {α : Type*} {xs : List α} {a b : α} {k : Nat}
    (h : (xs ++ [a])[k]? = some b) : xs[k]? = some b ∨ k = xs.length ∧ b = a := by
  rw [List.getElem?_append] at h
  split at h
  · exact .inl h
  · right
    obtain ⟨hk, hb⟩ := List.getElem?_eq_some_iff.mp h
    rw [List.getElem_singleton] at hb
    rw [List.length_singleton] at hk
    exact ⟨by omega, hb.symm⟩

theorem getElem?_concat {α : Type*} {xs : List α} {b : α} {k : Nat} (h : xs[k]? = some b) (a : α) :
    (xs ++ [a])[k]? = some b := by
  rw [List.getElem?_append_left (List.getElem?_eq_some_iff.mp h).1, h]

/-- A number belongs to one task. -/
theorem Fed.unique (h : l.Fed) {id id' : TaskId} {t t' : Task} (ht : l.workers.tasks id = some t)
    (ht' : l.workers.tasks id' = some t') (hnumber : id.number = id'.number) : id = id' := by
  obtain ⟨d, hd, hclient, -⟩ := h.tasks id t ht
  obtain ⟨d', hd', hclient', -⟩ := h.tasks id' t' ht'
  rw [← hnumber, hd] at hd'
  cases hd'
  cases id
  cases id'
  simp_all

/-- What a worker has in hand was not left behind. -/
theorem Fed.notMem_finished (h : l.Fed) {i : Nat} {buffer : Bytes} {id : TaskId}
    (hreceiver : l.receivers[i]? = some ⟨buffer, some id⟩) : id.number ∉ l.finished := by
  have hheld := WorkQueue.mem_held.mpr ⟨i, hands_of_receiver hreceiver⟩
  exact fun hdone => (List.nodup_append.mp h.served.nodup).2.2 _ hdone _ hheld rfl

/-- The next number was not used. -/
theorem Fed.fresh (h : l.Fed) (client : SockAddr) :
    l.workers.tasks ⟨client, l.taken.length⟩ = none := by
  cases htask : l.workers.tasks ⟨client, l.taken.length⟩ with
  | none => rfl
  | some t =>
    obtain ⟨d, hd, -⟩ := h.tasks _ _ htask
    simp at hd

theorem Fed.start (c : NtpConfig) (logger : LoggerSettings) (threads : Nat) :
    (start c logger threads).Fed where
  served := by
    have hserved := WorkQueue.Served.start (α := Datagram) threads
    simpa [queue, ReceiveLoop.start] using hserved
  tasks := nofun
  known := nofun
  free := by
    intro i buffer h
    have hmem := List.mem_of_getElem? h
    obtain ⟨-, heq⟩ := List.mem_replicate.mp hmem
    cases heq
    rfl
  ended := nofun

/-- A worker that has been given another buffer or datagram. -/
theorem Fed.free_set (h : l.Fed) {i : Nat} {r : Receiver}
    (hr : r.current = none → r.buffer.length = ntpPacketSize) :
    ∀ (j : Nat) buffer, (l.receivers.set i r)[j]? = some ⟨buffer, none⟩ →
      buffer.length = ntpPacketSize := by
  intro j buffer hj
  rw [List.getElem?_set] at hj
  split at hj
  · split at hj
    · cases hj
      exact hr rfl
    · cases hj
  · exact h.free j buffer hj

/-- **Every step keeps the datagrams.** -/
theorem Fed.step (h : l.Fed) (hstep : Happens evp l m l') : l'.Fed := by
  have hserved : l'.queue.Served := by
    obtain ⟨acts, hacts, -⟩ := step_queue hstep
    rw [hacts]
    exact h.served.run acts
  cases hstep with
  | arrives d => exact ⟨hserved, h.tasks, h.known, h.free, h.ended⟩
  | again hreceiver => exact ⟨hserved, h.tasks, h.known, h.free_set fun _ => rfl, h.ended⟩
  | @empty i buffer d rest hreceiver hsocket hempty =>
    -- nothing was received, so the datagram has no bytes, and there is no task
    have hbuffer := h.free i buffer hreceiver
    have hnone : d.bytes = [] := by
      rw [hbuffer, ntpPacketSize] at hempty
      exact List.eq_nil_of_length_eq_zero (by omega)
    refine ⟨hserved, ?_, ?_, h.free_set fun _ => by simpa using hbuffer, ?_⟩
    · intro id t htask
      obtain ⟨d', hd', hrest⟩ := h.tasks id t htask
      exact ⟨d', getElem?_concat hd' d, hrest⟩
    · intro k d' hd' hne
      rcases of_getElem?_concat hd' with hold | ⟨-, rfl⟩
      · exact h.known k d' hold hne
      · exact absurd hnone hne
    · intro id t htask hmem
      rcases List.mem_append.mp hmem with hold | hnew
      · exact h.ended id t htask hold
      · obtain ⟨d', hd', -⟩ := h.tasks id t htask
        rw [List.mem_singleton.mp hnew] at hd'
        simp at hd'
  | @takes i buffer d rest w hreceiver hsocket hbytes hstep =>
    have hbuffer := h.free i buffer hreceiver
    have hne : d.bytes ≠ [] := by
      rintro hnil
      rw [hnil] at hbytes
      simp at hbytes
    simp only [Workers.step, h.fresh d.client] at hstep
    cases hstep
    rw [resize_fill, hbuffer] at hserved ⊢
    refine ⟨hserved, ?_, ?_, h.free_set (by simp), ?_⟩ <;> dsimp only
    · intro id t htask
      by_cases hid : id = ⟨d.client, l.taken.length⟩
      · subst hid
        rw [Function.update_self] at htask
        cases htask
        exact ⟨d, by simp, rfl, hne, rfl⟩
      · rw [Function.update_of_ne hid] at htask
        obtain ⟨d', hd', hrest⟩ := h.tasks id t htask
        exact ⟨d', getElem?_concat hd' d, hrest⟩
    · intro k d' hd' hne'
      by_cases hid : (⟨d'.client, k⟩ : TaskId) = ⟨d.client, l.taken.length⟩
      · exact ⟨_, by rw [hid, Function.update_self]⟩
      · rcases of_getElem?_concat hd' with hold | ⟨rfl, rfl⟩
        · obtain ⟨t, ht⟩ := h.known k d' hold hne'
          exact ⟨t, by rw [Function.update_of_ne hid, ht]⟩
        · exact absurd rfl hid
    · intro id t htask hmem
      by_cases hid : id = ⟨d.client, l.taken.length⟩
      · -- a number that was not given out is not done
        subst hid
        have hlt := (h.served.done_or_held l.taken.length).mpr (.inl hmem)
        exact absurd hlt (Nat.lt_irrefl _)
      · rw [Function.update_of_ne hid] at htask
        exact h.ended id t htask hmem
  | @ends i env buffer id t hreceiver htask hdone =>
    refine ⟨hserved, h.tasks, h.known, h.free_set fun _ => resize_length _ _, ?_⟩
    intro id' t' htask' hmem
    rcases List.mem_append.mp hmem with hold | hnew
    · exact h.ended id' t' htask' hold
    · obtain rfl := h.unique htask' htask (List.mem_singleton.mp hnew)
      rw [htask] at htask'
      cases htask'
      exact hdone
  | @works i env buffer id t a hreceiver htask hopen hadvance =>
    have hdata := (Task.advance_counted hadvance hopen).1
    refine ⟨hserved, ?_, ?_, h.free, ?_⟩
    · intro id' t' htask'
      by_cases hid : id' = id
      · subst hid
        rw [Workers.record_tasks_self] at htask'
        cases htask'
        rw [hdata]
        exact h.tasks id' t htask
      · rw [Workers.record_tasks_of_ne hid] at htask'
        exact h.tasks id' t' htask'
    · intro k d hd hne
      obtain ⟨t', ht'⟩ := h.known k d hd hne
      by_cases hid : (⟨d.client, k⟩ : TaskId) = id
      · exact ⟨a.task, by rw [hid, Workers.record_tasks_self]⟩
      · exact ⟨t', by rw [Workers.record_tasks_of_ne hid, ht']⟩
    · intro id' t' htask' hmem
      by_cases hid : id' = id
      · subst hid
        exact absurd hmem (h.notMem_finished hreceiver)
      · rw [Workers.record_tasks_of_ne hid] at htask'
        exact h.ended id' t' htask' hmem
  | reopens => exact ⟨hserved, h.tasks, h.known, h.free, h.ended⟩
  | around s running hstats hworkers => exact ⟨hserved, h.tasks, h.known, h.free, h.ended⟩

theorem Fed.run (h : l.Fed) {moves : List ReceiveMove} (hrun : l.run evp moves = .ok l') : l'.Fed :=
  Runs.foldlM_invariant (fun _ _ _ _ hfed hstep => hfed.step (step_happens hstep)) h hrun

/-- Nothing is lost without a restart of the socket. -/
theorem arrived_of_no_reopen {moves : List ReceiveMove}
    (h : l.arrived = l.taken ++ l.socket) (hmoves : .reopen ∉ moves)
    (hrun : l.run evp moves = .ok l') : l'.arrived = l'.taken ++ l'.socket := by
  refine Runs.foldlM_invariant (I := fun l => l.arrived = l.taken ++ l.socket)
    (fun m hm t t' ht hstep => ?_) h hrun
  obtain ⟨acts, hacts, hdiscard⟩ := step_queue (step_happens hstep)
  have hnone : .discard ∉ acts := fun hmem => hmoves (hdiscard hmem ▸ hm)
  have hkeep := t.queue.order_of_no_discard ht hnone
  rw [← hacts] at hkeep
  exact hkeep

/-- **What a step of the loop does are steps of the workers.** -/
theorem step_workers (h : Happens evp l m l') :
    ∃ events, l.workers.run evp events = .ok l'.workers := by
  cases h with
  | arrives | again | empty | ends | reopens => exact ⟨[], rfl⟩
  | takes hreceiver hsocket hbytes hstep =>
    exact ⟨[.receive _ _], Components.foldlM_cons_iff.mpr ⟨_, hstep, rfl⟩⟩
  | @works i env buffer id t a hreceiver htask hopen hadvance =>
    refine ⟨[.advance id env], Components.foldlM_cons_iff.mpr ⟨_, ?_, rfl⟩⟩
    simp only [Workers.step, htask, hadvance]
  | around s running hstats hworkers => exact hworkers

/-- What the loop does is an interleaving of the workers' steps; induction on the moves. -/
theorem run_workers {moves : List ReceiveMove} (hrun : l.run evp moves = .ok l') :
    ∃ events, l.workers.run evp events = .ok l'.workers := by
  refine Runs.foldlM_invariant (I := fun t => ∃ events, l.workers.run evp events = .ok t.workers)
    (fun m _ t t' ht hstep => ?_) ⟨[], rfl⟩ hrun
  obtain ⟨before, hbefore⟩ := ht
  obtain ⟨events, hevents⟩ := step_workers (step_happens hstep)
  exact ⟨before ++ events, Runs.foldlM_append_iff.mpr ⟨_, hbefore, hevents⟩⟩

/-- **The datagrams and the workers.** In every interleaving: datagrams leave the socket in
the order in which they came in, and each is with one worker or left behind, once; without
a restart of the socket none is lost. `processPacket` is given the first 48 bytes of each
that has any, and nothing else, and it has returned when the datagram is left behind. And
all the server goes through are steps of `Workers`. -/
theorem datagrams_served (evp : Evp) (c : NtpConfig) (logger : LoggerSettings) (threads : Nat)
    (moves : List ReceiveMove) (l : ReceiveLoop)
    (hrun : (start c logger threads).run evp moves = .ok l) :
    ((l.taken ++ l.socket).Sublist l.arrived ∧
      (.reopen ∉ moves → l.arrived = l.taken ++ l.socket)) ∧
    (l.finished ++ l.receivers.filterMap fun r => r.current.map TaskId.number).Perm
      (List.range l.taken.length) ∧
    (∀ (k : Nat) d, l.taken[k]? = some d → d.bytes ≠ [] →
      ∃ t, l.workers.tasks ⟨d.client, k⟩ = some t ∧ t.data = d.bytes.take ntpPacketSize ∧
        (k ∈ l.finished → t.stage.isDone = true)) ∧
    (∀ id t, l.workers.tasks id = some t →
      ∃ d, l.taken[id.number]? = some d ∧ d.client = id.client ∧ d.bytes ≠ []) ∧
    ∃ events, (Workers.idle (.start c logger)).run evp events = .ok l.workers := by
  have hfed := (Fed.start c logger threads).run hrun
  refine ⟨⟨hfed.served.order, fun hmoves => arrived_of_no_reopen rfl hmoves hrun⟩, ?_, ?_, ?_,
    run_workers hrun⟩
  · have honce := hfed.served.once
    rwa [queue, WorkQueue.held, List.filterMap_map] at honce
  · intro k d hd hne
    obtain ⟨t, ht⟩ := hfed.known k d hd hne
    obtain ⟨d', hd', -, -, hdata⟩ := hfed.tasks _ t ht
    rw [hd] at hd'
    cases hd'
    exact ⟨t, ht, hdata, hfed.ended _ t ht⟩
  · intro id t ht
    obtain ⟨d, hd, hclient, hne, -⟩ := hfed.tasks id t ht
    exact ⟨d, hd, hclient, hne⟩

/-- A request with twelve bytes behind it and four bytes from the same client, and a
worker that takes one after the other. -/
def longThenShort : List ReceiveMove :=
  [.arrive ⟨exampleClient, exampleRequest ++ List.replicate 12 255⟩,
    .arrive ⟨exampleClient, [1, 2, 3, 4]⟩, .recvfrom 0] ++
    List.replicate 9 (.work 0 exampleEnv) ++ [.recvfrom 0]

/-- The short datagram is processed as it came. -/
theorem datagrams_served_short :
    ∃ l, (start NtpConfig.defaults (NtpServer.loggerSettings NtpConfig.defaults) 1).run
        (fun _ _ => none) longThenShort = .ok l ∧
      (l.finished ++ l.receivers.filterMap fun r => r.current.map TaskId.number).Perm [0, 1] ∧
      ∃ t, l.workers.tasks ⟨exampleClient, 1⟩ = some t ∧ t.data = [1, 2, 3, 4] := by
  have hrecord : (((start NtpConfig.defaults (NtpServer.loggerSettings NtpConfig.defaults) 1).run
      (fun _ _ => none) longThenShort).map fun l => (l.finished, l.taken)).toOption
      = some ([0], [⟨exampleClient, exampleRequest ++ List.replicate 12 255⟩,
        ⟨exampleClient, [1, 2, 3, 4]⟩]) := by
    decide +kernel
  obtain ⟨l, hrun, hpair⟩ := Runs.exists_of_toOption_map hrecord
  obtain ⟨-, htaken⟩ := Prod.mk.inj hpair
  obtain ⟨-, honce, hdata, -⟩ := datagrams_served _ _ _ _ _ l hrun
  rw [htaken] at honce hdata
  obtain ⟨t, ht, htake, -⟩ := hdata 1 _ rfl (by decide)
  exact ⟨l, hrun, honce, t, ht, htake⟩

end ReceiveLoop

end SimpleNtpd
