import SimpleNtpd.Core.Authentication
import SimpleNtpd.Core.Daemon

/-!
# The serving socket

`server_socket_` is made on two paths. `NtpServer::start` creates and binds it, and
closes it again when it cannot be bound. The receive loop does the same when `recvfrom`
reports an error, up to `service_restart_limit` times; but there a socket that cannot
be bound stays. No datagram reaches it, and `recvfrom` only says that none is there, so
the loop never comes back to mend it.

A `Listener` is a daemon with its socket. One pass of the receive loop, with all that
it does about an error, is one step. `socket_bound_or_absent_iff` says which runs keep
the socket bound or absent: those in which no restart creates a socket that it cannot
bind.
-/

namespace SimpleNtpd

open Cpp

/-! ## Listeners -/

/-- What `server_socket_` is. -/
inductive ServerSocket where
  /-- `INVALID_SOCKET` -/
  | invalid
  /-- created, and no `bind` has succeeded on it -/
  | unbound
  /-- `bindSocket` has succeeded on it -/
  | bound
  deriving DecidableEq, Repr

/-- A daemon with its socket. -/
structure Listener where
  daemon : Daemon
  socket : ServerSocket
  /-- `restart_count_` -/
  restartCount : UInt32

namespace Listener

/-- The constructor (server.cpp:39–64). -/
def create (c : NtpConfig) (logger : LoggerSettings) : Listener where
  daemon := .create c logger
  socket := .invalid
  restartCount := 0

/-- `initializeSocket` (server.cpp:214–247). -/
def initializeSocket (l : Listener) (env : StartEnv) : Bool × Listener :=
  if !env.socketOk then (false, { l with socket := .invalid })
  else (true, { l with socket := .unbound })

/-- `bindSocket` on a socket that has just been created (server.cpp:327–346). -/
def bindSocket (l : Listener) (env : StartEnv) : Bool × Listener :=
  if l.daemon.bindSocket env then (true, { l with socket := .bound }) else (false, l)

/-- `closeSocket` (server.cpp:575–585). -/
def closeSocket (l : Listener) : Listener := { l with socket := .invalid }

/-- Start the server (server.cpp:68–128). -/
def start (l : Listener) (env : StartEnv) : Bool × Listener :=
  if l.daemon.running then (false, l)
  else if secureFilesMissing l.daemon.currentConfig then (false, l)
  else
    let (created, l) := l.initializeSocket env
    if !created then (false, l)
    else
      let (bound, l) := l.bindSocket env
      if !bound then (false, l.closeSocket)
      else (true, { l with daemon := (l.daemon.start env).2 })

/-- Stop the server (server.cpp:181–210). -/
def stop (l : Listener) : Listener :=
  if !l.daemon.running then l else { l.closeSocket with daemon := l.daemon.stop }

/-- The receive loop may try to restart the socket (server.cpp:409–410). -/
def mayRestart (l : Listener) : Bool :=
  l.daemon.currentConfig.enableSelfHealing
    && l.restartCount < l.daemon.currentConfig.serviceRestartLimit

/-- What a worker does when `recvfrom` has reported an error (server.cpp:407–419). -/
def receiveFailed (l : Listener) (env : StartEnv) : Listener :=
  if l.mayRestart then
    let l := { l with restartCount := l.restartCount + 1 }
    let (created, l) := l.closeSocket.initializeSocket env
    if created then (l.bindSocket env).2 else l
  else l

/-- What can happen to a listener. The outcomes of `recvfrom` other than an error lead
to an event of the server, or to nothing. -/
inductive Step where
  | start (env : StartEnv)
  | serve (e : Event)
  | receiveFailed (env : StartEnv)
  | stop

/-- One event. There are workers while the server is running. -/
def step (evp : Evp) (l : Listener) : Step → Except Exn Listener
  | .start env => .ok (l.start env).2
  | .serve e => (l.daemon.step evp (.serve e)).map fun d => { l with daemon := d }
  | .receiveFailed env => .ok (if l.daemon.running then l.receiveFailed env else l)
  | .stop => .ok l.stop

/-! ## Bound or absent -/

/-- While the server is running the socket is bound, or there is none. -/
def BoundOrAbsent (l : Listener) : Prop := l.daemon.running = true → l.socket ≠ .unbound

/-- The event is a restart that creates a socket and cannot bind it. -/
def FailsToBind (l : Listener) (e : Step) : Prop :=
  ∃ env, e = .receiveFailed env ∧ l.daemon.running = true ∧ l.mayRestart = true ∧
    env.socketOk = true ∧ l.daemon.bindSocket env = false

/-- **What a restart leaves**: no socket, an unbound one, or a bound one, by how far it
came. -/
theorem receiveFailed_eq (l : Listener) (env : StartEnv) :
    l.receiveFailed env =
      if l.mayRestart then { l with
        restartCount := l.restartCount + 1
        socket := if !env.socketOk then .invalid
          else if l.daemon.bindSocket env then .bound
          else .unbound }
      else l := by
  unfold receiveFailed closeSocket initializeSocket bindSocket
  split
  · obtain ⟨socketOk, bindOk⟩ := env
    cases socketOk with
    | false => rfl
    | true =>
      show (if l.daemon.bindSocket ⟨true, bindOk⟩ then _ else _ : Bool × Listener).2 = _
      cases l.daemon.bindSocket ⟨true, bindOk⟩ <;> rfl
  · rfl

/-- **What a start leaves**: it fails where it was or without a socket, or ends with a
bound one. -/
theorem start_cases (l : Listener) (env : StartEnv) :
    (l.start env).2 = l ∨ (l.start env).2.socket = .invalid ∨ (l.start env).2.socket = .bound := by
  unfold start closeSocket initializeSocket bindSocket
  obtain ⟨socketOk, bindOk⟩ := env
  cases l.daemon.running with
  | true => exact .inl rfl
  | false =>
    cases secureFilesMissing l.daemon.currentConfig with
    | true => exact .inl rfl
    | false =>
      cases socketOk with
      | false => exact .inr (.inl rfl)
      | true =>
        cases hbind : l.daemon.bindSocket ⟨true, bindOk⟩ with
        | false =>
          right
          left
          simp only [Bool.not_true, Bool.false_eq_true, if_false, hbind, Bool.not_false, if_true]
        | true =>
          right
          right
          simp only [Bool.not_true, Bool.false_eq_true, if_false, hbind, if_true]

/-- A start whose daemon runs afterwards is none, or has bound the socket. -/
theorem boundOrAbsent_start {l : Listener} (h : l.BoundOrAbsent) (env : StartEnv) :
    (l.start env).2.BoundOrAbsent := by
  rcases l.start_cases env with hstay | hinvalid | hbound
  · rw [hstay]
    exact h
  · intro _
    rw [hinvalid]
    nofun
  · intro _
    rw [hbound]
    nofun

/-- A stop leaves no socket behind. -/
theorem boundOrAbsent_stop {l : Listener} (h : l.BoundOrAbsent) : l.stop.BoundOrAbsent := by
  unfold stop
  split
  · exact h
  · exact fun _ => nofun

/-- What the server does besides does not matter to the socket. -/
theorem boundOrAbsent_serve {l : Listener} (h : l.BoundOrAbsent) {evp : Evp} {e : Event}
    {d : Daemon} (hserve : l.daemon.step evp (.serve e) = .ok d) :
    BoundOrAbsent { l with daemon := d } := by
  obtain ⟨s, out, -, rfl⟩ := Daemon.step_serve hserve
  exact h

/-- **One restart** keeps the socket bound or absent exactly when it does not fail to
bind a socket. -/
theorem boundOrAbsent_receiveFailed_iff {l : Listener} (h : l.BoundOrAbsent)
    (hrunning : l.daemon.running = true) (env : StartEnv) :
    (l.receiveFailed env).BoundOrAbsent ↔ ¬l.FailsToBind (.receiveFailed env) := by
  have hfails : l.FailsToBind (.receiveFailed env) ↔
      l.mayRestart = true ∧ env.socketOk = true ∧ l.daemon.bindSocket env = false := by
    constructor
    · rintro ⟨_, heq, -, hmay, hsocket, hbind⟩
      cases heq
      exact ⟨hmay, hsocket, hbind⟩
    · exact fun ⟨hmay, hsocket, hbind⟩ => ⟨env, rfl, hrunning, hmay, hsocket, hbind⟩
  rw [hfails, receiveFailed_eq]
  unfold BoundOrAbsent
  cases l.mayRestart with
  | false => exact iff_of_true h fun hfail => nomatch hfail.1
  | true =>
    cases env.socketOk with
    | false => exact iff_of_true (fun _ => nofun) fun hfail => nomatch hfail.2.1
    | true =>
      cases l.daemon.bindSocket env with
      | true => exact iff_of_true (fun _ => nofun) fun hfail => nomatch hfail.2.2
      | false => exact iff_of_false (fun hkept => hkept hrunning rfl) fun hnot => hnot ⟨rfl, rfl, rfl⟩

/-- One event. -/
theorem boundOrAbsent_step_iff {evp : Evp} {l l' : Listener} {e : Step} (h : l.BoundOrAbsent)
    (hstep : l.step evp e = .ok l') : l'.BoundOrAbsent ↔ ¬l.FailsToBind e := by
  have hother (hkept : l'.BoundOrAbsent) (hne : ∀ env, e ≠ .receiveFailed env) :
      l'.BoundOrAbsent ↔ ¬l.FailsToBind e :=
    iff_of_true hkept fun ⟨env, heq, _⟩ => hne env heq
  cases e with
  | start env =>
    cases hstep
    exact hother (boundOrAbsent_start h env) fun _ => nofun
  | serve e =>
    rw [step] at hstep
    cases hserve : l.daemon.step evp (.serve e) with
    | error exn =>
      rw [hserve] at hstep
      cases hstep
    | ok d =>
      rw [hserve] at hstep
      cases hstep
      exact hother (boundOrAbsent_serve h hserve) fun _ => nofun
  | receiveFailed env =>
    cases hstep
    cases hrunning : l.daemon.running with
    | true => exact boundOrAbsent_receiveFailed_iff h hrunning env
    | false =>
      refine iff_of_true h ?_
      rintro ⟨-, -, htrue, -⟩
      rw [hrunning] at htrue
      cases htrue
  | stop =>
    cases hstep
    exact hother (boundOrAbsent_stop h) fun _ => nofun

/-- **When the serving socket is bound or absent.** In every run of a new server, with
any outcomes of the calls on the socket, it is after every event exactly when no restart
creates a socket that it cannot bind. -/
theorem socket_bound_or_absent_iff (evp : Evp) (c : NtpConfig) (logger : LoggerSettings)
    (events : List Step) :
    Runs.EveryStep (step evp) (fun _ _ l' => l'.BoundOrAbsent) (create c logger) events ↔
      Runs.EveryStep (step evp) (fun l e _ => ¬l.FailsToBind e) (create c logger) events :=
  Runs.everyStep_iff (I := BoundOrAbsent) boundOrAbsent_step_iff (fun _ _ h => h)
    (fun hrunning => Bool.noConfusion hrunning) events

/-- An unbound socket is there to stay: as long as `recvfrom` reports no error, whatever
else happens to the running server, it is not bound. -/
theorem unbound_stays {evp : Evp} {l l' : Listener} (h : l.socket = .unbound)
    (hrunning : l.daemon.running = true) {events : List Step}
    (hevents : ∀ e ∈ events, e ≠ .stop ∧ ∀ env, e ≠ .receiveFailed env)
    (hrun : events.foldlM (step evp) l = .ok l') :
    l'.socket = .unbound ∧ l'.daemon.running = true := by
  refine Runs.foldlM_invariant (I := fun l => l.socket = .unbound ∧ l.daemon.running = true)
    ?_ ⟨h, hrunning⟩ hrun
  rintro e he t t' ⟨ht, htrunning⟩ hstep
  cases e with
  | start env =>
    cases hstep
    unfold start
    rw [if_pos htrunning]
    exact ⟨ht, htrunning⟩
  | serve e =>
    rw [step] at hstep
    cases hserve : t.daemon.step evp (.serve e) with
    | error exn =>
      rw [hserve] at hstep
      cases hstep
    | ok d =>
      rw [hserve] at hstep
      cases hstep
      obtain ⟨s, out, -, rfl⟩ := Daemon.step_serve hserve
      exact ⟨ht, htrunning⟩
  | receiveFailed env => exact absurd rfl ((hevents _ he).2 env)
  | stop => exact absurd rfl (hevents _ he).1

/-- The default server with self-healing, whose socket fails once and cannot be bound
again, runs with an unbound socket. -/
theorem restart_leaves_unbound :
    let c := { NtpConfig.defaults with enableSelfHealing := true }
    ¬Runs.EveryStep (step constantDigest) (fun _ _ l' => l'.BoundOrAbsent)
      (create c (startupLogger c)) [.start ⟨true, true⟩, .receiveFailed ⟨true, false⟩] := by
  intro c h
  exact ((h _ rfl).2 _ rfl).1 rfl rfl

end Listener

end SimpleNtpd
