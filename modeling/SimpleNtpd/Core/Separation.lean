import SimpleNtpd.Core.Clients
import SimpleNtpd.Lib.Components

/-!
# The clients as independent components

The workers' steps form a system with one component for each client address:
its books, its datagrams in work, and the record about them. A step belongs to
the client whose datagram it is on; a round of the sync thread and a clean-up
belong to nobody. `workers_separated` is the condition of the library on such
systems, so what the workers do to a client in any interleaving is what the
client's own steps do to its component alone.
-/

namespace SimpleNtpd

open Cpp

/-! ## One client -/

/-- One client address: its books, its datagrams in work, and the record. -/
@[ext] structure Client where
  books : Books := {}
  tasks : TaskId → Option Task := fun _ => none
  log : List Observation := []

namespace Client

/-- The client after a step on one of its datagrams. -/
def record (k : Client) (id : TaskId) (l : Accounted) : Client where
  books := l.books
  tasks := Function.update k.tasks id (some l.task)
  log := k.log ++ l.observed.toList

/-- A step of the client. -/
def step (evp : Evp) (c : NtpConfig) (k : Client) : WorkerEvent → Except Exn Client
  | .receive id data =>
    match k.tasks id with
    | some _ => .ok k
    | none => .ok { k with tasks := Function.update k.tasks id (some { data := data }) }
  | .advance id env =>
    match k.tasks id with
    | none => .ok k
    | some t =>
      match k.books.advance evp c id t env with
      | .error e => .error e
      | .ok l => .ok (k.record id l)
  | .sync _ _ => .ok k
  | .cleanup => .ok k

end Client

/-- The client a step belongs to. -/
def WorkerEvent.client : WorkerEvent → Option UInt32
  | receive id _ => some id.client.ip
  | advance id _ => some id.client.ip
  | sync _ _ => none
  | cleanup => none

/-- A client's component of the whole. -/
def Workers.client (w : Workers) (ip : UInt32) : Client where
  books := w.server.books ip
  tasks id := if id.client.ip = ip then w.tasks id else none
  log := w.log.filter fun o => o.id.client.ip = ip

/-- The workers' steps, divided by clients. -/
def workerSystem (evp : Evp) (c : NtpConfig) :
    Components.System Workers WorkerEvent UInt32 Client Exn where
  step := Workers.step evp
  owner := WorkerEvent.client
  view := Workers.client
  act _ := Client.step evp c

/-! ## Separation -/

section Separation

variable {evp : Evp} {c : NtpConfig} {w w' : Workers} {id : TaskId} {env : PacketEnv}

/-- A step on a datagram is recorded for that datagram. -/
theorem observed_id {b : Books} {t : Task} {l : Accounted}
    (h : b.advance evp c id t env = .ok l) : ∀ o ∈ l.observed, o.id = id := by
  have hfinish : ∀ (b : Books) (accepted : Bool), ∀ o ∈ (b.finish id t accepted).observed,
      o.id = id := by
    intro b accepted o ho
    unfold Books.finish at ho
    split at ho
    · cases ho
      rfl
    · cases ho
  unfold Books.advance at h
  cases hstage : t.stage with
  | received =>
    rw [hstage] at h
    simp only [Books.access] at h
    split at h <;> cases h <;> intro o ho <;> cases ho
  | allowed =>
    rw [hstage] at h
    cases h
    unfold Books.limitConnections
    dsimp only
    split <;> intro o ho <;> cases ho <;> rfl
  | admitted =>
    rw [hstage] at h
    cases h
    unfold Books.detectAnomaly
    dsimp only
    split <;> intro o ho <;> cases ho
  | screened =>
    rw [hstage] at h
    simp only [Books.connect] at h
    split at h <;> cases h
    intro o ho
    cases ho
  | connected =>
    rw [hstage] at h
    cases h
    unfold Books.check
    split
    · split <;> intro o ho <;> cases ho
    · exact hfinish b false
  | timed packet bucket =>
    rw [hstage] at h
    cases h
    unfold Books.limitRequests
    split
    · exact hfinish b false
    · dsimp only
      split <;> intro o ho <;> cases ho <;> rfl
  | limited packet =>
    rw [hstage] at h
    cases h
    unfold Books.authenticate
    split
    · exact hfinish b false
    · split
      · exact hfinish b false
      · intro o ho
        cases ho
  | accepted =>
    rw [hstage] at h
    cases h
    exact hfinish b true
  | done verdict =>
    rw [hstage] at h
    cases h
    intro o ho
    cases ho

/-- A step of the workers on a datagram, and the step on its client's books. -/
theorem step_advance {t : Task} (h : NtpServer.Uniform c w.server) (ht : w.tasks id = some t)
    (hstep : w.step evp (.advance id env) = .ok w') :
    ∃ a l, t.advance evp w.server id env = .ok a ∧ w' = w.record id a ∧
      (w.server.books id.client.ip).advance evp c id t env = .ok l ∧
      a.server.books = Function.update w.server.books id.client.ip l.books ∧
      a.task = l.task ∧ a.observed = l.observed := by
  have hbooks := advance_books evp h id t env
  simp only [Workers.step, ht] at hstep
  cases hadvance : t.advance evp w.server id env with
  | error e =>
    rw [hadvance] at hstep
    cases hstep
  | ok a =>
    rw [hadvance] at hstep hbooks
    cases hown : (w.server.books id.client.ip).advance evp c id t env with
    | error e =>
      rw [hown] at hbooks
      cases hbooks
    | ok l =>
      rw [hown] at hbooks
      have heq := Except.ok.inj hbooks
      simp only [Advanced.account, Accounted.within, Prod.mk.injEq] at heq
      exact ⟨a, l, rfl, (Except.ok.inj hstep).symm, rfl, heq.1, heq.2.1, heq.2.2⟩

/-- Every step of the workers keeps the server uniform. -/
theorem uniform_step (h : NtpServer.Uniform c w.server) {e : WorkerEvent}
    (hstep : w.step evp e = .ok w') : NtpServer.Uniform c w'.server := by
  cases e with
  | receive id data =>
    simp only [Workers.step] at hstep
    split at hstep
    · cases hstep
      exact h
    · cases hstep
      exact h
  | advance id env =>
    cases ht : w.tasks id with
    | none =>
      simp only [Workers.step, ht] at hstep
      cases hstep
      exact h
    | some t =>
      obtain ⟨a, l, hadvance, rfl, -⟩ := step_advance h ht hstep
      exact uniform_advance h hadvance
  | sync world now =>
    cases hstep
    exact ⟨h.rules, h.config, h.connections⟩
  | cleanup =>
    cases hstep
    dsimp only
    rwa [h.cleanupConnections]

/-- A step on a client's datagram is the client's step. -/
theorem client_own (h : NtpServer.Uniform c w.server) {e : WorkerEvent} {ip : UInt32}
    (howner : e.client = some ip) (hstep : w.step evp e = .ok w') :
    (w.client ip).step evp c e = .ok (w'.client ip) := by
  -- the view of a table after an update of one of its client's tasks
  have hupdate : ∀ (id : TaskId) (t : Task), id.client.ip = ip →
      Function.update (w.client ip).tasks id (some t)
        = fun id' => if id'.client.ip = ip then Function.update w.tasks id (some t) id' else none := by
    intro id t hid
    funext id'
    by_cases hsame : id' = id
    · subst hsame
      rw [Function.update_self, if_pos hid, Function.update_self]
    · rw [Function.update_of_ne hsame, Function.update_of_ne hsame]
      rfl
  cases e with
  | receive id data =>
    cases howner
    have htask : (w.client id.client.ip).tasks id = w.tasks id := if_pos rfl
    simp only [Workers.step] at hstep
    rw [Client.step, htask]
    cases ht : w.tasks id with
    | some t =>
      rw [ht] at hstep
      cases hstep
      rfl
    | none =>
      rw [ht] at hstep
      cases hstep
      dsimp only
      rw [hupdate id { data := data } rfl]
      rfl
  | advance id env =>
    cases howner
    have htask : (w.client id.client.ip).tasks id = w.tasks id := if_pos rfl
    rw [Client.step, htask]
    cases ht : w.tasks id with
    | none =>
      simp only [Workers.step, ht] at hstep
      cases hstep
      rfl
    | some t =>
      obtain ⟨a, l, -, rfl, hown, hbooks, htask', hobserved⟩ := step_advance h ht hstep
      -- what the step records is the client's own
      have hlog : a.observed.toList.filter (fun o => o.id.client.ip = id.client.ip)
          = a.observed.toList := by
        rw [List.filter_eq_self]
        intro o ho
        rw [hobserved, Option.mem_toList] at ho
        rw [observed_id hown o ho]
        exact decide_eq_true rfl
      have hown' : (w.client id.client.ip).books.advance evp c id t env = .ok l := hown
      dsimp only
      rw [hown']
      dsimp only
      refine congrArg Except.ok (Client.ext ?_ ?_ ?_)
      · show l.books = a.server.books id.client.ip
        rw [hbooks, Function.update_self]
      · show Function.update (w.client id.client.ip).tasks id (some l.task) = _
        rw [hupdate id l.task rfl, ← htask']
        rfl
      · show (w.client id.client.ip).log ++ l.observed.toList
          = (w.log ++ a.observed.toList).filter fun o => o.id.client.ip = id.client.ip
        rw [List.filter_append, hlog, hobserved]
        rfl
  | sync world now => cases howner
  | cleanup => cases howner

/-- A step on another's datagram, or on none, is nothing to a client. -/
theorem client_frame (h : NtpServer.Uniform c w.server) {e : WorkerEvent} {ip : UInt32}
    (howner : e.client ≠ some ip) (hstep : w.step evp e = .ok w') :
    w'.client ip = w.client ip := by
  -- an update of another client's task is not in the view
  have hupdate : ∀ (id : TaskId) (t : Task), id.client.ip ≠ ip →
      (fun id' : TaskId =>
        if id'.client.ip = ip then Function.update w.tasks id (some t) id' else none)
        = (w.client ip).tasks := by
    intro id t hid
    funext id'
    by_cases hsame : id' = id
    · subst hsame
      exact (if_neg hid).trans (if_neg hid).symm
    · rw [Function.update_of_ne hsame]
      rfl
  cases e with
  | receive id data =>
    have hid : id.client.ip ≠ ip := fun heq => howner (congrArg some heq)
    simp only [Workers.step] at hstep
    split at hstep
    · cases hstep
      rfl
    · cases hstep
      exact Client.ext rfl (hupdate id _ hid) rfl
  | advance id env =>
    have hid : id.client.ip ≠ ip := fun heq => howner (congrArg some heq)
    cases ht : w.tasks id with
    | none =>
      simp only [Workers.step, ht] at hstep
      cases hstep
      rfl
    | some t =>
      obtain ⟨a, l, -, rfl, hown, hbooks, -, hobserved⟩ := step_advance h ht hstep
      have hlog : a.observed.toList.filter (fun o => o.id.client.ip = ip) = [] := by
        rw [List.filter_eq_nil_iff]
        intro o ho
        rw [hobserved, Option.mem_toList] at ho
        rw [observed_id hown o ho, decide_eq_true_eq]
        exact hid
      refine Client.ext ?_ (hupdate id _ hid) ?_
      · show a.server.books ip = w.server.books ip
        rw [hbooks, Function.update_of_ne (Ne.symm hid)]
      · show (w.log ++ a.observed.toList).filter (fun o => o.id.client.ip = ip) = (w.client ip).log
        rw [List.filter_append, hlog, List.append_nil]
        rfl
  | sync world now =>
    cases hstep
    rfl
  | cleanup =>
    -- every connection is active, so none is erased
    cases hstep
    refine Client.ext ?_ rfl rfl
    show w.server.cleanupConnections.books ip = w.server.books ip
    rw [h.cleanupConnections]

end Separation

/-- **The clients are independent components.** -/
theorem workers_separated (evp : Evp) (c : NtpConfig) :
    (workerSystem evp c).Separated fun w => NtpServer.Uniform c w.server where
  keep h hstep := uniform_step h hstep
  own h howner hstep := client_own h howner hstep
  frame h howner hstep := client_frame h howner hstep

/-- The workers of a server that has just been started. -/
def Workers.start (c : NtpConfig) (logger : LoggerSettings) : Workers := .idle (.start c logger)

/-- A client of such a server has clean books. -/
theorem Workers.client_start (c : NtpConfig) (logger : LoggerSettings) (ip : UInt32) :
    (Workers.start c logger).client ip = {} :=
  Client.ext rfl (funext fun _ => ite_self none) rfl

/-- **A client in any interleaving.** What the workers have done to a client is
what its own steps make of clean books. -/
theorem client_run {evp : Evp} {c : NtpConfig} {logger : LoggerSettings}
    {events : List WorkerEvent} {w : Workers}
    (hrun : (Workers.start c logger).run evp events = .ok w) (ip : UInt32) :
    (events.filter fun e => e.client = some ip).foldlM (Client.step evp c) {}
      = .ok (w.client ip) := by
  rw [← Workers.client_start c logger ip]
  exact Components.System.run_view (workers_separated evp c) (NtpServer.Uniform.start c logger) hrun ip

end SimpleNtpd
