import SimpleNtpd.Core.WorkerSections
import SimpleNtpd.Core.WellFormedReplies

/-!
# The workers and a serial server

What the server keeps for an address is changed under mutexes, by the sections of its own
datagrams. Where no two datagrams of one address are under way at once, every datagram
fares with the workers as with a server that processes one datagram after the other, each
with `processPacket`, where its last section stands, and with the clocks as its sections
read them: it has the same verdict and leaves the same in the books of its address
(`datagrams_serialize`). So it is where each address sends one datagram
(`apart_of_one_each`).

Nothing is said of the counters, which the workers change without a lock, and of the bytes
of a reply, for which a worker asks the sync manager more than once (`torn_reply`).

What is completed is recorded beside the workers (`Recording`), which run as they do without
the record (`run_workers`).
-/

namespace SimpleNtpd

open Cpp Runs

/-! ## Steps that leave a datagram alone -/

/-- The datagram of an event. -/
def WorkerEvent.id : WorkerEvent → Option TaskId
  | receive id _ => some id
  | advance id _ => some id
  | sync _ _ => none
  | cleanup => none

section Unchanged

variable {evp : Evp} {id : TaskId} {t : Task} {env : PacketEnv} {a : Advanced}

/-- Nothing happens to a datagram that is done. -/
theorem Task.advance_of_done {s : NtpServer} (h : t.advance evp s id env = .ok a)
    (hdone : t.stage.isDone = true) : a = { server := s, task := t } := by
  cases hstage : t.stage with
  | done verdict =>
    rw [Task.advance, hstage] at h
    cases h
    rfl
  | _ =>
    rw [hstage] at hdone
    cases hdone

theorem Workers.record_of_done {w : Workers} (ht : w.tasks id = some t) :
    w.record id { server := w.server, task := t } = w := by
  have htasks : Function.update w.tasks id (some t) = w.tasks := by
    rw [← ht, Function.update_eq_self]
  unfold record
  simp only [htasks, Option.toList_none, List.append_nil]

theorem Workers.record_sent_of_ne (w : Workers) {id' : TaskId} (h : id' ≠ id) (a : Advanced) :
    (w.record id a).sent id' = w.sent id' := by
  unfold record
  cases a.reply with
  | none => rfl
  | some reply => exact Function.update_of_ne h _ _

/-- A step is about one datagram. -/
theorem Workers.tasks_step_of_ne {w w' : Workers} {e : WorkerEvent} {id : TaskId} (hid : id ∉ e.id)
    (hstep : w.step evp e = .ok w') : w'.tasks id = w.tasks id := by
  cases e with
  | receive id' data =>
    have hne : id ≠ id' := fun heq => hid (congrArg some heq.symm)
    simp only [step] at hstep
    split at hstep
    · cases hstep
      rfl
    · cases hstep
      exact Function.update_of_ne hne _ _
  | advance id' env =>
    have hne : id ≠ id' := fun heq => hid (congrArg some heq.symm)
    simp only [step] at hstep
    split at hstep
    · cases hstep
      rfl
    · split at hstep
      · cases hstep
      · cases hstep
        exact record_tasks_of_ne hne
  | sync world now =>
    cases hstep
    rfl
  | cleanup =>
    cases hstep
    rfl

end Unchanged

/-! ## The workers with a record of what is completed -/

/-- What is completed: a datagram, with the readings of its sections, or something else. -/
inductive Completed where
  | datagram (id : TaskId) (data : Bytes) (before : List PacketEnv) (last : PacketEnv)
  | other (o : Background)

/-- The datagram that is done. -/
def Completed.id : Completed → Option TaskId
  | datagram id _ _ _ => some id
  | other _ => none

def Completed.whole : Completed → Sections.Whole TaskId (Task × Option Bytes) PacketEnv Background
  | datagram id data before last => .action id ({ data := data }, none) before last
  | other o => .other o

/-- The event of a serial server that does the same at once. -/
def Completed.event (done : Completed) : Event := wholeEvent done.whole

/-- The workers, with the readings of each datagram and what was completed, in order. The
record is not part of the program. -/
structure Recording where
  workers : Workers
  readings : TaskId → List PacketEnv := fun _ => []
  completed : List Completed := []

namespace Recording

def start (c : NtpConfig) (logger : LoggerSettings) : Recording := { workers := .start c logger }

/-- The record after a section of a datagram. -/
def put (r : Recording) (w : Workers) (id : TaskId) (t : Task) (env : PacketEnv) : Recording where
  workers := w
  readings := Function.update r.readings id (r.readings id ++ [env])
  completed := if (w.tasks id).any fun t => t.stage.isDone then
    r.completed ++ [.datagram id t.data (r.readings id) env] else r.completed

/-- The record after a step of the workers. -/
def record (r : Recording) (e : WorkerEvent) (w : Workers) : Recording :=
  match e with
  | .receive _ _ => { r with workers := w }
  | .advance id env =>
    match r.workers.tasks id with
    | none => { r with workers := w }
    | some t => if t.stage.isDone then { r with workers := w } else r.put w id t env
  | .sync world now =>
    { r with workers := w, completed := r.completed ++ [.other (.sync world now)] }
  | .cleanup => { r with workers := w, completed := r.completed ++ [.other .cleanup] }

def step (evp : Evp) (r : Recording) (e : WorkerEvent) : Except Exn Recording :=
  match r.workers.step evp e with
  | .error x => .error x
  | .ok w => .ok (r.record e w)

def run (evp : Evp) (r : Recording) (events : List WorkerEvent) : Except Exn Recording :=
  events.foldlM (step evp) r

/-- The processing of a datagram has begun and has not ended. -/
def Begun (r : Recording) (id : TaskId) : Prop :=
  ∃ t, r.workers.tasks id = some t ∧ r.readings id ≠ [] ∧ t.stage.isDone = false

/-- A worker goes on with a datagram only if no other one of its address is under way. -/
def Apart (r : Recording) : WorkerEvent → Prop
  | .advance id _ => ∀ other, other.client.ip = id.client.ip → r.Begun other → other = id
  | _ => True

/-- The actions in sections that the workers are. -/
def actions (r : Recording) : Sections.State TaskId UInt32 NtpServer Books (Task × Option Bytes)
    PacketEnv Background where
  shared := r.workers.server.common
  parts := r.workers.server.books
  actions id := (r.workers.tasks id).map fun t =>
    { first := ({ data := t.data }, none), inputs := r.readings id, now := (t, r.workers.sent id) }
  trace := r.completed.map Completed.whole

/-- What holds between the steps. -/
structure Sound (c : NtpConfig) (r : Recording) : Prop where
  uniform : NtpServer.Uniform c r.workers.server
  unknown : ∀ id, r.workers.tasks id = none → r.readings id = [] ∧ r.workers.sent id = none
  quiet : ∀ id t, r.workers.tasks id = some t → t.stage.isDone = false →
    r.workers.sent id = none

theorem Sound.start (c : NtpConfig) (logger : LoggerSettings) : (start c logger).Sound c where
  uniform := .start c logger
  unknown _ _ := ⟨rfl, rfl⟩
  quiet _ _ _ _ := rfl

section Steps

variable {evp : Evp} {c : NtpConfig} {r r' : Recording} {id : TaskId} {t : Task}
  {env : PacketEnv} {a : Advanced}

/-- What a datagram sends it sends in its section. -/
theorem Sound.record_sent (h : r.Sound c) (ht : r.workers.tasks id = some t)
    (hopen : t.stage.isDone = false) (a : Advanced) :
    (r.workers.record id a).sent id = a.reply := by
  rw [Workers.record_sent_self, h.quiet id t ht hopen]
  cases a.reply <;> rfl

/-- The action of a datagram. -/
theorem actions_of_task (ht : r.workers.tasks id = some t) :
    r.actions.actions id = some
      { first := ({ data := t.data }, none), inputs := r.readings id,
        now := (t, r.workers.sent id) } := by
  simp only [actions, ht, Option.map_some]

/-- The actions after a section of a datagram. -/
theorem actions_put (h : r.Sound c) (ht : r.workers.tasks id = some t)
    (hopen : t.stage.isDone = false) (hdata : a.task.data = t.data)
    (hothers : ∀ ip, ip ≠ id.client.ip → a.server.books ip = r.workers.server.books ip) :
    (r.put (r.workers.record id a) id t env).actions
      = r.actions.put (workerActions evp c) id
          { first := ({ data := t.data }, none), inputs := r.readings id,
            now := (t, r.workers.sent id) } env
          ((a.task, a.reply), a.server.common, a.server.books id.client.ip) := by
  have hbooks : a.server.books
      = Function.update r.workers.server.books id.client.ip (a.server.books id.client.ip) :=
    Function.eq_update_iff.mpr ⟨rfl, hothers⟩
  have hactions : (r.put (r.workers.record id a) id t env).actions.actions
      = Function.update r.actions.actions id (some
          { first := ({ data := t.data }, none), inputs := r.readings id ++ [env],
            now := (a.task, a.reply) }) := by
    funext id'
    by_cases hid : id' = id
    · subst hid
      simp only [actions, Recording.put, Workers.record_tasks_self, Option.map_some, hdata,
        h.record_sent ht hopen, Function.update_self]
    · simp only [actions, Recording.put, Workers.record_tasks_of_ne hid,
        Workers.record_sent_of_ne _ hid, Function.update_of_ne hid]
  have htrace : (r.put (r.workers.record id a) id t env).actions.trace
      = if a.task.stage.isDone then
          r.actions.trace ++ [.action id ({ data := t.data }, none) (r.readings id) env]
        else r.actions.trace := by
    simp only [actions, Recording.put, Workers.record_tasks_self, Option.any_some]
    split
    · rw [List.map_append]
      rfl
    · rfl
  exact Sections.State.ext rfl hbooks hactions htrace

/-- **A section of a datagram.** -/
theorem Sound.put (h : r.Sound c) (ht : r.workers.tasks id = some t)
    (hopen : t.stage.isDone = false) (hadvance : t.advance evp r.workers.server id env = .ok a) :
    r.actions.step (workerActions evp c) (.act id env)
        = .ok (r.put (r.workers.record id a) id t env).actions ∧
      (r.put (r.workers.record id a) id t env).Sound c := by
  obtain ⟨hact, hothers⟩ := advance_act h.uniform hopen hadvance (r.workers.sent id)
  obtain ⟨hdata, hcounted⟩ := Task.advance_counted hadvance hopen
  have haction := actions_of_task ht
  have hended : (workerActions evp c).ended (t, r.workers.sent id) = false := hopen
  refine ⟨?_, uniform_advance h.uniform hadvance, ?_, ?_⟩
  · rw [actions_put h ht hopen hdata hothers]
    exact Sections.State.step_act _ haction hended hact
  · intro id' hnone
    have hid : id' ≠ id := by
      rintro rfl
      rw [Recording.put, Workers.record_tasks_self] at hnone
      cases hnone
    simp only [Recording.put, Workers.record_tasks_of_ne hid] at hnone
    simp only [Recording.put, Function.update_of_ne hid, Workers.record_sent_of_ne _ hid]
    exact h.unknown id' hnone
  · intro id' t' ht' hopen'
    by_cases hid : id' = id
    · subst hid
      simp only [Recording.put, Workers.record_tasks_self, Option.some.injEq] at ht'
      subst ht'
      refine (h.record_sent ht hopen a).trans ?_
      rcases hcounted with hgoes | hends
      · exact hgoes.2.1
      · rw [hends.1] at hopen'
        cases hopen'
    · simp only [Recording.put, Workers.record_tasks_of_ne hid] at ht'
      simp only [Recording.put, Workers.record_sent_of_ne _ hid]
      exact h.quiet id' t' ht' hopen'

/-- A step of the workers as one of the actions. -/
def sectionEvent : WorkerEvent → Sections.Event TaskId (Task × Option Bytes) PacketEnv Background
  | .receive id data => .start id ({ data := data }, none)
  | .advance id env => .act id env
  | .sync world now => .other (.sync world now)
  | .cleanup => .other .cleanup

/-- The record when a datagram is new. -/
def enter (r : Recording) (id : TaskId) (data : Bytes) : Recording :=
  { r with workers := { r.workers with
      tasks := Function.update r.workers.tasks id (some { data := data }) } }

theorem enter_tasks_self (r : Recording) (id : TaskId) (data : Bytes) :
    (r.enter id data).workers.tasks id = some { data := data } := Function.update_self ..

theorem enter_tasks_of_ne {id' : TaskId} (h : id' ≠ id) {data : Bytes} :
    (r.enter id data).workers.tasks id' = r.workers.tasks id' := Function.update_of_ne h _ _

/-- A datagram that is new has no section behind it. -/
theorem actions_enter (h : r.Sound c) (hid : r.workers.tasks id = none) (data : Bytes) :
    (r.enter id data).actions = r.actions.enter id ({ data := data }, none) := by
  obtain ⟨hreadings, hsent⟩ := h.unknown id hid
  refine Sections.State.ext rfl rfl (funext fun id' => ?_) rfl
  by_cases heq : id' = id
  · subst heq
    simp only [actions, Sections.State.enter, enter_tasks_self, Function.update_self,
      Option.map_some]
    simp only [enter, hreadings, hsent]
  · simp only [actions, Sections.State.enter, enter_tasks_of_ne heq, Function.update_of_ne heq]
    rfl

theorem Sound.enter (h : r.Sound c) (hid : r.workers.tasks id = none) (data : Bytes) :
    (r.enter id data).Sound c where
  uniform := h.uniform
  unknown id' hnone := by
    have hne : id' ≠ id := by
      rintro rfl
      rw [enter_tasks_self] at hnone
      cases hnone
    rw [enter_tasks_of_ne hne] at hnone
    exact h.unknown id' hnone
  quiet id' t ht hopen := by
    by_cases heq : id' = id
    · subst heq
      exact (h.unknown id' hid).2
    · rw [enter_tasks_of_ne heq] at ht
      exact h.quiet id' t ht hopen

theorem trace_other (r : Recording) (w : Workers) (o : Background) :
    (actions { r with workers := w, completed := r.completed ++ [.other o] }).trace
      = r.actions.trace ++ [.other o] := by
  simp only [actions, List.map_append, List.map_cons, List.map_nil, Completed.whole]

/-- **Every step of the workers** is one of the actions. -/
theorem Sound.step (h : r.Sound c) {e : WorkerEvent} (hstep : r.step evp e = .ok r') :
    r.actions.step (workerActions evp c) (sectionEvent e) = .ok r'.actions ∧ r'.Sound c := by
  unfold Recording.step at hstep
  cases e with
  | receive id data =>
    cases hid : r.workers.tasks id with
    | some t =>
      simp only [Workers.step, hid] at hstep
      cases hstep
      refine ⟨?_, h⟩
      simp only [sectionEvent, Sections.State.step, actions, hid, Option.map_some, record]
    | none =>
      simp only [Workers.step, hid] at hstep
      cases hstep
      refine ⟨?_, h.enter hid data⟩
      have hnone : r.actions.actions id = none := by simp only [actions, hid, Option.map_none]
      simp only [sectionEvent, Sections.State.step, hnone]
      exact congrArg Except.ok (actions_enter h hid data).symm
  | advance id env =>
    cases hid : r.workers.tasks id with
    | none =>
      simp only [Workers.step, hid] at hstep
      cases hstep
      simp only [sectionEvent, Sections.State.step, actions, record, hid, Option.map_none, true_and]
      exact h
    | some t =>
      cases hadvance : t.advance evp r.workers.server id env with
      | error x =>
        simp only [Workers.step, hid, hadvance] at hstep
        cases hstep
      | ok a =>
        simp only [Workers.step, hid, hadvance] at hstep
        cases hopen : t.stage.isDone with
        | false =>
          simp only [record, hid, hopen, Bool.false_eq_true, if_false] at hstep
          cases hstep
          exact h.put hid hopen hadvance
        | true =>
          obtain rfl := Task.advance_of_done hadvance hopen
          simp only [record, hid, hopen, if_true, Workers.record_of_done hid] at hstep
          cases hstep
          refine ⟨?_, h⟩
          have haction := actions_of_task hid
          have hended : (workerActions evp c).ended (t, r.workers.sent id) = true := hopen
          simp only [sectionEvent, Sections.State.step, haction, hended, if_true]
  | sync world now =>
    simp only [Workers.step] at hstep
    cases hstep
    refine ⟨?_, ⟨h.uniform.rules, h.uniform.config, h.uniform.connections⟩, h.unknown, h.quiet⟩
    refine congrArg Except.ok (Sections.State.ext ?_ rfl rfl ?_)
    · exact (r.workers.server.common_syncOnce world now).symm
    · exact (trace_other r _ _).symm
  | cleanup =>
    simp only [Workers.step, h.uniform.cleanupConnections] at hstep
    cases hstep
    refine ⟨?_, h.uniform, h.unknown, h.quiet⟩
    exact congrArg Except.ok (Sections.State.ext rfl rfl rfl (trace_other r _ _).symm)

theorem begun_actions {r : Recording} {id : TaskId} :
    r.actions.Begun (workerActions evp c) id ↔ r.Begun id := by
  unfold Sections.State.Begun Begun
  simp only [actions, Option.map_eq_some_iff]
  constructor
  · rintro ⟨a, ⟨t, ht, rfl⟩, hinputs, hopen⟩
    exact ⟨t, ht, hinputs, hopen⟩
  · rintro ⟨t, ht, hinputs, hopen⟩
    exact ⟨_, ⟨t, ht, rfl⟩, hinputs, hopen⟩

theorem apart_actions {e : WorkerEvent} (h : r.Apart e) :
    r.actions.Apart (workerActions evp c) (sectionEvent e) := by
  cases e with
  | advance id env => exact fun other hip hbegun => h other hip (begun_actions.mp hbegun)
  | _ => trivial

theorem record_workers (r : Recording) (e : WorkerEvent) (w : Workers) :
    (r.record e w).workers = w := by
  cases e with
  | advance id env =>
    simp only [record]
    split
    · rfl
    · split <;> rfl
  | _ => rfl

/-- The record is not part of the program: the workers run as they do without it. -/
theorem run_workers {events : List WorkerEvent} :
    (r.run evp events).map workers = r.workers.run evp events := by
  induction events generalizing r with
  | nil => rfl
  | cons e events ih =>
    unfold run Workers.run at ih ⊢
    rw [List.foldlM_cons, List.foldlM_cons]
    cases hstep : r.workers.step evp e with
    | error x =>
      simp only [step, hstep]
      rfl
    | ok w =>
      simp only [step, hstep]
      have hrest := ih (r := r.record e w)
      rw [record_workers] at hrest
      exact hrest

end Steps

/-- A datagram that is done has the verdict it has got from the workers, and there is a
reply to it when the workers have sent one. -/
def Answers (r : Recording) : Completed → Option (Verdict × Option Bytes) → Prop
  | .datagram id data before last, out => ∃ t verdict reply, r.workers.tasks id = some t ∧
      t.data = data ∧ r.readings id = before ++ [last] ∧ t.stage = .done verdict ∧
      out = some (verdict, reply) ∧ reply.isSome = (r.workers.sent id).isSome
  | .other _, out => out = none

/-- A server that has done at once what the workers have completed. -/
structure Serial (r : Recording) (s : NtpServer) (outs : List (Option (Verdict × Option Bytes))) :
    Prop where
  /-- what is kept for an address without a datagram under way -/
  books : ∀ ip, (∀ id, id.client.ip = ip → ¬r.Begun id) → s.books ip = r.workers.server.books ip
  answers : List.Forall₂ r.Answers r.completed outs
  /-- each datagram once, when it is done -/
  complete : ∀ id, id ∈ r.completed.filterMap Completed.id ↔
    ∃ t, r.workers.tasks id = some t ∧ t.stage.isDone = true
  once : (r.completed.filterMap Completed.id).Nodup

section Serialization

variable {evp : Evp} {c : NtpConfig} {r : Recording}

theorem answers_of_tells {done : Completed} {result : Option (Task × Option Bytes)}
    {out : Option (Verdict × Option Bytes)}
    (htells : r.actions.Tells (workerActions evp c) done.whole result) (hmeans : Means result out) :
    r.Answers done out := by
  cases done with
  | datagram id data before last =>
    obtain ⟨a, ha, hfirst, hinputs, rfl, -⟩ := htells
    obtain ⟨t, ht, rfl⟩ := Option.map_eq_some_iff.mp ha
    cases out with
    | none => cases hmeans
    | some out =>
      obtain ⟨hverdict, hreply⟩ := hmeans
      have hdata : t.data = data := congrArg (fun first => first.1.data) hfirst
      exact ⟨t, out.1, out.2, ht, hdata, hinputs, hverdict, rfl, congrArg Option.isSome hreply.symm⟩
  | other o =>
    obtain rfl : result = none := htells
    cases out with
    | none => rfl
    | some out => cases hmeans

theorem answers_of_told {done : List Completed} {results : List (Option (Task × Option Bytes))}
    {outs : List (Option (Verdict × Option Bytes))}
    (htold : List.Forall₂ (r.actions.Tells (workerActions evp c)) (done.map Completed.whole)
      results)
    (hmeans : List.Forall₂ Means results outs) : List.Forall₂ r.Answers done outs := by
  induction done generalizing results outs with
  | nil =>
    cases htold
    cases hmeans
    exact .nil
  | cons d done ih =>
    cases htold with
    | cons hd hrest =>
      cases hmeans with
      | cons hout houts => exact .cons (answers_of_tells hd hout) (ih hrest houts)

theorem ids_completed (r : Recording) :
    r.actions.trace.filterMap Sections.Whole.id = r.completed.filterMap Completed.id := by
  simp only [actions, List.filterMap_map]
  exact congrArg (fun f => r.completed.filterMap f) (funext fun done => by cases done <;> rfl)

/-- What follows the actions is a serial server. -/
theorem serial_of_follows {u : Sections.Serial UInt32 NtpServer Books}
    {results : List (Option (Task × Option Bytes))} {s : NtpServer}
    {outs : List (Option (Verdict × Option Bytes))}
    (hfollows : Sections.Follows (workerActions evp c) r.actions u results) (hserves : Serves c u s)
    (hmeans : List.Forall₂ Means results outs) : r.Serial s outs where
  books ip hrest := by
    rw [← hserves.parts]
    exact hfollows.parts ip fun id hid hbegun => hrest id hid (begun_actions.mp hbegun)
  answers := answers_of_told hfollows.told hmeans
  complete id := by
    rw [← ids_completed]
    constructor
    · intro hid
      obtain ⟨a, ha, hended⟩ := Sections.ended_of_traced hfollows.told hid
      obtain ⟨t, ht, rfl⟩ := Option.map_eq_some_iff.mp ha
      exact ⟨t, ht, hended⟩
    · rintro ⟨t, ht, hdone⟩
      have haction := actions_of_task ht
      refine hfollows.traced id _ haction (fun hnone => ?_) hdone
      -- without a section it would not be done
      have hnew : t = { data := t.data } :=
        congrArg Prod.fst (hfollows.fresh id _ haction hnone)
      rw [hnew] at hdone
      cases hdone
  once := by
    rw [← ids_completed]
    exact hfollows.once

/-- The run of the workers' sections is one of whole datagrams. -/
theorem serialized (c : NtpConfig) (logger : LoggerSettings) {events : List WorkerEvent}
    (hrun : (start c logger).run evp events = .ok r)
    (hapart : EveryStep (step evp) (fun r e _ => r.Apart e) (start c logger) events) :
    Sections.Serialized (workerActions evp c)
      { shared := (NtpServer.start c logger).common, parts := (NtpServer.start c logger).books }
      r.actions := by
  obtain ⟨hsections, hsectionsApart, -⟩ := EveryStep.map actions sectionEvent
    (fun s e _ => s.Apart (workerActions evp c) e) (fun h hstep => Sound.step h hstep)
    (fun _ happart => apart_actions happart) (Sound.start c logger) hapart hrun
  exact Sections.serializes (workerActions_local evp c) _ _ hsections hsectionsApart

/-- A run of whole datagrams is a run of the server. -/
theorem exists_serial {logger : LoggerSettings}
    (h : Sections.Serialized (workerActions evp c)
      { shared := (NtpServer.start c logger).common, parts := (NtpServer.start c logger).books }
      r.actions) :
    ∃ s outs, (NtpServer.start c logger).run evp (r.completed.map Completed.event) = .ok (s, outs) ∧
      r.Serial s outs := by
  obtain ⟨u, results, hwholes, hfollows⟩ := h
  have hfresh : ∀ w ∈ r.actions.trace, startsFresh w := by
    intro w hw
    obtain ⟨done, -, rfl⟩ := List.mem_map.mp hw
    cases done with
    | datagram id data before last => rfl
    | other o => trivial
  obtain ⟨s, outs, hserver, hserves, hmeans⟩ :=
    run_of_wholes (NtpServer.Uniform.start c logger) hwholes hfresh
  refine ⟨s, outs, ?_, serial_of_follows hfollows hserves hmeans⟩
  rw [← hserver, actions, List.map_map]
  rfl

/-- **Every datagram fares as with a serial server.** Where no two datagrams of one address are
ever under way at once, the server that does at once what the workers complete, each datagram
with `processPacket` where its last section stands, comes to the same verdicts, and to the same
books of every address without a datagram under way. -/
theorem datagrams_serialize (c : NtpConfig) (logger : LoggerSettings) {events : List WorkerEvent}
    (hrun : (start c logger).run evp events = .ok r)
    (hapart : EveryStep (step evp) (fun r e _ => r.Apart e) (start c logger) events) :
    ∃ s outs, (NtpServer.start c logger).run evp (r.completed.map Completed.event) = .ok (s, outs) ∧
      r.Serial s outs :=
  exists_serial (serialized c logger hrun hapart)

end Serialization

/-! ## One datagram an address -/

section OneEach

variable {evp : Evp} {r r' : Recording}

/-- Only datagrams that events are about are known. -/
theorem known_step {ids : List TaskId}
    (hknown : ∀ id t, r.workers.tasks id = some t → id ∈ ids) {e : WorkerEvent}
    (he : ∀ id ∈ e.id, id ∈ ids) (hstep : r.step evp e = .ok r') :
    ∀ id t, r'.workers.tasks id = some t → id ∈ ids := by
  intro id t ht
  by_cases hid : id ∈ e.id
  · exact he id hid
  · refine hknown id t (Eq.trans ?_ ht)
    unfold step at hstep
    split at hstep
    · cases hstep
    · rename_i w hw
      cases hstep
      rw [record_workers]
      exact (Workers.tasks_step_of_ne hid hw).symm

/-- **Where each address sends one datagram**, no two of an address are under way. -/
theorem apart_of_one_each (ids : List TaskId)
    (hone : ∀ i ∈ ids, ∀ j ∈ ids, i.client.ip = j.client.ip → i = j)
    {events : List WorkerEvent} (hevents : ∀ e ∈ events, ∀ id ∈ e.id, id ∈ ids)
    (hknown : ∀ id t, r.workers.tasks id = some t → id ∈ ids) :
    EveryStep (step evp) (fun r e _ => r.Apart e) r events := by
  induction events generalizing r with
  | nil => trivial
  | cons e events ih =>
    intro s hstep
    have he := hevents e List.mem_cons_self
    refine ⟨?_, ih (fun e' he' => hevents e' (List.mem_cons_of_mem e he'))
      (known_step hknown he hstep)⟩
    cases e with
    | advance id env =>
      rintro other hip ⟨t, ht, -⟩
      exact hone other (hknown other t ht) id (he id rfl) hip
    | _ => trivial

end OneEach

/-- A client at another address. -/
def laterClient : SockAddr := ⟨0xC0000208, 123⟩

/-- A request comes later than another one, and is done first. -/
def overtakenRequest : List WorkerEvent :=
  [.receive ⟨exampleClient, 0⟩ exampleRequest, .advance ⟨exampleClient, 0⟩ exampleEnv,
    .receive ⟨laterClient, 1⟩ exampleRequest] ++
    List.replicate 8 (.advance ⟨laterClient, 1⟩ exampleEnv) ++
    List.replicate 7 (.advance ⟨exampleClient, 0⟩ exampleEnv)

/-- The serial server answers the later one first. -/
theorem datagrams_serialize_overtaken :
    ∃ r s outs, (start NtpConfig.defaults (NtpServer.loggerSettings NtpConfig.defaults)).run
        (fun _ _ => none) overtakenRequest = .ok r ∧
      (NtpServer.start NtpConfig.defaults (NtpServer.loggerSettings NtpConfig.defaults)).run
        (fun _ _ => none) (r.completed.map Completed.event) = .ok (s, outs) ∧
      r.completed.filterMap Completed.id = [⟨laterClient, 1⟩, ⟨exampleClient, 0⟩] ∧
      r.Serial s outs := by
  have hdone : (((start NtpConfig.defaults (NtpServer.loggerSettings NtpConfig.defaults)).run
      (fun _ _ => none) overtakenRequest).map fun r => r.completed.filterMap Completed.id).toOption
      = some [⟨laterClient, 1⟩, ⟨exampleClient, 0⟩] := by
    decide +kernel
  obtain ⟨r, hrun, hids⟩ := Runs.exists_of_toOption_map hdone
  have hapart : EveryStep (step fun _ _ => none) (fun r e _ => r.Apart e)
      (start NtpConfig.defaults (NtpServer.loggerSettings NtpConfig.defaults)) overtakenRequest :=
    apart_of_one_each [⟨exampleClient, 0⟩, ⟨laterClient, 1⟩] (by decide) (by decide)
      (fun id t ht => by cases ht)
  obtain ⟨s, outs, hserver, hserial⟩ := datagrams_serialize _ _ hrun hapart
  exact ⟨r, s, outs, hrun, hserver, hids, hserial⟩

end Recording

end SimpleNtpd
