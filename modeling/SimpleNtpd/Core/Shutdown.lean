import SimpleNtpd.Lib.Runs

/-!
# Shutdown

`NtpServer::stop` loads `running_`, and stores `false` some lines later; then it
stops the synchronization, the workers and the watcher of the configuration and
joins their threads. It is called by `main` on its way out, by the destructor, and
by the signal handler, which runs on any thread, between any two steps of it and in
front of everything else there: in particular on a worker, or on the main thread in
the middle of another call of `stop`. `UpstreamSyncManager::stop` exchanges its
flag in one step.

The calls are numbered as they come (`Call`). A call takes its steps in any order
with the others, but for one whose thread has been interrupted by a later call. Why
a thread leaves its loop is of no interest here, only that it does not while a call
stands on it.

The sequence is run once and joins every thread once as long as it is begun on the
main thread, with no other call between its load and its store (`stop_runs_once`).
-/

namespace SimpleNtpd

/-- The threads of the daemon. -/
inductive Thread where
  | main
  /-- `worker_threads_[i]` -/
  | worker (i : Nat)
  /-- `config_watch_thread_` -/
  | watcher
  /-- `sync_thread_` of the manager -/
  | sync
  deriving DecidableEq, Repr

/-- Where a call of `stop` stands (server.cpp:181–210). -/
inductive StopPc where
  /-- `if (!running_)` -/
  | check
  /-- `running_ = false` -/
  | clear
  /-- `if (upstream_sync_)` -/
  | syncTest
  /-- `running_.exchange(false)` of the manager -/
  | syncExchange
  /-- `if (thread.joinable())` -/
  | test (t : Thread)
  /-- at the call of `thread.join()` -/
  | join (t : Thread)
  /-- inside `thread.join()` -/
  | wait (t : Thread)
  /-- `upstream_sync_.reset()` -/
  | syncReset
  /-- `workers_running_ = false` -/
  | workersFlag
  /-- `worker_threads_.clear()` -/
  | workersClear
  /-- `config_watch_running_ = false` -/
  | watcherFlag
  /-- the rest: connections, state, backup, socket -/
  | finish
  | returned
  deriving DecidableEq, Repr

/-- A call of `stop` on a thread. -/
structure Call where
  thread : Thread
  pc : StopPc
  deriving DecidableEq, Repr

/-- A call of `join`: who called it, for which thread, and whether that had been
joined before. -/
structure Join where
  caller : Thread
  target : Thread
  again : Bool
  deriving DecidableEq, Repr

/-- What the threads share, and the calls of `stop`. -/
structure Shutdown where
  /-- `running_` -/
  running : Bool := false
  /-- `start` has set `running_` and has not returned -/
  starting : Bool := false
  /-- `upstream_sync_` is set -/
  syncManager : Bool := false
  /-- `running_` of the manager -/
  syncRunning : Bool := false
  /-- `worker_threads_.size()` -/
  workers : Nat := 0
  /-- whether `thread.joinable()` -/
  joinable : Thread → Bool := fun _ => false
  /-- the thread has been created and has not ended -/
  alive : Thread → Bool := fun t => t == .main
  calls : List Call := []
  /-- how often a call has found `running_` set since the last start -/
  passed : Nat := 0
  joins : List Join := []

/-- What happens next. -/
inductive ShutdownMove where
  /-- `start`, up to `running_ = true`, with the number of workers, and whether there is a
  file to watch -/
  | start (workers : Nat) (watch : Bool)
  /-- the rest of `start`, with upstream servers or without -/
  | startSync (upstreams : Bool)
  /-- `stop` is called on a thread: by the signal handler, by `main` or by the
  destructor -/
  | call (t : Thread)
  /-- the next step of a call -/
  | caller (k : Nat)
  /-- a thread ends -/
  | ends (t : Thread)
  deriving DecidableEq, Repr

/-- The call has found `running_` set and has not returned. -/
def Call.Active (c : Call) : Prop := c.pc ≠ .check ∧ c.pc ≠ .returned

/-- The thread a call tests, joins or waits for. -/
def StopPc.target : StopPc → Option Thread
  | .test t => some t
  | .join t => some t
  | .wait t => some t
  | _ => none

namespace Shutdown

/-- What follows the join of a thread. -/
def after (s : Shutdown) : Thread → StopPc
  | .sync => .syncReset
  | .worker i => if i + 1 < s.workers then .test (.worker (i + 1)) else .workersClear
  | .watcher => .finish
  | .main => .finish

/-- A later call stands on the thread of the call. -/
def interrupted (s : Shutdown) (k : Nat) (c : Call) : Bool :=
  (s.calls.drop (k + 1)).any fun d => d.thread == c.thread && d.pc != .returned

/-- The call goes on somewhere. -/
def goto (s : Shutdown) (k : Nat) (c : Call) (pc : StopPc) : Shutdown :=
  { s with calls := s.calls.set k { c with pc := pc } }

/-- One step of a call (server.cpp:181–210, upstream_sync.cpp:130–137). -/
def stepCall (s : Shutdown) (k : Nat) (c : Call) : Shutdown :=
  match c.pc with
  | .check =>
    if s.running then { s.goto k c .clear with passed := s.passed + 1 }
    else s.goto k c .returned
  | .clear => { s.goto k c .syncTest with running := false }
  | .syncTest => s.goto k c (if s.syncManager then .syncExchange else .workersFlag)
  | .syncExchange =>
    { s.goto k c (if s.syncRunning then .test .sync else .syncReset) with syncRunning := false }
  | .test t => s.goto k c (if s.joinable t then .join t else s.after t)
  | .join t =>
    { s.goto k c (.wait t) with joins := s.joins ++ [⟨c.thread, t, !s.joinable t⟩] }
  | .wait t =>
    if s.alive t then s
    else { s.goto k c (s.after t) with joinable := Function.update s.joinable t false }
  | .syncReset => { s.goto k c .workersFlag with syncManager := false }
  | .workersFlag =>
    s.goto k c (if 0 < s.workers then .test (.worker 0) else .workersClear)
  | .workersClear => { s.goto k c .watcherFlag with workers := 0 }
  | .watcherFlag => s.goto k c (.test .watcher)
  | .finish => s.goto k c .returned
  | .returned => s

/-- The threads `start` creates before it sets `running_`. -/
def created (workers : Nat) (watch : Bool) : Thread → Bool
  | .main => false
  | .worker i => i < workers
  | .watcher => watch
  | .sync => false

/-- A call of `stop` on the thread has not returned. -/
def stopping (s : Shutdown) (t : Thread) : Bool :=
  s.calls.any fun c => c.thread == t && c.pc != .returned

/-- One step. A move of who is not there, or has to wait, changes nothing. `start` is
called by the main thread, when every call of `stop` has returned. -/
def step (s : Shutdown) : ShutdownMove → Shutdown
  | .start workers watch =>
    if s.running || s.starting || s.calls.any (·.pc != .returned) then s
    else { s with
      running := true
      starting := true
      workers := workers
      joinable := fun t => created workers watch t || s.joinable t
      alive := fun t => created workers watch t || s.alive t
      passed := 0 }
  | .startSync upstreams =>
    if !s.starting || s.stopping .main then s
    else if upstreams then { s with
      starting := false
      syncManager := true
      syncRunning := true
      joinable := Function.update s.joinable .sync true
      alive := Function.update s.alive .sync true }
    else { s with starting := false }
  | .call t => if s.alive t then { s with calls := s.calls ++ [⟨t, .check⟩] } else s
  | .caller k =>
    match s.calls[k]? with
    | none => s
    | some c => if s.interrupted k c then s else s.stepCall k c
  | .ends t =>
    if s.stopping t then s else { s with alive := Function.update s.alive t false }

/-- The state after some moves. -/
def run (s : Shutdown) (moves : List ShutdownMove) : Shutdown := moves.foldl step s

/-- The sequence has been run at most once since the last start, no thread has
joined itself, and none one that had been joined. -/
def RunsOnce (s : Shutdown) : Prop :=
  s.passed ≤ 1 ∧ ∀ j ∈ s.joins, j.caller ≠ j.target ∧ j.again = false

/-- A call that finds `running_` set runs on the main thread, and no other call
stands between its load and its store. -/
def Orderly (s : Shutdown) : ShutdownMove → Prop
  | .caller k => ∀ c ∈ s.calls[k]?, c.pc = .check → s.running = true →
      c.thread = .main ∧ ∀ d ∈ s.calls, d.pc ≠ .clear
  | _ => True

instance instDecidableOrderly (s : Shutdown) : (m : ShutdownMove) → Decidable (s.Orderly m)
  | .caller k => inferInstanceAs (Decidable (∀ c ∈ s.calls[k]?, c.pc = .check →
      s.running = true → c.thread = .main ∧ ∀ d ∈ s.calls, d.pc ≠ .clear))
  | .start _ _ => isTrue trivial
  | .startSync _ => isTrue trivial
  | .call _ => isTrue trivial
  | .ends _ => isTrue trivial

/-! ## The call that runs the sequence -/

/-- While `running_` is set, whoever has found it so stands in front of the store;
later at most one call is in the sequence, on the main thread, and it is at the join
of joinable threads only. -/
structure InOrder (s : Shutdown) : Prop where
  onMain : ∀ c ∈ s.calls, c.Active → c.thread = .main
  lone : ∀ {j k : Nat} {c d : Call}, s.calls[j]? = some c → s.calls[k]? = some d →
    c.Active → d.Active → j = k
  clear : ∀ c ∈ s.calls, c.Active → (c.pc = .clear ↔ s.running = true)
  unpassed : s.running = true → (∀ c ∈ s.calls, ¬c.Active) → s.passed = 0
  targets : ∀ c ∈ s.calls, c.pc.target ≠ some .main
  joinable : ∀ c ∈ s.calls, ∀ t, c.pc = .join t → s.joinable t = true
  runsOnce : s.RunsOnce

variable {s : Shutdown} {k : Nat} {c : Call} {pc : StopPc}

theorem InOrder.start : InOrder {} where
  onMain _ h := nomatch h
  lone h := nomatch h
  clear _ h := nomatch h
  unpassed _ _ := rfl
  targets _ h := nomatch h
  joinable _ h := nomatch h
  runsOnce := ⟨Nat.zero_le 1, fun _ h => nomatch h⟩

/-- The order is one of the calls, the flag and the joins. -/
theorem InOrder.of_same {s' : Shutdown} (h : InOrder s) (hcalls : s'.calls = s.calls)
    (hrunning : s'.running = s.running) (hpassed : s'.passed = s.passed)
    (hjoinable : s'.joinable = s.joinable) (hjoins : s'.joins = s.joins) : InOrder s' where
  onMain := by
    rw [hcalls]
    exact h.onMain
  lone := by
    rw [hcalls]
    exact h.lone
  clear := by
    rw [hcalls, hrunning]
    exact h.clear
  unpassed := by
    rw [hcalls, hrunning, hpassed]
    exact h.unpassed
  targets := by
    rw [hcalls]
    exact h.targets
  joinable := by
    rw [hcalls, hjoinable]
    exact h.joinable
  runsOnce := by
    unfold RunsOnce
    rw [hpassed, hjoins]
    exact h.runsOnce

/-- A call after a step is as before, or the one that went on. -/
theorem mem_goto {d : Call} (h : d ∈ (s.goto k c pc).calls) : d ∈ s.calls ∨ d = ⟨c.thread, pc⟩ :=
  List.mem_or_eq_of_mem_set h

/-- A call is active where one was before, unless it has just passed. -/
theorem active_goto (hk : s.calls[k]? = some c) (hactive : Call.Active ⟨c.thread, pc⟩ → c.Active)
    {j : Nat} {d : Call} (hj : (s.goto k c pc).calls[j]? = some d) (hd : d.Active) :
    ∃ d', s.calls[j]? = some d' ∧ d'.Active := by
  unfold goto at hj
  rw [List.getElem?_set] at hj
  split at hj
  · rename_i heq
    split at hj
    · cases hj
      exact ⟨c, heq ▸ hk, hactive hd⟩
    · cases hj
  · exact ⟨d, hj, hd⟩

/-- The call that runs the sequence is the only one in it. -/
theorem InOrder.eq_of_active (h : InOrder s) (hk : s.calls[k]? = some c) (hc : c.Active) {d : Call}
    (hd : d ∈ (s.goto k c pc).calls) (hactive : d.Active) : d = ⟨c.thread, pc⟩ := by
  obtain ⟨j, hj⟩ := List.getElem?_of_mem hd
  obtain ⟨d', hj', hd'⟩ := active_goto hk (fun _ => hc) hj hactive
  obtain rfl := h.lone hj' hk hd' hc
  have hlt := (List.getElem?_eq_some_iff.mp hk).1
  change (s.calls.set j _)[j]? = some d at hj
  rw [List.getElem?_set_self hlt] at hj
  exact (Option.some.inj hj).symm

/-- **A call in the sequence goes on in it.** Nothing but the calls changes. -/
theorem InOrder.goto (h : InOrder s) (hk : s.calls[k]? = some c) (hc : c.Active)
    (hrunning : s.running = false) (hpc : pc ≠ .clear) (htarget : pc.target ≠ some .main)
    (hjoin : ∀ t, pc = .join t → s.joinable t = true) : InOrder (s.goto k c pc) := by
  have hmem := List.mem_of_getElem? hk
  refine ⟨?_, ?_, ?_, ?_, ?_, ?_, h.runsOnce⟩
  · intro d hd hactive
    rcases mem_goto hd with hd | rfl
    · exact h.onMain d hd hactive
    · exact h.onMain c hmem hc
  · intro i j d e hi hj hd he
    obtain ⟨d', hi', hd'⟩ := active_goto hk (fun _ => hc) hi hd
    obtain ⟨e', hj', he'⟩ := active_goto hk (fun _ => hc) hj he
    exact h.lone hi' hj' hd' he'
  · intro d hd hactive
    rcases mem_goto hd with hd | rfl
    · exact h.clear d hd hactive
    · refine iff_of_false hpc fun hset => ?_
      change s.running = true at hset
      rw [hrunning] at hset
      cases hset
  · intro hset
    change s.running = true at hset
    rw [hrunning] at hset
    cases hset
  · intro d hd
    rcases mem_goto hd with hd | rfl
    · exact h.targets d hd
    · exact htarget
  · intro d hd t ht
    rcases mem_goto hd with hd | rfl
    · exact h.joinable d hd t ht
    · exact hjoin t ht

/-- A call that finds the flag cleared returns. -/
theorem InOrder.turnBack (h : InOrder s) (hk : s.calls[k]? = some c) (hc : c.pc = .check) :
    InOrder (s.goto k c .returned) := by
  have hback : ¬Call.Active ⟨c.thread, .returned⟩ := fun hactive => hactive.2 rfl
  refine ⟨?_, ?_, ?_, ?_, ?_, ?_, h.runsOnce⟩
  · intro d hd hactive
    rcases mem_goto hd with hd | rfl
    · exact h.onMain d hd hactive
    · exact absurd hactive hback
  · intro i j d e hi hj hd he
    obtain ⟨d', hi', hd'⟩ := active_goto hk (fun hactive => absurd hactive hback) hi hd
    obtain ⟨e', hj', he'⟩ := active_goto hk (fun hactive => absurd hactive hback) hj he
    exact h.lone hi' hj' hd' he'
  · intro d hd hactive
    rcases mem_goto hd with hd | rfl
    · exact h.clear d hd hactive
    · exact absurd hactive hback
  · intro hset hnone
    refine h.unpassed hset fun d hd hactive => ?_
    obtain ⟨j, hj⟩ := List.getElem?_of_mem hd
    have hne : k ≠ j := by
      rintro rfl
      rw [hk] at hj
      cases hj
      exact hactive.1 hc
    refine hnone d (List.mem_of_getElem? (i := j) ?_) hactive
    show (s.calls.set k _)[j]? = some d
    rw [List.getElem?_set_ne hne, hj]
  · intro d hd
    rcases mem_goto hd with hd | rfl
    · exact h.targets d hd
    · exact nofun
  · intro d hd t ht
    rcases mem_goto hd with hd | rfl
    · exact h.joinable d hd t ht
    · cases ht

/-- A call that passes on the main thread, with nobody in front of the store, is the
only one. -/
theorem InOrder.pass (h : InOrder s) (hk : s.calls[k]? = some c) (hrunning : s.running = true)
    (hmain : c.thread = .main) (hnone : ∀ d ∈ s.calls, d.pc ≠ .clear) :
    InOrder { s.goto k c .clear with passed := s.passed + 1 } := by
  have hinactive : ∀ d ∈ s.calls, ¬d.Active := fun d hd hactive =>
    hnone d hd ((h.clear d hd hactive).mpr hrunning)
  have honly : ∀ {j d}, (s.goto k c .clear).calls[j]? = some d → d.Active → j = k := by
    intro j d hj hd
    by_contra hne
    change (s.calls.set k _)[j]? = some d at hj
    rw [List.getElem?_set_ne (Ne.symm hne)] at hj
    exact hinactive d (List.mem_of_getElem? hj) hd
  refine ⟨?_, ?_, ?_, ?_, ?_, ?_, ?_, h.runsOnce.2⟩
  · intro d hd hactive
    rcases mem_goto hd with hd | rfl
    · exact h.onMain d hd hactive
    · exact hmain
  · intro i j d e hi hj hd he
    exact (honly hi hd).trans (honly hj he).symm
  · intro d hd hactive
    rcases mem_goto hd with hd | rfl
    · exact absurd hactive (hinactive d hd)
    · exact iff_of_true rfl hrunning
  · intro _ hall
    have hlt : k < s.calls.length := (List.getElem?_eq_some_iff.mp hk).1
    exact absurd ⟨nofun, nofun⟩ (hall ⟨c.thread, .clear⟩ (List.mem_set hlt _))
  · intro d hd
    rcases mem_goto hd with hd | rfl
    · exact h.targets d hd
    · exact nofun
  · intro d hd t ht
    rcases mem_goto hd with hd | rfl
    · exact h.joinable d hd t ht
    · cases ht
  · show s.passed + 1 ≤ 1
    have hzero := h.unpassed hrunning hinactive
    omega

/-- The store is the last step under the flag; the call that takes it is the only one in the
sequence. -/
theorem InOrder.store (h : InOrder s) (hk : s.calls[k]? = some c) (hc : c.pc = .clear) :
    InOrder { s.goto k c .syncTest with running := false } := by
  have hactive : c.Active := by
    rw [Call.Active, hc]
    exact ⟨nofun, nofun⟩
  refine ⟨?_, ?_, ?_, nofun, ?_, ?_, h.runsOnce⟩
  · intro d hd hd'
    rw [h.eq_of_active hk hactive hd hd']
    exact h.onMain c (List.mem_of_getElem? hk) hactive
  · intro i j d e hi hj hd he
    obtain ⟨d', hi', hd'⟩ := active_goto hk (fun _ => hactive) hi hd
    obtain ⟨e', hj', he'⟩ := active_goto hk (fun _ => hactive) hj he
    exact h.lone hi' hj' hd' he'
  · intro d hd hd'
    rw [h.eq_of_active hk hactive hd hd']
    exact iff_of_false nofun Bool.false_ne_true
  · intro d hd
    rcases mem_goto hd with hd | rfl
    · exact h.targets d hd
    · exact nofun
  · intro d hd t ht
    rcases mem_goto hd with hd | rfl
    · exact h.joinable d hd t ht
    · cases ht

/-- What follows a join is no join, and of no main thread. -/
theorem after_spec (s : Shutdown) (t : Thread) :
    s.after t ≠ .clear ∧ (s.after t).target ≠ some .main ∧ ∀ u, s.after t ≠ .join u := by
  cases t with
  | worker i =>
    unfold after
    dsimp only
    split <;> exact ⟨nofun, nofun, nofun⟩
  | main | watcher | sync => exact ⟨nofun, nofun, nofun⟩

/-- **One step of a call.** -/
theorem InOrder.stepCall (h : InOrder s) (hk : s.calls[k]? = some c)
    (horderly : c.pc = .check → s.running = true →
      c.thread = .main ∧ ∀ d ∈ s.calls, d.pc ≠ .clear) :
    InOrder (s.stepCall k c) := by
  have hmem := List.mem_of_getElem? hk
  -- behind the store the flag is cleared
  have hcleared : c.Active → c.pc ≠ .clear → s.running = false := fun hactive hne =>
    Bool.eq_false_iff.mpr fun hset => hne ((h.clear c hmem hactive).mpr hset)
  have hsequence : ∀ pc, c.Active → c.pc ≠ .clear → pc ≠ .clear → pc.target ≠ some .main →
      (∀ t, pc = .join t → s.joinable t = true) → InOrder (s.goto k c pc) :=
    fun pc hactive hne => h.goto hk hactive (hcleared hactive hne)
  obtain ⟨thread, pc⟩ := c
  cases pc with
  | check =>
    rw [Shutdown.stepCall]
    dsimp only
    cases hrunning : s.running with
    | false => exact h.turnBack hk rfl
    | true =>
      obtain ⟨hmain, hnone⟩ := horderly rfl hrunning
      exact h.pass hk hrunning hmain hnone
  | clear => exact h.store hk rfl
  | syncTest =>
    refine hsequence _ ⟨nofun, nofun⟩ nofun ?_ ?_ ?_ <;>
      cases s.syncManager <;> exact nofun
  | syncExchange =>
    refine InOrder.of_same (hsequence (if s.syncRunning then .test .sync else .syncReset)
      ⟨nofun, nofun⟩ nofun ?_ ?_ ?_) rfl rfl rfl rfl rfl <;>
      cases s.syncRunning <;> exact nofun
  | test t =>
    have htarget := h.targets _ hmem
    obtain ⟨hclear, hafter, hjoin⟩ := after_spec s t
    rw [Shutdown.stepCall]
    dsimp only
    cases hjoinable : s.joinable t with
    | false =>
      exact hsequence _ ⟨nofun, nofun⟩ nofun hclear hafter fun u hu => absurd hu (hjoin u)
    | true =>
      refine hsequence _ ⟨nofun, nofun⟩ nofun nofun htarget fun u hu => ?_
      cases hu
      exact hjoinable
  | join t =>
    -- the call is on the main thread, and the other thread has not been joined
    have hwait := hsequence (.wait t) ⟨nofun, nofun⟩ nofun nofun (h.targets _ hmem) nofun
    have hmain : thread = .main := h.onMain _ hmem ⟨nofun, nofun⟩
    have hne : thread ≠ t := by
      rintro rfl
      exact h.targets _ hmem (congrArg some hmain)
    refine ⟨hwait.onMain, hwait.lone, hwait.clear, hwait.unpassed, hwait.targets, hwait.joinable,
      hwait.runsOnce.1, fun j hj => ?_⟩
    rcases List.mem_append.mp hj with hj | hj
    · exact h.runsOnce.2 j hj
    · rw [List.mem_singleton.mp hj]
      refine ⟨hne, ?_⟩
      rw [Bool.not_eq_false']
      exact h.joinable _ hmem t rfl
  | wait t =>
    obtain ⟨hclear, hafter, hjoin⟩ := after_spec s t
    rw [Shutdown.stepCall]
    dsimp only
    split
    · exact h
    · have hc : Call.Active ⟨thread, .wait t⟩ := ⟨nofun, nofun⟩
      have hnext := hsequence (s.after t) hc nofun hclear hafter fun u hu => absurd hu (hjoin u)
      refine ⟨hnext.onMain, hnext.lone, hnext.clear, hnext.unpassed, hnext.targets, ?_,
        hnext.runsOnce⟩
      -- nobody else is in front of a join
      intro d hd u hu
      have heq := h.eq_of_active hk hc hd (by rw [Call.Active, hu]; exact ⟨nofun, nofun⟩)
      rw [heq] at hu
      exact absurd hu (hjoin u)
  | syncReset =>
    exact InOrder.of_same (hsequence .workersFlag ⟨nofun, nofun⟩ nofun nofun nofun nofun)
      rfl rfl rfl rfl rfl
  | workersFlag =>
    refine hsequence _ ⟨nofun, nofun⟩ nofun ?_ ?_ ?_ <;> split <;> exact nofun
  | workersClear =>
    exact InOrder.of_same (hsequence .watcherFlag ⟨nofun, nofun⟩ nofun nofun nofun nofun)
      rfl rfl rfl rfl rfl
  | watcherFlag => exact hsequence _ ⟨nofun, nofun⟩ nofun nofun nofun nofun
  | finish => exact hsequence _ ⟨nofun, nofun⟩ nofun nofun nofun nofun
  | returned => exact h

/-! ## Schedules -/

theorem not_active_of_returned (h : s.calls.any (·.pc != .returned) = false) {d : Call}
    (hd : d ∈ s.calls) : d.pc = .returned := by
  have hall := List.any_eq_false.mp h d hd
  rw [bne_iff_ne, not_not] at hall
  exact hall

/-- A new start, when every call has returned, counts anew. -/
theorem InOrder.started (h : InOrder s) (hreturned : ∀ d ∈ s.calls, d.pc = .returned)
    {workers : Nat} {joinable alive : Thread → Bool} :
    InOrder { s with
      running := true
      starting := true
      workers := workers
      joinable := joinable
      alive := alive
      passed := 0 } := by
  have hnone : ∀ d ∈ s.calls, ¬d.Active := fun d hd hactive => hactive.2 (hreturned d hd)
  refine ⟨?_, ?_, ?_, ?_, h.targets, ?_, Nat.zero_le 1, h.runsOnce.2⟩
  · exact fun d hd hactive => absurd hactive (hnone d hd)
  · exact fun hi _ hd _ => absurd hd (hnone _ (List.mem_of_getElem? hi))
  · exact fun d hd hactive => absurd hactive (hnone d hd)
  · exact fun _ _ => rfl
  · intro d hd t ht
    rw [hreturned d hd] at ht
    cases ht

/-- A call that has just begun is not in the sequence. -/
theorem InOrder.called (h : InOrder s) (t : Thread) :
    InOrder { s with calls := s.calls ++ [⟨t, .check⟩] } := by
  have hnew : ¬Call.Active ⟨t, .check⟩ := fun hactive => hactive.1 rfl
  have hmem : ∀ d ∈ s.calls ++ [⟨t, .check⟩], d ∈ s.calls ∨ d = ⟨t, .check⟩ := fun d hd =>
    (List.mem_append.mp hd).imp_right List.mem_singleton.mp
  have hold : ∀ {j : Nat} {d : Call}, (s.calls ++ [⟨t, .check⟩])[j]? = some d → d.Active →
      s.calls[j]? = some d := by
    intro j d hj hd
    rw [List.getElem?_append] at hj
    split at hj
    · exact hj
    · rw [List.mem_singleton.mp (List.mem_of_getElem? hj)] at hd
      exact absurd hd hnew
  refine ⟨?_, ?_, ?_, ?_, ?_, ?_, h.runsOnce⟩
  · intro d hd hactive
    rcases hmem d hd with hd | rfl
    · exact h.onMain d hd hactive
    · exact absurd hactive hnew
  · exact fun hi hj hd he => h.lone (hold hi hd) (hold hj he) hd he
  · intro d hd hactive
    rcases hmem d hd with hd | rfl
    · exact h.clear d hd hactive
    · exact absurd hactive hnew
  · exact fun hset hnone => h.unpassed hset fun d hd => hnone d (List.mem_append_left _ hd)
  · intro d hd
    rcases hmem d hd with hd | rfl
    · exact h.targets d hd
    · exact nofun
  · intro d hd u hu
    rcases hmem d hd with hd | rfl
    · exact h.joinable d hd u hu
    · cases hu

/-- **One orderly move.** -/
theorem InOrder.step (h : InOrder s) {m : ShutdownMove} (hm : s.Orderly m) :
    InOrder (s.step m) := by
  cases m with
  | start workers watch =>
    rw [Shutdown.step]
    split
    · exact h
    · rename_i hquiet
      rw [Bool.or_eq_true, Bool.or_eq_true, not_or, not_or, Bool.not_eq_true] at hquiet
      exact h.started fun d => not_active_of_returned (Bool.eq_false_iff.mpr hquiet.2)
  | startSync upstreams =>
    rw [Shutdown.step]
    split
    · exact h
    · split
      · refine ⟨h.onMain, h.lone, h.clear, h.unpassed, h.targets, ?_, h.runsOnce⟩
        intro d hd t ht
        show Function.update s.joinable .sync true t = true
        rw [Function.update_apply]
        split
        · rfl
        · exact h.joinable d hd t ht
      · exact h.of_same rfl rfl rfl rfl rfl
  | call t =>
    rw [Shutdown.step]
    split
    · exact h.called t
    · exact h
  | caller k =>
    rw [Shutdown.step]
    split
    · exact h
    · rename_i c hk
      split
      · exact h
      · exact h.stepCall hk (hm c hk)
  | ends t =>
    rw [Shutdown.step]
    split
    · exact h
    · exact h.of_same rfl rfl rfl rfl rfl

end Shutdown

open Shutdown

/-- **When shutdown runs once.** For every schedule of any number of starts, of calls of
`stop` on any threads and of the steps of these calls: where every call that finds
`running_` set runs on the main thread, with no other call between its load and its
store, the sequence is run at most once per start, no thread joins itself, and none is
joined twice. -/
theorem stop_runs_once (moves : List ShutdownMove) (h : Runs.Along step Orderly {} moves) :
    RunsOnce (run {} moves) := by
  have horder : InOrder (run {} moves) :=
    Runs.foldl_of_along (I := InOrder) (fun hs hm => hs.step hm) InOrder.start h
  exact horder.runsOnce

/-- A signal during the sequence, and the destructor behind it, find the flag cleared. -/
def orderlySchedule : List ShutdownMove :=
  [.start 1 true, .startSync true, .call .main, .caller 0, .caller 0, .call (.worker 0), .caller 1,
    .caller 0, .caller 0, .caller 0, .caller 0, .ends .sync, .caller 0, .call .main, .caller 2]

theorem stop_runs_once_example : RunsOnce (run {} orderlySchedule) :=
  stop_runs_once orderlySchedule (by decide)

/-- The handler has called `stop` on a worker, and `main`, which has seen the request,
before the flag is cleared; the worker goes on. -/
def disorderlySchedule : List ShutdownMove :=
  [.start 1 true, .call (.worker 0), .caller 0, .call .main, .caller 1] ++ List.replicate 5 (.caller 0)

/-- The sequence is begun twice, and the worker joins itself. -/
theorem worker_joins_itself : ¬ ∀ moves, RunsOnce (run {} moves) := by
  intro h
  have hjoin : (⟨.worker 0, .worker 0, false⟩ : Join) ∈ (run {} disorderlySchedule).joins := by
    decide
  exact ((h disorderlySchedule).2 _ hjoin).1 rfl

end SimpleNtpd
