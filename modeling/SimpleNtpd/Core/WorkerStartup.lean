import Mathlib.Data.List.Basic

/-!
# The start of the workers

`startWorkerThreads` creates the worker threads and then stores
`workers_running_ = true`; a worker runs its loop while the flag is set, and the
constructor and `stopWorkerThreads` leave it cleared. The two sibling threads, of
the configuration watcher and of the upstream synchronization, have their flags
set before they are created.

The thread that calls `start` and the workers it has created take their steps in
any order (`Move`). What a worker receives is of no interest here, only whether
the inner loop goes on. A worker that has left its loop stays out of it, so the
workers that are there after `start` are those that did not reach the test before
the store (`OnTime`).
-/

namespace SimpleNtpd

/-- Where a worker stands (server.cpp:372–433). -/
inductive WorkerPc where
  /-- in front of the loop -/
  | created
  /-- at `while (workers_running_)` of `workerThreadFunction` -/
  | outerTest
  /-- at `while (workers_running_)` of `processIncomingPackets` -/
  | innerTest
  /-- at `recvfrom` and what is done with a datagram -/
  | receiving
  /-- at the clean-up and the sleep -/
  | cleaning
  /-- behind the loop -/
  | left
  deriving DecidableEq, Repr

/-- Where the thread stands that starts and stops the server. -/
inductive StarterPc where
  /-- in the loop that creates the workers, or at the store behind it -/
  | creating
  /-- in the rest of `start` -/
  | stored
  /-- `start` has returned `true` -/
  | returned
  /-- in `stop`, in front of `workers_running_ = false` -/
  | stopping
  | stopped
  deriving DecidableEq, Repr

/-- The threads and the flag they share. -/
structure WorkerStartup where
  starter : StarterPc := .creating
  /-- `workers_running_` -/
  workersRunning : Bool := false
  /-- `worker_threads_` -/
  workers : List WorkerPc := []
  deriving DecidableEq, Repr

/-- Whose step is next. -/
inductive Move where
  /-- the thread in `start` or `stop` -/
  | starter
  /-- the thread in `start` calls `stop` -/
  | stop
  /-- a worker; `goesOn` is whether its inner loop continues after a reception -/
  | worker (id : Nat) (goesOn : Bool)
  deriving DecidableEq, Repr

/-- One step of a worker. -/
def WorkerPc.next (workersRunning goesOn : Bool) : WorkerPc → WorkerPc
  | created => outerTest
  | outerTest => if workersRunning then innerTest else left
  | innerTest => if workersRunning then receiving else cleaning
  | receiving => if goesOn then innerTest else cleaning
  | cleaning => outerTest
  | left => left

namespace WorkerStartup

/-- One step, with `threadCount` workers to create (server.cpp:348–387). A move of
a thread that is not there, or has nothing to do, changes nothing. -/
def step (threadCount : Nat) (s : WorkerStartup) : Move → WorkerStartup
  | .starter =>
    match s.starter with
    | .creating =>
      if s.workers.length < threadCount then { s with workers := s.workers ++ [.created] }
      -- the store comes behind the loop
      else { s with workersRunning := true, starter := .stored }
    | .stored => { s with starter := .returned }
    | .returned => s
    | .stopping => { s with workersRunning := false, starter := .stopped }
    | .stopped => s
  | .stop => if s.starter = .returned then { s with starter := .stopping } else s
  | .worker id goesOn => { s with workers := s.workers.modify id (·.next s.workersRunning goesOn) }

/-- The state after some moves. -/
def run (threadCount : Nat) (s : WorkerStartup) (moves : List Move) : WorkerStartup :=
  moves.foldl (step threadCount) s

/-- The move is not that of a worker that tests the cleared flag. -/
def OnTime (s : WorkerStartup) : Move → Prop
  | .worker id _ => s.workers[id]? = some .outerTest → s.workersRunning = true
  | _ => True

/-- No worker has left its loop. -/
def NoneLeft (s : WorkerStartup) : Prop := ∀ id : Nat, s.workers[id]? ≠ some .left

variable {threadCount : Nat} {s : WorkerStartup}

/-! ## One move -/

/-- A worker leaves the loop at the test, when the flag is cleared, and is left
for good. -/
theorem next_eq_left_iff {workersRunning goesOn : Bool} {pc : WorkerPc} :
    pc.next workersRunning goesOn = .left ↔
      pc = .left ∨ pc = .outerTest ∧ workersRunning = false := by
  cases pc <;> cases workersRunning <;> cases goesOn <;> decide

/-- A worker that has left stays out. -/
theorem left_step {id : Nat} (h : s.workers[id]? = some .left) (m : Move) :
    (s.step threadCount m).workers[id]? = some .left := by
  cases m with
  | starter =>
    unfold step
    dsimp only
    split
    · split
      · -- a new worker comes behind the others
        dsimp only
        rw [List.getElem?_append_left (List.getElem?_eq_some_iff.mp h).1]
        exact h
      · exact h
    all_goals exact h
  | stop =>
    unfold step
    dsimp only
    split <;> exact h
  | worker id' goesOn =>
    show (s.workers.modify id' _)[id]? = some .left
    rw [List.getElem?_modify, h]
    split <;> rfl

/-- **One move lets a worker leave exactly when it is not on time.** -/
theorem noneLeft_step (h : s.NoneLeft) (m : Move) :
    (s.step threadCount m).NoneLeft ↔ s.OnTime m := by
  cases m with
  | starter =>
    refine iff_of_true ?_ trivial
    unfold step
    dsimp only
    split
    · split
      · rintro id hleft
        rw [List.getElem?_append] at hleft
        split at hleft
        · exact h id hleft
        · -- the worker is the new one, in front of its loop
          have hmem := List.mem_of_getElem? hleft
          cases List.mem_singleton.mp hmem
      · exact h
    all_goals exact h
  | stop =>
    refine iff_of_true ?_ trivial
    unfold step
    dsimp only
    split <;> exact h
  | worker id goesOn =>
    constructor
    · -- a worker that tests the flag before it is set leaves
      intro hnone htest
      by_contra hflag
      refine hnone id ?_
      show (s.workers.modify id _)[id]? = some .left
      rw [List.getElem?_modify, htest]
      show some (if id = id then _ else _) = some WorkerPc.left
      rw [if_pos rfl, next_eq_left_iff.mpr (.inr ⟨rfl, Bool.eq_false_iff.mpr hflag⟩)]
    · rintro htime id' hleft
      rw [show (s.step threadCount (.worker id goesOn)).workers
        = s.workers.modify id (·.next s.workersRunning goesOn) from rfl,
        List.getElem?_modify] at hleft
      obtain ⟨pc, hpc, hnext⟩ := Option.map_eq_some_iff.mp hleft
      -- only the worker that moves has another program counter
      split at hnext
      · rename_i heq
        subst heq
        rcases next_eq_left_iff.mp hnext with rfl | ⟨rfl, hflag⟩
        · exact h id hpc
        · rw [htime hpc] at hflag
          cases hflag
      · subst hnext
        exact h id' hpc

/-! ## Schedules -/

/-- Every move of the schedule is on time. -/
def AllOnTime (threadCount : Nat) : WorkerStartup → List Move → Prop
  | _, [] => True
  | s, m :: moves => s.OnTime m ∧ AllOnTime threadCount (s.step threadCount m) moves

/-- A worker that has left is not seen again; induction on the moves. -/
theorem left_run {id : Nat} {moves : List Move} (h : s.workers[id]? = some .left) :
    (s.run threadCount moves).workers[id]? = some .left := by
  induction moves generalizing s with
  | nil => exact h
  | cons m moves ih => exact ih (left_step h m)

/-- No worker has left after a schedule exactly when every move was on time;
induction on the moves, the first that is late lets its worker leave for good. -/
theorem noneLeft_run {moves : List Move} (h : s.NoneLeft) :
    (s.run threadCount moves).NoneLeft ↔ AllOnTime threadCount s moves := by
  induction moves generalizing s with
  | nil => exact iff_of_true h trivial
  | cons m moves ih =>
    show ((s.step threadCount m).run threadCount moves).NoneLeft ↔ _ ∧ _
    by_cases htime : s.OnTime m
    · rw [and_iff_right htime]
      exact ih ((noneLeft_step h m).mpr htime)
    · refine iff_of_false ?_ fun hall => htime hall.1
      intro hnone
      have hleft : ¬(s.step threadCount m).NoneLeft := fun h' => htime ((noneLeft_step h m).mp h')
      unfold NoneLeft at hleft
      push Not at hleft
      obtain ⟨id, hid⟩ := hleft
      exact hnone id (left_run hid)

/-- The thread in `start` leaves the creating loop with all workers created. -/
def Created (threadCount : Nat) (s : WorkerStartup) : Prop :=
  if s.starter = .creating then s.workers.length ≤ threadCount
  else s.workers.length = threadCount

theorem created_step (h : s.Created threadCount) (m : Move) :
    (s.step threadCount m).Created threadCount := by
  unfold Created at h ⊢
  cases m with
  | starter =>
    unfold step
    dsimp only
    cases hpc : s.starter with
    | creating =>
      rw [hpc, if_pos rfl] at h
      dsimp only
      split
      · rename_i hlt
        dsimp only
        rw [if_pos rfl, List.length_append]
        exact hlt
      · rename_i hge
        exact Nat.le_antisymm h (Nat.not_lt.mp hge)
    | stored | returned | stopping | stopped =>
      rw [hpc] at h
      dsimp only
      try rw [hpc]
      exact h
  | stop =>
    unfold step
    dsimp only
    split
    · rename_i hpc
      rw [hpc] at h
      exact h
    · exact h
  | worker id goesOn =>
    show if s.starter = .creating then (s.workers.modify id _).length ≤ threadCount
      else (s.workers.modify id _).length = threadCount
    rw [List.length_modify]
    exact h

theorem created_run {moves : List Move} (h : s.Created threadCount) :
    (s.run threadCount moves).Created threadCount := by
  induction moves generalizing s with
  | nil => exact h
  | cons m moves ih => exact ih (created_step h m)

end WorkerStartup

open WorkerStartup

/-- **When workers survive start-up.** For every number of workers and every
schedule after which `start` has returned and `stop` has not begun: all workers
have been created and are in their loops exactly when no worker got to the test
of its loop before `start` had set the flag. -/
theorem workers_survive_iff (threadCount : Nat) (moves : List Move)
    (h : (run threadCount {} moves).starter = .returned) :
    (∀ id < threadCount, ∃ pc, (run threadCount {} moves).workers[id]? = some pc ∧ pc ≠ .left) ↔
      AllOnTime threadCount {} moves := by
  have hcreated : (run threadCount {} moves).Created threadCount :=
    created_run (s := {}) (Nat.zero_le threadCount)
  unfold Created at hcreated
  rw [h, if_neg (by decide)] at hcreated
  have hnone : NoneLeft {} := fun id hid => nomatch hid
  rw [← noneLeft_run hnone]
  constructor
  · intro hall id hleft
    obtain ⟨hlt, -⟩ := List.getElem?_eq_some_iff.mp hleft
    rw [hcreated] at hlt
    obtain ⟨pc, hpc, hne⟩ := hall id hlt
    rw [hleft] at hpc
    exact hne (Option.some.inj hpc).symm
  · intro hnone id hid
    rw [← hcreated] at hid
    refine ⟨_, List.getElem?_eq_getElem hid, fun hleft => hnone id ?_⟩
    rw [← hleft]
    exact List.getElem?_eq_getElem hid

/-- Two workers, the first of which takes a step before the store. -/
def timelySchedule : List Move :=
  [.starter, .worker 0 true, .starter, .starter, .worker 0 true, .starter, .worker 1 true]

/-- On the timely schedule both workers are there when `start` returns. -/
theorem workers_survive_timely :
    (∀ id < 2, ∃ pc, (run 2 {} timelySchedule).workers[id]? = some pc ∧ pc ≠ .left) ↔
      AllOnTime 2 {} timelySchedule :=
  workers_survive_iff 2 timelySchedule (by decide)

/-- A worker that runs as soon as it is created is gone when `start` returns. -/
theorem early_worker_leaves :
    ¬ ∀ threadCount moves, 1 ≤ threadCount → (run threadCount {} moves).starter = .returned →
      ∀ id < threadCount, ∃ pc,
        (run threadCount {} moves).workers[id]? = some pc ∧ pc ≠ .left := by
  intro h
  obtain ⟨pc, hpc, hne⟩ := h 1 [.starter, .worker 0 true, .worker 0 true, .starter, .starter]
    (by decide) (by decide) 0 (by decide)
  have hleft : (run 1 {} [.starter, .worker 0 true, .worker 0 true, .starter, .starter]).workers[0]?
      = some .left := by
    decide
  rw [hleft] at hpc
  exact hne (Option.some.inj hpc).symm

end SimpleNtpd
