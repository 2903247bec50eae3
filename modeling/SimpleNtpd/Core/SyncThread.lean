import SimpleNtpd.Core.SourceSelection
import SimpleNtpd.Core.SyncHistory

/-!
# The thread of the upstream synchronization

`UpstreamSyncManager::start` and `stop` exchange `running_` and create or join the
thread of `syncLoop`, which asks the servers one after the other, commits, sleeps, and
looks at the flag before each round but the first (upstream_sync.cpp:123–192).

One owner calls `start` and `stop`, one call after the other; its steps and those of the
thread come in any order. Then there is never a second thread, the manager's state is
what the rounds that were completed make of it one after the other, after the flag is
cleared at most the round in progress is committed, and `stop` returns after a number of
steps of the thread that the length of the list bounds; when it has returned the state
stays (`sync_thread_serves`).
-/

namespace SimpleNtpd

open Cpp

/-- Where the thread stands. -/
inductive SyncPc where
  /-- in `syncOnce`, behind the first servers of the list -/
  | asking (k : Nat) (best : UpstreamSyncResult)
  /-- at `while (running_)` -/
  | loopTest
  | sleeping
  /-- at `if (!running_)` behind the sleep -/
  | sleptTest
  /-- `syncLoop` has returned -/
  | ended
  deriving DecidableEq, Repr

/-- Where the owner stands. -/
inductive OwnerPc where
  | outside
  /-- in `start`, behind the exchange -/
  | creating
  /-- in `stop`, at the join -/
  | joining
  deriving DecidableEq, Repr

/-- The manager with its thread. -/
structure SyncThread where
  /-- `config_->upstream_servers` -/
  servers : List Str
  manager : UpstreamSyncManager
  /-- `running_` -/
  running : Bool
  owner : OwnerPc
  /-- `sync_thread_`, where it is joinable -/
  thread : Option SyncPc
  /-- a thread was assigned to one that is joinable -/
  terminated : Bool
  /-- for the record: what the queries of the round in progress have met -/
  asked : List QueryEnv
  /-- for the record: the rounds that were completed -/
  rounds : List SyncRound
  /-- for the record: how many rounds were completed since the flag was cleared -/
  late : Nat

/-- Whose step is next. -/
inductive SyncMove where
  | start
  | create
  | stop
  | join
  /-- the thread; what a query meets, and the clock when an answer is committed -/
  | thread (env : QueryEnv) (now : Int)

namespace SyncThread

/-- The constructor. -/
def create (servers : List Str) : SyncThread where
  servers := servers
  manager := {}
  running := false
  owner := .outside
  thread := none
  terminated := false
  asked := []
  rounds := []
  late := 0

/-- The round in progress, when it is completed. -/
def round (s : SyncThread) (env : QueryEnv) (now : Int) : SyncRound :=
  ⟨s.servers, fun k => (s.asked[k]?).getD env, now⟩

/-- The end of `syncOnce` (upstream_sync.cpp:159–176). -/
def commit (s : SyncThread) (best : UpstreamSyncResult) (env : QueryEnv) (now : Int) :
    SyncThread :=
  { s with
    manager :=
      if best.success then
        { clockOffsetUs := best.offsetUs
          lastDelayUs := best.delayUs
          upstreamStratum := best.stratum
          syncedUpstream := best.server
          lastSyncTime := now
          synced := true }
      else s.manager
    thread := some .loopTest
    rounds := s.rounds ++ [s.round env now]
    late := if s.running then s.late else s.late + 1 }

/-- One step of the thread. -/
def advance (s : SyncThread) (env : QueryEnv) (now : Int) : SyncPc → SyncThread
  | .asking k best =>
    match s.servers[k]? with
    | some server =>
      { s with
        thread := some (.asking (k + 1) (keepBest best (queryUpstreamServer server env)))
        asked := s.asked ++ [env] }
    | none => s.commit best env now
  | .loopTest => { s with thread := some (if s.running then .sleeping else .ended) }
  | .sleeping => { s with thread := some .sleptTest }
  | .sleptTest =>
    if s.running then { s with thread := some (.asking 0 {}), asked := [] }
    else { s with thread := some .ended }
  | .ended => s

/-- One step. The owner is in one call at a time, and a join waits for the end of the
thread. -/
def step (s : SyncThread) : SyncMove → SyncThread
  | .start =>
    if s.owner = .outside ∧ s.running = false then
      { s with running := true, owner := .creating, late := 0 }
    else s
  | .create =>
    if s.owner = .creating then
      { s with
        owner := .outside
        thread := some (.asking 0 {})
        terminated := s.terminated || s.thread.isSome
        asked := [] }
    else s
  | .stop =>
    if s.owner = .outside ∧ s.running = true then { s with running := false, owner := .joining }
    else s
  | .join =>
    if s.owner = .joining ∧ (s.thread = none ∨ s.thread = some .ended) then
      { s with owner := .outside, thread := none }
    else s
  | .thread env now =>
    match s.thread with
    | none => s
    | some pc => s.advance env now pc

/-- The state after some steps. -/
def run (s : SyncThread) (moves : List SyncMove) : SyncThread := moves.foldl step s

/-! ## What holds between the steps -/

/-- Where the thread may stand, by what the owner does and by the flag. -/
structure Loops (s : SyncThread) : Prop where
  outside : s.owner = .outside → s.running = true → s.thread ≠ none
  stopped : s.owner = .outside → s.running = false → s.thread = none
  creating : s.owner = .creating → s.running = true ∧ s.thread = none
  joining : s.owner = .joining → s.running = false ∧ s.thread ≠ none
  going : s.running = true → s.thread ≠ some .ended

/-- The results of the round in progress. -/
def results (s : SyncThread) : List UpstreamSyncResult :=
  List.zipWith queryUpstreamServer s.servers s.asked

/-- The round in progress has kept the best of its results. -/
def Keeps (s : SyncThread) : Prop :=
  ∀ k best, s.thread = some (.asking k best) →
    k = s.asked.length ∧ k ≤ s.servers.length ∧ best = s.results.foldl keepBest {}

/-- A round is completed after the flag was cleared only when it was in progress then. -/
def Late (s : SyncThread) : Prop :=
  (s.running = true → s.late = 0) ∧
    (s.late = 0 ∨ s.late = 1 ∧ (s.thread = none ∨ s.thread = some .loopTest ∨ s.thread = some .ended))

/-! ### The thread -/

variable {s : SyncThread} {env : QueryEnv} {now : Int} {pc : SyncPc}

/-- A step of the thread leaves what the owner looks at. -/
theorem advance_frame (s : SyncThread) (env : QueryEnv) (now : Int) (pc : SyncPc) :
    (s.advance env now pc).running = s.running ∧ (s.advance env now pc).owner = s.owner ∧
      (s.advance env now pc).servers = s.servers ∧
      (s.advance env now pc).terminated = s.terminated := by
  cases pc with
  | asking k best =>
    unfold advance commit
    dsimp only
    split <;> exact ⟨rfl, rfl, rfl, rfl⟩
  | sleptTest =>
    unfold advance
    dsimp only
    split <;> exact ⟨rfl, rfl, rfl, rfl⟩
  | loopTest | sleeping | ended => exact ⟨rfl, rfl, rfl, rfl⟩

/-- **One step of the thread**: it asks the next server, or completes the round, or goes
on around the loop, or ends where the flag is cleared. -/
theorem advance_cases (s : SyncThread) (env : QueryEnv) (now : Int) (pc : SyncPc) :
    (∃ k best server, pc = .asking k best ∧ s.servers[k]? = some server ∧
      s.advance env now pc = { s with
        thread := some (.asking (k + 1) (keepBest best (queryUpstreamServer server env)))
        asked := s.asked ++ [env] }) ∨
    (∃ k best, pc = .asking k best ∧ s.servers.length ≤ k ∧
      s.advance env now pc = s.commit best env now) ∨
    (s.running = true ∧ pc = .sleptTest ∧
      s.advance env now pc = { s with thread := some (.asking 0 {}), asked := [] }) ∨
    (s.running = true ∧ pc = .loopTest ∧ s.advance env now pc = { s with thread := some .sleeping }) ∨
    (pc = .sleeping ∧ s.advance env now pc = { s with thread := some .sleptTest }) ∨
    (s.running = false ∧ (pc = .loopTest ∨ pc = .sleptTest) ∧
      s.advance env now pc = { s with thread := some .ended }) ∨
    (pc = .ended ∧ s.advance env now pc = s) := by
  cases pc with
  | asking k best =>
    cases hserver : s.servers[k]? with
    | some server =>
      refine .inl ⟨k, best, server, rfl, hserver, ?_⟩
      rw [advance, hserver]
    | none =>
      refine .inr (.inl ⟨k, best, rfl, List.getElem?_eq_none_iff.mp hserver, ?_⟩)
      rw [advance, hserver]
  | loopTest => cases hrunning : s.running <;> simp [advance, hrunning]
  | sleeping => simp [advance]
  | sleptTest => cases hrunning : s.running <;> simp [advance, hrunning]
  | ended => simp [advance]

/-- **One step**: it changes nothing, it is the owner's, or the thread's. -/
theorem step_cases (s : SyncThread) (m : SyncMove) :
    s.step m = s ∨
    (m = .start ∧ s.owner = .outside ∧ s.running = false ∧
      s.step m = { s with running := true, owner := .creating, late := 0 }) ∨
    (m = .create ∧ s.owner = .creating ∧
      s.step m = { s with
        owner := .outside
        thread := some (.asking 0 {})
        terminated := s.terminated || s.thread.isSome
        asked := [] }) ∨
    (m = .stop ∧ s.owner = .outside ∧ s.running = true ∧
      s.step m = { s with running := false, owner := .joining }) ∨
    (m = .join ∧ s.owner = .joining ∧ (s.thread = none ∨ s.thread = some .ended) ∧
      s.step m = { s with owner := .outside, thread := none }) ∨
    ∃ env now pc, m = .thread env now ∧ s.thread = some pc ∧ s.step m = s.advance env now pc := by
  cases m with
  | start =>
    by_cases hcall : s.owner = .outside ∧ s.running = false
    · exact .inr (.inl ⟨rfl, hcall.1, hcall.2, if_pos hcall⟩)
    · exact .inl (if_neg hcall)
  | create =>
    by_cases hcall : s.owner = .creating
    · exact .inr (.inr (.inl ⟨rfl, hcall, if_pos hcall⟩))
    · exact .inl (if_neg hcall)
  | stop =>
    by_cases hcall : s.owner = .outside ∧ s.running = true
    · exact .inr (.inr (.inr (.inl ⟨rfl, hcall.1, hcall.2, if_pos hcall⟩)))
    · exact .inl (if_neg hcall)
  | join =>
    by_cases hcall : s.owner = .joining ∧ (s.thread = none ∨ s.thread = some .ended)
    · exact .inr (.inr (.inr (.inr (.inl ⟨rfl, hcall.1, hcall.2, if_pos hcall⟩))))
    · exact .inl (if_neg hcall)
  | thread env now =>
    cases hthread : s.thread with
    | none =>
      left
      simp only [step, hthread]
    | some pc =>
      refine .inr (.inr (.inr (.inr (.inr ⟨env, now, pc, rfl, rfl, ?_⟩))))
      simp only [step, hthread]

/-- There is a thread behind a step of the thread, which has not ended while the flag was
set. -/
theorem thread_advance (hgoing : s.running = true → s.thread ≠ some .ended)
    (hthread : s.thread = some pc) (env : QueryEnv) (now : Int) :
    (s.advance env now pc).thread ≠ none ∧
      (s.running = true → (s.advance env now pc).thread ≠ some .ended) := by
  rcases s.advance_cases env now pc with ⟨k, best, server, -, -, heq⟩ | ⟨k, best, -, -, heq⟩ |
    ⟨-, -, heq⟩ | ⟨-, -, heq⟩ | ⟨-, heq⟩ | ⟨hflag, -, heq⟩ | ⟨-, heq⟩ <;> rw [heq]
  · exact ⟨nofun, fun _ => nofun⟩
  · exact ⟨nofun, fun _ => nofun⟩
  · exact ⟨nofun, fun _ => nofun⟩
  · exact ⟨nofun, fun _ => nofun⟩
  · exact ⟨nofun, fun _ => nofun⟩
  · exact ⟨nofun, fun hrunning => absurd (hflag.symm.trans hrunning) (by decide)⟩
  · exact ⟨by rw [hthread]; exact nofun, hgoing⟩

/-- **Every step keeps the thread and the owner together.** -/
theorem Loops.step (h : s.Loops) (m : SyncMove) : (s.step m).Loops := by
  rcases s.step_cases m with heq | ⟨-, howner, hflag, heq⟩ | ⟨-, howner, heq⟩ |
    ⟨-, howner, hflag, heq⟩ | ⟨-, howner, -, heq⟩ | ⟨env, now, pc, -, hthread, heq⟩ <;> rw [heq]
  · exact h
  · exact ⟨nofun, nofun, fun _ => ⟨rfl, h.stopped howner hflag⟩, nofun,
      fun _ => by rw [h.stopped howner hflag]; exact nofun⟩
  · exact ⟨fun _ _ => nofun, fun _ hflag => absurd (hflag.symm.trans (h.creating howner).1) (by decide),
      nofun, nofun, fun _ => nofun⟩
  · exact ⟨nofun, nofun, nofun, fun _ => ⟨rfl, h.outside howner hflag⟩, nofun⟩
  · have hflag := (h.joining howner).1
    exact ⟨fun _ hrunning => absurd (hflag.symm.trans hrunning) (by decide), fun _ _ => rfl, nofun,
      nofun, fun _ => nofun⟩
  · obtain ⟨hsome, hgoing⟩ := thread_advance h.going hthread env now
    obtain ⟨hrunning, howner, -, -⟩ := s.advance_frame env now pc
    have hnone : s.thread ≠ none := by rw [hthread]; exact nofun
    refine ⟨fun _ _ => hsome, ?_, ?_, ?_, ?_⟩
    · rw [howner, hrunning]
      exact fun hout hflag => absurd (h.stopped hout hflag) hnone
    · rw [howner]
      exact fun hcreating => absurd (h.creating hcreating).2 hnone
    · rw [howner, hrunning]
      exact fun hjoining => ⟨(h.joining hjoining).1, hsome⟩
    · rw [hrunning]
      exact hgoing

/-! ### The rounds -/

/-- One more element of the second list; induction on it. -/
theorem zipWith_concat {α β γ : Type*} {f : α → β → γ} {xs : List α} {ys : List β} {x : α}
    (h : xs[ys.length]? = some x) (y : β) :
    List.zipWith f xs (ys ++ [y]) = List.zipWith f xs ys ++ [f x y] := by
  induction ys generalizing xs with
  | nil =>
    cases xs with
    | nil => cases h
    | cons a xs =>
      cases h
      simp
  | cons b ys ih =>
    cases xs with
    | nil => cases h
    | cons a xs =>
      rw [List.length_cons, List.getElem?_cons_succ] at h
      simp [ih h]

/-- The round that is completed has made its queries. -/
theorem attempts_round (h : s.asked.length = s.servers.length) (env : QueryEnv) (now : Int) :
    attempts s.servers (s.round env now).world = s.results := by
  unfold attempts results
  refine List.ext_getElem ?_ fun i hi hi' => ?_
  · simp [h]
  · have hlt : i < s.asked.length := by
      rw [List.length_zipWith] at hi'
      omega
    simp [round, hlt]

/-- **The end of a round** makes of the manager what the round does. -/
theorem commit_manager {k : Nat} {best : UpstreamSyncResult} (h : s.Keeps)
    (hthread : s.thread = some (.asking k best)) (hk : s.servers.length ≤ k) (env : QueryEnv)
    (now : Int) : (s.commit best env now).manager
      = (s.manager.syncOnce s.servers (s.round env now).world now).1 := by
  obtain ⟨hasked, hle, hbest⟩ := h k best hthread
  have hlen : s.asked.length = s.servers.length := by omega
  rw [UpstreamSyncManager.syncOnce_eq_commitBest, attempts_round hlen]
  unfold UpstreamSyncManager.commitBest commit
  rw [← hbest]
  dsimp only
  split <;> rfl

/-- Every step keeps the round in progress. -/
theorem Keeps.step (h : s.Keeps) (m : SyncMove) : (s.step m).Keeps := by
  have hfresh : ∀ t : SyncThread, t.thread = some (.asking 0 {}) → t.asked = [] → t.Keeps := by
    intro t ht hasked k best hasking
    rw [ht] at hasking
    cases hasking
    simp [hasked, results]
  rcases s.step_cases m with heq | ⟨-, -, -, heq⟩ | ⟨-, -, heq⟩ | ⟨-, -, -, heq⟩ | ⟨-, -, -, heq⟩ |
    ⟨env, now, pc, -, hthread, heq⟩ <;> rw [heq]
  · exact h
  · exact h
  · exact hfresh _ rfl rfl
  · exact h
  · exact fun _ _ hnone => nomatch hnone
  · rcases s.advance_cases env now pc with ⟨k, best, server, rfl, hserver, hnext⟩ |
      ⟨k, best, -, -, hnext⟩ | ⟨-, -, hnext⟩ | ⟨-, -, hnext⟩ | ⟨-, hnext⟩ | ⟨-, -, hnext⟩ |
      ⟨-, hnext⟩ <;> rw [hnext]
    · obtain ⟨hk, -, hbest⟩ := h k best hthread
      intro k' best' hasking
      cases hasking
      have hlt := (List.getElem?_eq_some_iff.mp hserver).1
      rw [hk] at hserver
      refine ⟨by simp [hk], hlt, ?_⟩
      show _ = (List.zipWith queryUpstreamServer s.servers (s.asked ++ [env])).foldl keepBest {}
      rw [zipWith_concat hserver, List.foldl_append, hbest]
      rfl
    · exact fun _ _ hasking => nomatch hasking
    · exact hfresh _ rfl rfl
    · exact fun _ _ hasking => nomatch hasking
    · exact fun _ _ hasking => nomatch hasking
    · exact fun _ _ hasking => nomatch hasking
    · exact h

/-- What the manager holds is what the completed rounds make of it. -/
structure Linear (servers : List Str) (s : SyncThread) : Prop where
  list : s.servers = servers
  rounds : ∀ r ∈ s.rounds, r.servers = servers
  manager : s.manager = ({} : UpstreamSyncManager).run s.rounds

/-- Every step keeps it: only the end of a round touches the manager. -/
theorem Linear.step {servers : List Str} (h : s.Linear servers) (hkeeps : s.Keeps)
    (m : SyncMove) : (s.step m).Linear servers := by
  rcases s.step_cases m with heq | ⟨-, -, -, heq⟩ | ⟨-, -, heq⟩ | ⟨-, -, -, heq⟩ | ⟨-, -, -, heq⟩ |
    ⟨env, now, pc, -, hthread, heq⟩ <;> rw [heq]
  · exact h
  · exact ⟨h.list, h.rounds, h.manager⟩
  · exact ⟨h.list, h.rounds, h.manager⟩
  · exact ⟨h.list, h.rounds, h.manager⟩
  · exact ⟨h.list, h.rounds, h.manager⟩
  · rcases s.advance_cases env now pc with ⟨k, best, server, -, -, hnext⟩ |
      ⟨k, best, rfl, hk, hnext⟩ | ⟨-, -, hnext⟩ | ⟨-, -, hnext⟩ | ⟨-, hnext⟩ | ⟨-, -, hnext⟩ |
      ⟨-, hnext⟩ <;> rw [hnext]
    · exact ⟨h.list, h.rounds, h.manager⟩
    · refine ⟨h.list, fun r hr => ?_, ?_⟩
      · rcases List.mem_append.mp hr with hold | hnew
        · exact h.rounds r hold
        · rw [List.mem_singleton.mp hnew]
          exact h.list
      · rw [commit_manager hkeeps hthread hk]
        show _ = ({} : UpstreamSyncManager).run (s.rounds ++ [s.round env now])
        rw [UpstreamSyncManager.run_append, ← h.manager]
        rfl
    · exact ⟨h.list, h.rounds, h.manager⟩
    · exact ⟨h.list, h.rounds, h.manager⟩
    · exact ⟨h.list, h.rounds, h.manager⟩
    · exact ⟨h.list, h.rounds, h.manager⟩
    · exact h

/-! ### After the flag is cleared -/

/-- Every step keeps the count of the rounds completed late. -/
theorem Late.step (h : s.Late) (hloops : s.Loops) (m : SyncMove) : (s.step m).Late := by
  obtain ⟨hrunning, hlate⟩ := h
  rcases s.step_cases m with heq | ⟨-, -, -, heq⟩ | ⟨-, howner, heq⟩ | ⟨-, -, -, heq⟩ |
    ⟨-, -, -, heq⟩ | ⟨env, now, pc, -, hthread, heq⟩ <;> rw [heq]
  · exact ⟨hrunning, hlate⟩
  · exact ⟨fun _ => rfl, .inl rfl⟩
  · exact ⟨hrunning, .inl (hrunning (hloops.creating howner).1)⟩
  · exact ⟨nofun, hlate⟩
  · exact ⟨hrunning, hlate.imp_right fun h => ⟨h.1, .inl rfl⟩⟩
  · -- a thread that is in a round, or in the sleep, has completed none late
    have hzero : pc ≠ .loopTest → pc ≠ .ended → s.late = 0 := by
      intro htest hended
      rcases hlate with hzero | ⟨-, hnone | hloop | hend⟩
      · exact hzero
      · rw [hthread] at hnone
        cases hnone
      · rw [hthread] at hloop
        exact absurd (Option.some.inj hloop) htest
      · rw [hthread] at hend
        exact absurd (Option.some.inj hend) hended
    rcases s.advance_cases env now pc with ⟨k, best, server, rfl, -, hnext⟩ |
      ⟨k, best, rfl, -, hnext⟩ | ⟨hflag, -, hnext⟩ | ⟨hflag, -, hnext⟩ | ⟨rfl, hnext⟩ |
      ⟨-, -, hnext⟩ | ⟨-, hnext⟩ <;> rw [hnext]
    · exact ⟨hrunning, .inl (hzero nofun nofun)⟩
    · have hnone := hzero nofun nofun
      unfold Late commit
      cases hflag : s.running <;> simp [hnone]
    · exact ⟨hrunning, .inl (hrunning hflag)⟩
    · exact ⟨hrunning, .inl (hrunning hflag)⟩
    · exact ⟨hrunning, .inl (hzero nofun nofun)⟩
    · exact ⟨hrunning, hlate.imp_right fun h => ⟨h.1, .inr (.inr rfl)⟩⟩
    · exact ⟨hrunning, hlate⟩

/-- How many steps are left to a thread that finds the flag cleared. -/
def stepsLeft (s : SyncThread) : Nat :=
  match s.thread with
  | some (.asking k _) => s.servers.length - k + 2
  | some .sleeping => 2
  | some .loopTest => 1
  | some .sleptTest => 1
  | some .ended => 0
  | none => 0

/-- With every step of the thread one step less is left. -/
theorem stepsLeft_step (hrunning : s.running = false) (env : QueryEnv) (now : Int) :
    (s.step (.thread env now)).running = false ∧
      (s.step (.thread env now)).owner = s.owner ∧
      (s.step (.thread env now)).stepsLeft = s.stepsLeft - 1 := by
  cases hthread : s.thread with
  | none => simp [step, stepsLeft, hthread, hrunning]
  | some pc =>
    have hstep : s.step (.thread env now) = s.advance env now pc := by simp only [step, hthread]
    rw [hstep, (s.advance_frame env now pc).1, (s.advance_frame env now pc).2.1]
    refine ⟨hrunning, rfl, ?_⟩
    rcases s.advance_cases env now pc with ⟨k, best, server, rfl, hserver, hnext⟩ |
      ⟨k, best, rfl, hk, hnext⟩ | ⟨hflag, -, -⟩ | ⟨hflag, -, -⟩ | ⟨rfl, hnext⟩ |
      ⟨-, rfl | rfl, hnext⟩ | ⟨rfl, hnext⟩
    · have hlt := (List.getElem?_eq_some_iff.mp hserver).1
      simp only [hnext, stepsLeft, hthread]
      omega
    · simp only [hnext, stepsLeft, hthread, commit]
      omega
    · rw [hrunning] at hflag
      cases hflag
    · rw [hrunning] at hflag
      cases hflag
    · simp [hnext, stepsLeft, hthread]
    · simp [hnext, stepsLeft, hthread]
    · simp [hnext, stepsLeft, hthread]
    · simp [hnext, stepsLeft, hthread]

/-! ## Any order of the steps -/

/-- What holds between any two steps. -/
structure Sound (servers : List Str) (s : SyncThread) : Prop where
  loops : s.Loops
  keeps : s.Keeps
  linear : s.Linear servers
  late : s.Late
  alive : s.terminated = false

theorem Sound.create (servers : List Str) : (create servers).Sound servers where
  loops := ⟨nofun, fun _ _ => rfl, nofun, nofun, nofun⟩
  keeps _ _ h := nomatch h
  linear := ⟨rfl, nofun, rfl⟩
  late := ⟨fun _ => rfl, .inl rfl⟩
  alive := rfl

/-- Every step keeps it; a thread is created only where there is none. -/
theorem Sound.step {servers : List Str} (h : s.Sound servers) (m : SyncMove) :
    (s.step m).Sound servers where
  loops := h.loops.step m
  keeps := h.keeps.step m
  linear := h.linear.step h.keeps m
  late := h.late.step h.loops m
  alive := by
    rcases s.step_cases m with heq | ⟨-, -, -, heq⟩ | ⟨-, howner, heq⟩ | ⟨-, -, -, heq⟩ |
      ⟨-, -, -, heq⟩ | ⟨env, now, pc, -, -, heq⟩ <;> rw [heq]
    · exact h.alive
    · exact h.alive
    · show (s.terminated || s.thread.isSome) = false
      rw [h.alive, (h.loops.creating howner).2]
      rfl
    · exact h.alive
    · exact h.alive
    · rw [(s.advance_frame env now pc).2.2.2]
      exact h.alive

theorem Sound.run {servers : List Str} (h : s.Sound servers) (moves : List SyncMove) :
    (s.run moves).Sound servers :=
  List.foldlRecOn moves SyncThread.step h fun _ ht m _ => ht.step m

/-- A manager that is stopped stays as it is until the next start; induction on the
steps. -/
theorem run_of_stopped (howner : s.owner = .outside) (hrunning : s.running = false)
    (hthread : s.thread = none) {moves : List SyncMove} (h : .start ∉ moves) :
    s.run moves = s := by
  induction moves with
  | nil => rfl
  | cons m moves ih =>
    have hstay : s.step m = s := by
      cases m with
      | start => exact absurd List.mem_cons_self h
      | create | stop | join | thread => simp [step, howner, hrunning, hthread]
    show (s.step m).run moves = s
    rw [hstay]
    exact ih fun hmem => h (List.mem_cons_of_mem m hmem)

/-- Steps of the thread bring it nearer to its end; induction on the steps. -/
theorem stepsLeft_run (hrunning : s.running = false) (steps : List (QueryEnv × Int)) :
    (s.run (steps.map fun e => .thread e.1 e.2)).running = false ∧
      (s.run (steps.map fun e => .thread e.1 e.2)).owner = s.owner ∧
      (s.run (steps.map fun e => .thread e.1 e.2)).stepsLeft = s.stepsLeft - steps.length := by
  induction steps generalizing s with
  | nil => exact ⟨hrunning, rfl, rfl⟩
  | cons e steps ih =>
    obtain ⟨hnext, howner, hless⟩ := stepsLeft_step hrunning e.1 e.2
    obtain ⟨hend, howner', hleft⟩ := ih hnext
    refine ⟨hend, howner'.trans howner, hleft.trans ?_⟩
    rw [hless, List.length_cons]
    omega

theorem stepsLeft_le (s : SyncThread) : s.stepsLeft ≤ s.servers.length + 2 := by
  unfold stepsLeft
  split <;> omega

/-- A thread without steps left is at its end, or there is none. -/
theorem thread_of_stepsLeft (h : s.stepsLeft = 0) : s.thread = none ∨ s.thread = some .ended := by
  unfold stepsLeft at h
  split at h <;> simp_all

/-- **`stop` returns.** Once it waits, so many steps of the thread are enough for it. -/
theorem join_returns {servers : List Str} (h : s.Sound servers) (howner : s.owner = .joining)
    {steps : List (QueryEnv × Int)} (hsteps : servers.length + 2 ≤ steps.length) :
    ((s.run (steps.map fun e => .thread e.1 e.2)).step .join).owner = .outside ∧
      ((s.run (steps.map fun e => .thread e.1 e.2)).step .join).thread = none := by
  obtain ⟨-, hjoining, hleft⟩ := stepsLeft_run (h.loops.joining howner).1 steps
  have hle := s.stepsLeft_le
  rw [h.linear.list] at hle
  have hend := thread_of_stepsLeft (hleft.trans (by omega))
  have hreturns := And.intro (hjoining.trans howner) hend
  simp [step, hreturns]

/-- **The thread of the synchronization.** For every list of servers and every order of
the steps of the owner and of the thread: a thread is never assigned to one that runs;
the manager's state is what the completed rounds make of it, one after the other, each
over the whole list; at most one of them was completed after the flag was cleared;
`stop` returns; and when it has, the state stays until the next start. -/
theorem sync_thread_serves (servers : List Str) (moves : List SyncMove) :
    ∃ s : SyncThread, (create servers).run moves = s ∧
      s.terminated = false ∧
      (s.manager = ({} : UpstreamSyncManager).run s.rounds ∧ ∀ r ∈ s.rounds, r.servers = servers) ∧
      s.late ≤ 1 ∧
      (s.owner = .joining → ∀ steps : List (QueryEnv × Int), servers.length + 2 ≤ steps.length →
        ((s.run (steps.map fun e => .thread e.1 e.2)).step .join).owner = .outside ∧
          ((s.run (steps.map fun e => .thread e.1 e.2)).step .join).thread = none) ∧
      (s.owner = .outside → s.running = false → ∀ later, .start ∉ later → s.run later = s) := by
  have hsound := (Sound.create servers).run moves
  refine ⟨_, rfl, hsound.alive, ⟨hsound.linear.manager, hsound.linear.rounds⟩, ?_, ?_, ?_⟩
  · rcases hsound.late.2 with hzero | ⟨hone, -⟩ <;> omega
  · exact fun howner steps hsteps => join_returns hsound howner hsteps
  · exact fun howner hrunning later hlater =>
      run_of_stopped howner hrunning (hsound.loops.stopped howner hrunning) hlater

end SyncThread

end SimpleNtpd
