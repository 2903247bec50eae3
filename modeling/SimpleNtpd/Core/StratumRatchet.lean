import Mathlib.Algebra.Order.Field.Rat
import Mathlib.Algebra.Order.Field.Basic
import SimpleNtpd.Core.Clients
import SimpleNtpd.Core.Statistics

/-!
# The dynamic stratum

`applyDynamicStratum` is to raise the stratum when the error ratio rises. It keeps
nothing of the last time it did: it looks at the ratio of the totals alone, at every
request that is answered, and raises as long as the ratio is above one fifth, while the
replies bring it down. So one burst of errors takes the stratum up step by step.

To say what a raise reacts to, a run is observed with the totals at the last raise and
what has been counted since (`Observed`). The ratio has risen between two raises exactly
when more errors have been counted since the first than its own ratio allows for the
replies counted since (`ratio_lt_iff`, `stratum_follows_errors_iff`). One error for every
reply is enough while less than half of the datagrams have failed, so every raise follows
a rise where the errors keep up with the replies (`stratum_follows_errors`).
-/

namespace SimpleNtpd

open Cpp

/-- What is added to a ratio makes it greater when it is in a greater ratio itself. -/
theorem ratio_lt_iff {errors requests moreErrors moreRequests : Nat} (h : 0 < requests) :
    (errors : ℚ) / requests < ((errors + moreErrors : Nat) : ℚ) / (requests + moreRequests : Nat) ↔
      errors * moreRequests < moreErrors * requests := by
  have hpos : (0 : ℚ) < requests := Nat.cast_pos.mpr h
  have hpos' : (0 : ℚ) < (requests + moreRequests : Nat) := Nat.cast_pos.mpr (by omega)
  rw [div_lt_div_iff₀ hpos hpos']
  norm_cast
  rw [Nat.mul_add, Nat.add_mul]
  omega

namespace NtpServer

variable {s : NtpServer} {evp : Evp} {data : Bytes} {client : SockAddr} {env : PacketEnv}

/-- The test of `applyDynamicStratum` passes (server.cpp:913–919). -/
def raisesStratum (s : NtpServer) : Bool :=
  s.currentConfig.enableDynamicStratumAdjustment && s.stats.totalRequests > 100
    && errorRatioHigh s.stats.totalErrors s.stats.totalRequests && s.currentConfig.stratum < 15

/-- The stratum in force afterwards. -/
theorem applyDynamicStratum_stratum (s : NtpServer) :
    s.applyDynamicStratum.currentConfig.stratum
      = if s.raisesStratum then s.currentConfig.stratum + 1 else s.currentConfig.stratum := by
  unfold applyDynamicStratum raisesStratum
  dsimp only
  split
  · rw [currentConfig]
    dsimp only
    rw [Function.update_self]
  · rfl

/-! ## What a datagram does to the totals and the stratum -/

/-- A datagram is answered: the stratum is raised where the test passes, and the datagram
counts as a request if its reply can be sent, and as an error if not. -/
structure Answered (s : NtpServer) (sent : Bool) (s' : NtpServer) : Prop where
  stratum : s'.currentConfig.stratum
    = if s.raisesStratum then s.currentConfig.stratum + 1 else s.currentConfig.stratum
  errors : s'.stats.totalErrors = s.stats.totalErrors + (!sent).toNat
  requests : s'.stats.totalRequests = s.stats.totalRequests + sent.toNat

/-- A datagram is not: it counts as an error. -/
structure Unanswered (s s' : NtpServer) : Prop where
  stratum : s'.currentConfig.stratum = s.currentConfig.stratum
  errors : s'.stats.totalErrors = s.stats.totalErrors + 1
  requests : s'.stats.totalRequests = s.stats.totalRequests

theorem finishPacket_totals (s : NtpServer) (accepted : Bool) (data : Bytes) (env : PacketEnv) :
    ((s.finishPacket accepted data env).verdict = .answered ∧
      Answered s env.sendOk (s.finishPacket accepted data env).server) ∨
    ((s.finishPacket accepted data env).verdict ≠ .answered ∧
      Unanswered s (s.finishPacket accepted data env).server) := by
  unfold finishPacket
  cases accepted with
  | false => exact .inr ⟨nofun, rfl, rfl, rfl⟩
  | true =>
    rw [if_pos rfl]
    obtain ⟨parsed, request⟩ := NtpPacket.new.parseFromData data
    cases parsed with
    | false => exact .inr ⟨nofun, rfl, rfl, rfl⟩
    | true =>
      have hbooks := (s.buildReply_books request env).1
      have hstratum : (s.buildReply request env).2.2.currentConfig.stratum
          = if s.raisesStratum then s.currentConfig.stratum + 1 else s.currentConfig.stratum := by
        rw [← s.applyDynamicStratum_stratum]
        exact congrArg NtpConfig.stratum
          (selectUpstreamServer_same s.applyDynamicStratum env.randomIndex).currentConfig
      dsimp only
      generalize s.buildReply request env = built at hbooks hstratum ⊢
      obtain ⟨reply, selected, t⟩ := built
      dsimp only at hbooks hstratum ⊢
      left
      cases env.sendOk with
      | true =>
        refine ⟨rfl, hstratum, ?_, ?_⟩
        · show t.stats.totalErrors = s.stats.totalErrors
          rw [hbooks]
        · show t.stats.totalRequests + 1 = s.stats.totalRequests + 1
          rw [hbooks]
      | false =>
        have hfail := (t.recordSendFailure_books selected).1
        refine ⟨rfl, ?_, ?_, ?_⟩
        · rw [← hstratum]
          exact congrArg NtpConfig.stratum (recordSendFailure_same t selected).currentConfig
        · show (t.recordSendFailure selected).stats.totalErrors = _
          rw [hfail, hbooks]
          rfl
        · show (t.recordSendFailure selected).stats.totalRequests = _
          rw [hfail, hbooks]
          rfl

/-- What comes before the reply leaves what the test looks at. -/
structure SameRatio (s t : NtpServer) : Prop where
  current : t.currentConfig = s.currentConfig
  errors : t.stats.totalErrors = s.stats.totalErrors
  requests : t.stats.totalRequests = s.stats.totalRequests

theorem SameRatio.raisesStratum {t : NtpServer} (h : SameRatio s t) :
    t.raisesStratum = s.raisesStratum := by
  unfold NtpServer.raisesStratum
  rw [h.current, h.errors, h.requests]

/-- **What a datagram does to the totals and the stratum.** -/
theorem processPacket_totals {p : Processed} (h : s.processPacket evp data client env = .ok p) :
    (p.verdict = .answered ∧ Answered s env.sendOk p.server) ∨
      (p.verdict ≠ .answered ∧ Unanswered s p.server) := by
  rcases processPacketWith_stages h with
    ⟨-, t, verdict, ⟨rate, second, rfl⟩, hverdict, rfl⟩ |
    ⟨-, t, u, ⟨rate, second, rfl⟩, hconn, rfl⟩
  · exact .inr ⟨hverdict, rfl, rfl, rfl⟩
  · have hmade : SameRatio s u := by
      rcases getOrCreateConnection_cases hconn with ⟨rfl, -⟩ | ⟨-, trusted, -, rfl⟩ <;>
        exact ⟨rfl, rfl, rfl⟩
    have hstats := (u.handleOn_books captured evp (connectionKey (inetNtop client.ip) client.port)
      env.requestTime data).1
    have hsame := (handleOn_same captured evp u (connectionKey (inetNtop client.ip) client.port)
      env.requestTime data).currentConfig
    generalize u.handleOn captured evp (connectionKey (inetNtop client.ip) client.port)
      env.requestTime data = handled at hstats hsame ⊢
    obtain ⟨accepted, v⟩ := handled
    have hratio : SameRatio s v :=
      ⟨hsame.trans hmade.current, (congrArg _ hstats).trans hmade.errors,
        (congrArg _ hstats).trans hmade.requests⟩
    refine (v.finishPacket_totals accepted data env).imp (And.imp_right fun hanswered => ?_)
      (And.imp_right fun hunanswered => ?_)
    · refine ⟨?_, ?_, ?_⟩
      · rw [hanswered.stratum, hratio.raisesStratum, hratio.current]
      · rw [hanswered.errors, hratio.errors]
      · rw [hanswered.requests, hratio.requests]
    · refine ⟨?_, ?_, ?_⟩
      · rw [hunanswered.stratum, hratio.current]
      · rw [hunanswered.errors, hratio.errors]
      · rw [hunanswered.requests, hratio.requests]

end NtpServer

/-! ## A run that is observed -/

/-- The totals when the stratum was raised last, and what has been counted since. -/
structure SinceRaise where
  errorsAt : Nat
  requestsAt : Nat
  errors : Nat := 0
  replies : Nat := 0
  deriving DecidableEq

/-- A datagram is answered with a reply that is sent, or counts as an error. -/
def SinceRaise.count (r : SinceRaise) (replied : Bool) : SinceRaise :=
  { r with
    errors := r.errors + (!replied).toNat
    replies := r.replies + replied.toNat }

/-- A daemon, and what there is to know of the last raise if there has been one. -/
structure Watched where
  daemon : Daemon
  since : Option SinceRaise

namespace Watched

open NtpServer

/-- A datagram raises the stratum when it is another one afterwards. -/
def step (evp : Evp) (o : Watched) : Daemon.Step → Except Exn Watched
  | .serve (.packet data client env) =>
    (o.daemon.server.processPacket evp data client env).map fun p =>
      let since := if p.server.currentConfig.stratum = o.daemon.server.currentConfig.stratum
        then o.since
        else some ⟨o.daemon.server.stats.totalErrors, o.daemon.server.stats.totalRequests, 0, 0⟩
      { daemon := { o.daemon with server := p.server }
        since := since.map fun r => r.count (p.verdict = .answered && env.sendOk) }
  | e => (o.daemon.step evp e).map fun d => { o with daemon := d }

/-- A new daemon. -/
def start (c : NtpConfig) (logger : LoggerSettings) : Watched := ⟨.create c logger, none⟩

def run (evp : Evp) (o : Watched) (events : List Daemon.Step) : Except Exn Watched :=
  events.foldlM (step evp) o

/-- A datagram that raises the stratum finds a greater error ratio than the one before. -/
def RisesWithErrors (o : Watched) (e : Daemon.Step) (o' : Watched) : Prop :=
  e.isDatagram = true → o'.daemon.currentConfig.stratum ≠ o.daemon.currentConfig.stratum →
    ∀ r ∈ o.since, (r.errorsAt : ℚ) / r.requestsAt
      < (o.daemon.server.stats.totalErrors : ℚ) / o.daemon.server.stats.totalRequests

/-- A request that is answered while the test passes finds more errors since the last raise
than the ratio of that raise allows for the replies since. -/
def ErrorsOutrun (evp : Evp) (o : Watched) : Daemon.Step → Prop
  | .serve (.packet data client env) =>
    ∀ p, o.daemon.server.processPacket evp data client env = .ok p → p.verdict = .answered →
      o.daemon.server.raisesStratum = true →
        ∀ r ∈ o.since, r.errorsAt * r.replies < r.errors * r.requestsAt
  | _ => True

/-- The server answers a datagram. -/
def answers (evp : Evp) (s : NtpServer) (data : Bytes) (client : SockAddr) (env : PacketEnv) :
    Bool :=
  (s.processPacket evp data client env).toOption.any (·.verdict = .answered)

/-- A request that is answered while the test passes finds that since the last raise a
datagram has failed, and one for every reply; and fewer than half had failed by then. -/
def ErrorsKeepUp (evp : Evp) (o : Watched) : Daemon.Step → Prop
  | .serve (.packet data client env) =>
    answers evp o.daemon.server data client env = true → o.daemon.server.raisesStratum = true →
      ∀ r ∈ o.since, 0 < r.errors ∧ r.replies ≤ r.errors ∧ r.errorsAt < r.requestsAt
  | _ => True

instance (evp : Evp) (o : Watched) : DecidablePred (ErrorsKeepUp evp o)
  | .serve (.packet data client env) =>
    inferInstanceAs (Decidable (answers evp o.daemon.server data client env = true → _ → _))
  | .serve (.sync _ _) | .serve (.reload _ _) | .serve .cleanup | .start _ | .stop =>
    inferInstanceAs (Decidable True)

/-- What has been counted since the last raise makes up the totals. -/
def Counted (o : Watched) : Prop :=
  ∀ r ∈ o.since, 0 < r.requestsAt ∧
    o.daemon.server.stats.totalErrors = r.errorsAt + r.errors ∧
    o.daemon.server.stats.totalRequests = r.requestsAt + r.replies

variable {evp : Evp} {o o' : Watched}

/-- The ratio has risen where the errors have outrun it. -/
theorem Counted.rises_iff (h : o.Counted) {r : SinceRaise} (hr : r ∈ o.since) :
    (r.errorsAt : ℚ) / r.requestsAt
        < (o.daemon.server.stats.totalErrors : ℚ) / o.daemon.server.stats.totalRequests ↔
      r.errorsAt * r.replies < r.errors * r.requestsAt := by
  obtain ⟨hpos, herrors, hrequests⟩ := h r hr
  rw [herrors, hrequests]
  exact ratio_lt_iff hpos

/-- Only a datagram is counted. -/
theorem step_eq_map {e : Daemon.Step} (he : e.isDatagram = false) (evp : Evp) (o : Watched) :
    o.step evp e = (o.daemon.step evp e).map fun d => { o with daemon := d } := by
  cases e with
  | start env => rfl
  | stop => rfl
  | serve event =>
    cases event with
    | packet data client env => cases he
    | sync world now => rfl
    | reload getenv file => rfl
    | cleanup => rfl

theorem step_other {e : Daemon.Step} (he : e.isDatagram = false) (h : o.step evp e = .ok o') :
    ∃ d, o.daemon.step evp e = .ok d ∧ o' = { o with daemon := d } := by
  rw [step_eq_map he] at h
  cases hd : o.daemon.step evp e with
  | error exn =>
    rw [hd] at h
    cases h
  | ok d =>
    rw [hd] at h
    exact ⟨d, rfl, (Except.ok.inj h).symm⟩

/-- Who watches changes nothing. -/
theorem step_daemon (evp : Evp) (o : Watched) (e : Daemon.Step) :
    (o.step evp e).map (·.daemon) = o.daemon.step evp e := by
  cases hdatagram : e.isDatagram with
  | false =>
    rw [step_eq_map hdatagram]
    cases o.daemon.step evp e <;> rfl
  | true =>
    match e, hdatagram with
    | .serve (.packet data client env), _ =>
      rw [Daemon.step_packet, step]
      cases o.daemon.server.processPacket evp data client env <;> rfl

/-- The stratum is another one after a datagram exactly when the datagram is answered and
the test passes. -/
theorem stratum_ne_iff {s : NtpServer} {data : Bytes} {client : SockAddr} {env : PacketEnv}
    {p : Processed} (h : s.processPacket evp data client env = .ok p) :
    p.server.currentConfig.stratum ≠ s.currentConfig.stratum ↔
      p.verdict = .answered ∧ s.raisesStratum = true := by
  rcases processPacket_totals h with ⟨hverdict, hanswered⟩ | ⟨hverdict, hunanswered⟩
  · rw [hanswered.stratum]
    cases s.raisesStratum with
    | false => simp
    | true =>
      refine iff_of_true ?_ ⟨hverdict, rfl⟩
      rw [if_pos rfl]
      exact fun heq => absurd (UInt8.add_eq_left.mp heq) (by decide)
  · rw [hunanswered.stratum]
    exact iff_of_false (fun hne => hne rfl) fun hboth => hverdict hboth.1

/-- **One event**: it reacts to a rise exactly when the errors have outrun the ratio. -/
theorem step_rises_iff (h : o.Counted) {e : Daemon.Step} (hstep : o.step evp e = .ok o') :
    RisesWithErrors o e o' ↔ ErrorsOutrun evp o e := by
  cases e with
  | start env => exact iff_of_true nofun trivial
  | stop => exact iff_of_true nofun trivial
  | serve event =>
    cases event with
    | sync world now => exact iff_of_true nofun trivial
    | reload getenv file => exact iff_of_true nofun trivial
    | cleanup => exact iff_of_true nofun trivial
    | packet data client env =>
      rw [step] at hstep
      cases hp : o.daemon.server.processPacket evp data client env with
      | error exn =>
        rw [hp] at hstep
        cases hstep
      | ok p =>
        rw [hp] at hstep
        cases hstep
        have hraised := stratum_ne_iff hp
        constructor
        · intro hrises p' hp' hanswered htest r hr
          cases hp.symm.trans hp'
          exact (h.rises_iff hr).mp (hrises rfl (hraised.mpr ⟨hanswered, htest⟩) r hr)
        · intro houtrun _ hne r hr
          obtain ⟨hanswered, htest⟩ := hraised.mp hne
          exact (h.rises_iff hr).mpr (houtrun p hp hanswered htest r hr)

/-- A datagram counts as a request with its reply, or as an error. -/
theorem totals_of_processPacket {s : NtpServer} {data : Bytes} {client : SockAddr}
    {env : PacketEnv} {p : Processed} (h : s.processPacket evp data client env = .ok p) :
    p.server.stats.totalErrors
        = s.stats.totalErrors + (!(p.verdict = .answered && env.sendOk)).toNat ∧
      p.server.stats.totalRequests
        = s.stats.totalRequests + (p.verdict = .answered && env.sendOk).toNat := by
  rcases processPacket_totals h with ⟨hverdict, hanswered⟩ | ⟨hverdict, hunanswered⟩
  · rw [decide_eq_true hverdict, Bool.true_and]
    exact ⟨hanswered.errors, hanswered.requests⟩
  · rw [decide_eq_false hverdict, Bool.false_and]
    exact ⟨hunanswered.errors, hunanswered.requests⟩

/-- The test passes after more than a hundred requests. -/
theorem requests_of_raisesStratum {s : NtpServer} (h : s.raisesStratum = true) :
    100 < s.stats.totalRequests := by
  unfold raisesStratum at h
  simp only [Bool.and_eq_true, decide_eq_true_eq] at h
  exact h.1.1.2

/-- **One event is counted.** -/
theorem Counted.step (h : o.Counted) {e : Daemon.Step} (hstep : o.step evp e = .ok o') :
    o'.Counted := by
  have hquiet (he : e.isDatagram = false) : o'.Counted := by
    obtain ⟨d, hd, rfl⟩ := step_other he hstep
    rcases Daemon.step_books hd with ⟨data, client, env, rfl, -⟩ | ⟨-, ⟨active, hstats⟩, -⟩
    · cases he
    · intro r hr
      show 0 < r.requestsAt ∧ d.server.stats.totalErrors = _ ∧ d.server.stats.totalRequests = _
      rw [hstats]
      exact h r hr
  cases e with
  | start env => exact hquiet rfl
  | stop => exact hquiet rfl
  | serve event =>
    cases event with
    | sync world now => exact hquiet rfl
    | reload getenv file => exact hquiet rfl
    | cleanup => exact hquiet rfl
    | packet data client env =>
      rw [Watched.step] at hstep
      cases hp : o.daemon.server.processPacket evp data client env with
      | error exn =>
        rw [hp] at hstep
        cases hstep
      | ok p =>
        rw [hp] at hstep
        cases hstep
        obtain ⟨herrors, hrequests⟩ := totals_of_processPacket hp
        intro r hr
        obtain ⟨before, hbefore, rfl⟩ := Option.map_eq_some_iff.mp hr
        -- before the datagram is counted, the totals are made up as well
        have hcounted : 0 < before.requestsAt ∧
            o.daemon.server.stats.totalErrors = before.errorsAt + before.errors ∧
            o.daemon.server.stats.totalRequests = before.requestsAt + before.replies := by
          by_cases hsame : p.server.currentConfig.stratum = o.daemon.server.currentConfig.stratum
          · rw [if_pos hsame] at hbefore
            exact h before hbefore
          · rw [if_neg hsame] at hbefore
            cases hbefore
            have htest := ((stratum_ne_iff hp).mp hsame).2
            exact ⟨Nat.lt_of_le_of_lt (Nat.zero_le 100) (requests_of_raisesStratum htest), rfl, rfl⟩
        obtain ⟨hpos, hbeforeErrors, hbeforeRequests⟩ := hcounted
        refine ⟨hpos, ?_, ?_⟩
        · show p.server.stats.totalErrors = before.errorsAt + (before.errors + _)
          rw [herrors, hbeforeErrors, Nat.add_assoc]
        · show p.server.stats.totalRequests = before.requestsAt + (before.replies + _)
          rw [hrequests, hbeforeRequests, Nat.add_assoc]

/-- In a run of a new daemon every raise finds a greater error ratio than the raise before
exactly where no request is answered, while the test of `applyDynamicStratum` passes,
before the errors have outrun the ratio of the last raise. -/
theorem stratum_follows_errors_iff (evp : Evp) (c : NtpConfig) (logger : LoggerSettings)
    (events : List Daemon.Step) :
    Runs.EveryStep (Watched.step evp) RisesWithErrors (start c logger) events ↔
      Runs.EveryStep (Watched.step evp) (fun o e _ => ErrorsOutrun evp o e) (start c logger)
        events := by
  have hexact : ∀ {o e o'}, Counted o → o.step evp e = .ok o' →
      (RisesWithErrors o e o' ↔ ErrorsOutrun evp o e) := fun h hstep => step_rises_iff h hstep
  have hkeep : ∀ {o e o'}, Counted o → o.step evp e = .ok o' → RisesWithErrors o e o' →
      Counted o' := fun h hstep _ => h.step hstep
  refine Runs.everyStep_iff hexact hkeep ?_ events
  intro r hr
  cases hr

/-- Errors that keep up with the replies outrun the ratio. -/
theorem ErrorsKeepUp.outrun {e : Daemon.Step} (h : ErrorsKeepUp evp o e) : ErrorsOutrun evp o e := by
  cases e with
  | start env => trivial
  | stop => trivial
  | serve event =>
    cases event with
    | sync world now => trivial
    | reload getenv file => trivial
    | cleanup => trivial
    | packet data client env =>
      intro p hp hanswered htest r hr
      have hanswers : answers evp o.daemon.server data client env = true := by
        rw [answers, hp]
        exact decide_eq_true hanswered
      obtain ⟨hpos, hmatched, hfew⟩ := h hanswers htest r hr
      calc r.errorsAt * r.replies
          ≤ r.errorsAt * r.errors := Nat.mul_le_mul_left _ hmatched
        _ < r.requestsAt * r.errors := Nat.mul_lt_mul_of_pos_right hfew hpos
        _ = r.errors * r.requestsAt := Nat.mul_comm _ _

/-- **The dynamic stratum reacts to a rising error ratio where the errors keep up.** In a
run of a new daemon in which a request that is answered while the test of
`applyDynamicStratum` passes finds an error for every reply since the last raise, every
raise finds a greater error ratio than the raise before. -/
theorem stratum_follows_errors (evp : Evp) (c : NtpConfig) (logger : LoggerSettings)
    (events : List Daemon.Step)
    (hkeep : Runs.EveryStep (Watched.step evp) (fun o e _ => ErrorsKeepUp evp o e) (start c logger)
      events) :
    Runs.EveryStep (Watched.step evp) RisesWithErrors (start c logger) events :=
  (stratum_follows_errors_iff evp c logger events).mpr
    (hkeep.imp fun _ _ _ _ hkept => hkept.outrun)

/-! ## One burst of errors -/

/-- A request that is answered. -/
def answeredRequest : Daemon.Step := .serve (.packet exampleRequest exampleClient exampleEnv)

/-- A datagram too short for a request. -/
def shortDatagram : Daemon.Step := .serve (.packet [1, 2, 3, 4] exampleClient exampleEnv)

/-- The server starts, requests are answered, short datagrams count as errors, and a
request is answered again. -/
def oneBurst : List Daemon.Step :=
  .start ⟨true, true⟩ :: List.replicate 101 answeredRequest ++ List.replicate 21 shortDatagram
    ++ [answeredRequest]

/-- A server that adjusts its stratum. -/
def adjustingConfig : NtpConfig :=
  { NtpConfig.defaults with enableDynamicStratumAdjustment := true }

/-- The server before its start. -/
def adjustingServer : Watched :=
  start adjustingConfig (NtpServer.loggerSettings adjustingConfig)

/-- After an error in between, the next request raises the stratum again. -/
theorem stratum_follows_errors_twice :
    (((adjustingServer.run (fun _ _ => none) (oneBurst ++ [shortDatagram, answeredRequest])).map
      (·.daemon.currentConfig.stratum)).toOption = some 4) ∧
    Runs.EveryStep (Watched.step fun _ _ => none) RisesWithErrors adjustingServer
      (oneBurst ++ [shortDatagram, answeredRequest]) := by
  constructor
  · decide +kernel
  · exact stratum_follows_errors _ adjustingConfig _ _ (by decide +kernel)

/-- The last request of the burst raises the stratum, and so does the next one, although
the reply in between has brought the ratio down. -/
theorem raised_twice :
    adjustingConfig.enableDynamicStratumAdjustment = true ∧
      ¬Runs.EveryStep (Watched.step fun _ _ => none) RisesWithErrors adjustingServer
        (oneBurst ++ [answeredRequest]) := by
  refine ⟨rfl, fun hevery => ?_⟩
  have hburst : ((adjustingServer.run (fun _ _ => none) oneBurst).bind fun o =>
      (o.step (fun _ _ => none) answeredRequest).map fun o' =>
        (o.since, o.daemon.server.stats.totalErrors, o.daemon.server.stats.totalRequests,
          o.daemon.currentConfig.stratum, o'.daemon.currentConfig.stratum)).toOption
      = some (some ⟨21, 101, 0, 1⟩, 21, 102, 3, 4) := by
    decide +kernel
  obtain ⟨o, hrun, hnext⟩ := Runs.exists_of_toOption_bind hburst
  obtain ⟨o', hstep, hfound⟩ := Runs.exists_of_toOption_map hnext
  simp only [Prod.mk.injEq] at hfound
  obtain ⟨hsince, herrors, hrequests, hbefore, hafter⟩ := hfound
  have hrises := hevery.last hrun hstep rfl (by rw [hbefore, hafter]; decide) _ hsince
  rw [herrors, hrequests] at hrises
  exact absurd ((@ratio_lt_iff 21 101 0 1 (by decide)).mp hrises) (by decide)

end Watched

end SimpleNtpd
