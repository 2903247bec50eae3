import SimpleNtpd.Core.Statistics
import SimpleNtpd.Core.SyncHistory
import SimpleNtpd.Lib.Report

/-!
# The health report

`runHealthChecks` writes a report of lines `key: value` and a verdict (server.cpp:733–784).
A stopped server, an upstream list without a synchronization, a missing file of leap
seconds and more errors than half the requests make it degraded, and each of them is told
in a line of its own.

The requests are those that were answered. So the errors count against the answers only
from the first answer on: a server that has answered nothing is healthy, whatever number of
datagrams it has refused (`health_tells_life`).
-/

namespace SimpleNtpd

open Cpp Report

/-! ## The text -/

/-- What is asked of the system: whether the socket is there, and the file of the leap
seconds. -/
structure HealthEnv where
  socketBound : Bool
  leapExists : Bool

def boolText (b : Bool) : Str := if b then lit "true" else lit "false"

def entryLine (key : String) (value : Str) : Str := lit key ++ lit ": " ++ value ++ lit "\n"

namespace Daemon

/-- Whether the file of the leap seconds leaves the server healthy, and the lines
(server.cpp:756–776). -/
def leapHealth (d : Daemon) (env : HealthEnv) : Bool × Str :=
  if d.currentConfig.enableLeapSecondHandling then
    (env.leapExists, entryLine "leap_second_file_present" (boolText env.leapExists) ++
      if env.leapExists then []
      else lit "warning: leap second handling enabled but leap second file missing\n")
  else (true, [])

/-- The check of the errors: whether it leaves the server healthy, and its lines
(server.cpp:778–781). -/
def errorHealth (d : Daemon) : Bool × Str :=
  if 0 < d.server.stats.totalRequests
      ∧ d.server.stats.totalRequests / 2 < d.server.stats.totalErrors then
    (false, lit "warning: high error ratio detected\n")
  else (true, [])

/-- The verdict. -/
def healthy (d : Daemon) (env : HealthEnv) : Bool :=
  d.running && d.server.upstreamHealth.1 && (d.leapHealth env).1 && d.errorHealth.1

/-- `NtpServer::runHealthChecks` (server.cpp:733–784). -/
def runHealthChecks (d : Daemon) (env : HealthEnv) : Str :=
  lit "Health Check Report\n" ++
  entryLine "running" (boolText d.running) ++
  entryLine "socket_bound" (boolText env.socketBound) ++
  entryLine "active_connections" (toDecimal d.server.stats.activeConnections) ++
  entryLine "total_errors" (toDecimal d.server.stats.totalErrors) ++
  entryLine "config_loaded" (boolText !d.currentConfig.lastConfigFile.isEmpty) ++
  d.server.upstreamHealth.2 ++ (d.leapHealth env).2 ++ d.errorHealth.2 ++
  entryLine "overall_status" (if d.healthy env then lit "healthy" else lit "degraded")

/-! ## The lines -/

def entryOf (key : String) (value : Str) : Line := .entry (lit key) value

/-- The lines about the upstream servers. -/
def upstreamLines (d : Daemon) : List Line :=
  if d.currentConfig.upstreamServers.isEmpty then []
  else if d.server.isSynced then [entryOf "upstream_synced" (lit "true")]
  else [entryOf "upstream_synced" (lit "false"),
    entryOf "warning" (lit "upstream time synchronization not established")]

def leapLines (d : Daemon) (env : HealthEnv) : List Line :=
  if d.currentConfig.enableLeapSecondHandling then
    if env.leapExists then [entryOf "leap_second_file_present" (lit "true")]
    else [entryOf "leap_second_file_present" (lit "false"),
      entryOf "warning" (lit "leap second handling enabled but leap second file missing")]
  else []

def errorLines (d : Daemon) : List Line :=
  if d.errorHealth.1 then [] else [entryOf "warning" (lit "high error ratio detected")]

/-- The lines of every report. -/
def stateLines (d : Daemon) (env : HealthEnv) : List Line :=
  [.heading (lit "Health Check Report"),
    entryOf "running" (boolText d.running),
    entryOf "socket_bound" (boolText env.socketBound),
    entryOf "active_connections" (toDecimal d.server.stats.activeConnections),
    entryOf "total_errors" (toDecimal d.server.stats.totalErrors),
    entryOf "config_loaded" (boolText !d.currentConfig.lastConfigFile.isEmpty)]

def verdictLine (d : Daemon) (env : HealthEnv) : Line :=
  entryOf "overall_status" (if d.healthy env then lit "healthy" else lit "degraded")

def healthLines (d : Daemon) (env : HealthEnv) : List Line :=
  d.stateLines env ++ d.upstreamLines ++ d.leapLines env ++ d.errorLines ++ [d.verdictLine env]

variable (d : Daemon) (env : HealthEnv)

theorem render_entryOf (key : String) (value : Str) (ls : List Line) :
    render (entryOf key value :: ls) = entryLine key value ++ render ls := by
  have hcolon : lit ": " = [colon, 32] := by decide
  have hnewline : lit "\n" = [newline] := by decide
  simp [render, entryOf, Line.text, entryLine, hcolon, hnewline]

theorem render_upstreamLines : render d.upstreamLines = d.server.upstreamHealth.2 := by
  have htrue : lit "upstream_synced: true\n" = entryLine "upstream_synced" (lit "true") := by
    decide
  have hfalse : lit "upstream_synced: false\n" = entryLine "upstream_synced" (lit "false") := by
    decide
  have hwarning : lit "warning: upstream time synchronization not established\n"
      = entryLine "warning" (lit "upstream time synchronization not established") := by
    decide
  unfold upstreamLines NtpServer.upstreamHealth
  rw [htrue, hfalse, hwarning]
  show render (if d.server.currentConfig.upstreamServers.isEmpty then _ else _) = _
  split
  · rfl
  · split <;> simp [render_entryOf]

theorem render_leapLines : render (d.leapLines env) = (d.leapHealth env).2 := by
  have hwarning : lit "warning: leap second handling enabled but leap second file missing\n"
      = entryLine "warning" (lit "leap second handling enabled but leap second file missing") := by
    decide
  unfold leapLines leapHealth
  rw [hwarning]
  split
  · cases env.leapExists <;> simp [render_entryOf, boolText]
  · rfl

theorem render_errorLines : render d.errorLines = d.errorHealth.2 := by
  have hwarning : lit "warning: high error ratio detected\n"
      = entryLine "warning" (lit "high error ratio detected") := by
    decide
  unfold errorLines errorHealth
  rw [hwarning]
  split <;> simp [render_entryOf]

/-- **The text is that of the lines.** -/
theorem runHealthChecks_eq : d.runHealthChecks env = render (d.healthLines env) := by
  have hheading : ∀ ls, render (.heading (lit "Health Check Report") :: ls)
      = lit "Health Check Report\n" ++ render ls := fun ls => by
    have htext : lit "Health Check Report\n" = lit "Health Check Report" ++ [newline] := by
      decide
    rw [render, List.flatMap_cons, htext]
    rfl
  unfold runHealthChecks healthLines
  simp only [render_append, render_upstreamLines, render_leapLines, render_errorLines, stateLines,
    verdictLine, hheading, render_entryOf, render_nil, List.append_nil, List.append_assoc]

/-! ## What is told -/

theorem entryOf_plain {key : String} {value : Str}
    (hkey : ((lit key).all fun c => c != colon && c != newline) = true)
    (hvalue : (value.all (· != newline)) = true) : (entryOf key value).plain = true := by
  rw [entryOf, Line.plain, hkey, hvalue]
  rfl

theorem plain_boolText (b : Bool) : ((boolText b).all (· != newline)) = true := by
  cases b <;> decide

theorem plain_toDecimal (n : Nat) : ((toDecimal n).all (· != newline)) = true := by
  have hdigit : ∀ c, isDigit c = true → (c != newline) = true := forall_uint8 (by decide)
  exact List.all_eq_true.mpr fun c hc => hdigit c (isDigit_of_mem_toDecimal hc)

/-- The lines about the upstream servers, with the warning if there is one. -/
theorem mem_upstreamLines {l : Line} (h : l ∈ d.upstreamLines) : l.plain = true ∧
    (l.key = lit "upstream_synced" ∨
      l.key = lit "warning" ∧ d.server.upstreamHealth.1 = false) := by
  unfold upstreamLines at h
  unfold NtpServer.upstreamHealth
  show _ ∧ (_ ∨ _ ∧ (if d.currentConfig.upstreamServers.isEmpty then _ else _ : Bool × Str).1 = _)
  split at h
  · cases h
  · rw [if_neg ‹_›]
    split at h
    · rw [List.mem_singleton.mp h]
      exact ⟨by decide, .inl rfl⟩
    · rw [if_neg ‹_›]
      rcases List.mem_cons.mp h with rfl | h
      · exact ⟨by decide, .inl rfl⟩
      · rw [List.mem_singleton.mp h]
        exact ⟨by decide, .inr ⟨rfl, rfl⟩⟩

theorem mem_leapLines {l : Line} (h : l ∈ d.leapLines env) : l.plain = true ∧
    (l.key = lit "leap_second_file_present" ∨
      l.key = lit "warning" ∧ (d.leapHealth env).1 = false) := by
  unfold leapLines at h
  unfold leapHealth
  split at h
  · rw [if_pos ‹_›]
    cases hexists : env.leapExists with
    | true =>
      rw [hexists, if_pos rfl, List.mem_singleton] at h
      rw [h]
      exact ⟨by decide, .inl rfl⟩
    | false =>
      rw [hexists, if_neg Bool.false_ne_true] at h
      rcases List.mem_cons.mp h with rfl | h
      · exact ⟨by decide, .inl rfl⟩
      · rw [List.mem_singleton.mp h]
        exact ⟨by decide, .inr ⟨rfl, rfl⟩⟩
  · cases h

theorem mem_errorLines {l : Line} (h : l ∈ d.errorLines) : l.plain = true ∧
    l.key = lit "warning" ∧ d.errorHealth.1 = false := by
  unfold errorLines at h
  split at h
  · cases h
  · rw [List.mem_singleton.mp h]
    exact ⟨by decide, rfl, Bool.eq_false_iff.mpr ‹_›⟩

theorem stateLines_plain : ∀ l ∈ d.stateLines env, l.plain = true := by
  simp only [stateLines, List.forall_mem_cons]
  exact ⟨by decide, entryOf_plain (by decide +kernel) (plain_boolText _),
    entryOf_plain (by decide) (plain_boolText _),
    entryOf_plain (by decide) (plain_toDecimal _),
    entryOf_plain (by decide) (plain_toDecimal _),
    entryOf_plain (by decide) (plain_boolText _), nofun⟩

theorem healthLines_plain : ∀ l ∈ d.healthLines env, l.plain = true := by
  intro l hl
  simp only [healthLines, List.mem_append, List.mem_singleton] at hl
  rcases hl with (((hl | hl) | hl) | hl) | rfl
  · exact d.stateLines_plain env l hl
  · exact (d.mem_upstreamLines hl).1
  · exact (d.mem_leapLines env hl).1
  · exact (d.mem_errorLines hl).1
  · unfold verdictLine
    cases d.healthy env <;> decide

/-- The keys of the lines of every report. -/
def stateKeys : List Str :=
  [lit "Health Check Report", lit "running", lit "socket_bound", lit "active_connections",
    lit "total_errors", lit "config_loaded"]

theorem mem_stateLines {l : Line} (h : l ∈ d.stateLines env) : l.key ∈ stateKeys := by
  have hkeys : (d.stateLines env).map Line.key = stateKeys := rfl
  rw [← hkeys]
  exact List.mem_map_of_mem h

theorem mem_healthLines {l : Line} : l ∈ d.healthLines env ↔ l ∈ d.stateLines env ∨
    l ∈ d.upstreamLines ∨ l ∈ d.leapLines env ∨ l ∈ d.errorLines ∨ l = d.verdictLine env := by
  simp only [healthLines, List.mem_append, List.mem_singleton, or_assoc]

/-- What a report tells is in its lines. -/
theorem mem_report {key value : Str} :
    (key, value) ∈ read (d.runHealthChecks env) ↔ Line.entry key value ∈ d.healthLines env := by
  rw [runHealthChecks_eq, mem_read_render (d.healthLines_plain env)]

/-- The verdict is told once. -/
theorem mem_overall_status {value : Str} :
    (lit "overall_status", value) ∈ read (d.runHealthChecks env) ↔
      (if d.healthy env then lit "healthy" else lit "degraded") = value := by
  have hkeys : lit "overall_status" ∉ stateKeys ++ [lit "upstream_synced",
      lit "leap_second_file_present", lit "warning"] := by decide
  simp only [List.mem_append, List.mem_cons, List.not_mem_nil, or_false, not_or] at hkeys
  obtain ⟨hstate, hupstream, hleap, hwarning⟩ := hkeys
  rw [mem_report, mem_healthLines]
  constructor
  · rintro (h | h | h | h | h)
    · exact absurd (d.mem_stateLines env h) hstate
    · exact ((d.mem_upstreamLines h).2.elim hupstream fun h => hwarning h.1).elim
    · exact ((d.mem_leapLines env h).2.elim hleap fun h => hwarning h.1).elim
    · exact absurd (d.mem_errorLines h).2.1 hwarning
    · rw [verdictLine, entryOf, Line.entry.injEq] at h
      exact h.2.symm
  · rintro rfl
    exact .inr (.inr (.inr (.inr rfl)))

/-- Whether the server is running is read back from the text. -/
theorem mem_running {value : Str} :
    (lit "running", value) ∈ read (d.runHealthChecks env) ↔ boolText d.running = value := by
  have hkeys : lit "running" ∉ [lit "socket_bound", lit "active_connections", lit "total_errors",
      lit "config_loaded", lit "upstream_synced", lit "leap_second_file_present", lit "warning",
      lit "overall_status"] := by decide
  simp only [List.mem_cons, List.not_mem_nil, or_false, not_or] at hkeys
  obtain ⟨hsocket, hactive, herrors, hconfig, hupstream, hleap, hwarning, hverdict⟩ := hkeys
  rw [mem_report, mem_healthLines]
  constructor
  · rintro (h | h | h | h | h)
    · simp only [stateLines, entryOf, List.mem_cons, Line.entry.injEq, reduceCtorEq, false_or,
        List.not_mem_nil, or_false, hsocket, hactive, herrors, hconfig, false_and, true_and] at h
      exact h.symm
    · exact ((d.mem_upstreamLines h).2.elim hupstream fun h => hwarning h.1).elim
    · exact ((d.mem_leapLines env h).2.elim hleap fun h => hwarning h.1).elim
    · exact absurd (d.mem_errorLines h).2.1 hwarning
    · rw [verdictLine, entryOf, Line.entry.injEq] at h
      exact absurd h.1 hverdict
  · rintro rfl
    exact .inl (List.mem_cons_of_mem _ List.mem_cons_self)

/-- A check that fails is warned of. -/
theorem upstream_warning (h : d.server.upstreamHealth.1 = false) :
    entryOf "warning" (lit "upstream time synchronization not established") ∈ d.upstreamLines := by
  unfold NtpServer.upstreamHealth at h
  unfold upstreamLines
  change (if d.currentConfig.upstreamServers.isEmpty then _ else _ : Bool × Str).1 = _ at h
  split at h
  · cases h
  · rw [if_neg ‹_›]
    split at h
    · cases h
    · rw [if_neg ‹_›]
      exact List.mem_cons_of_mem _ List.mem_cons_self

theorem leap_warning (h : (d.leapHealth env).1 = false) :
    entryOf "warning" (lit "leap second handling enabled but leap second file missing")
      ∈ d.leapLines env := by
  unfold leapHealth at h
  unfold leapLines
  split at h
  · dsimp only at h
    rw [if_pos ‹_›, h]
    exact List.mem_cons_of_mem _ List.mem_cons_self
  · cases h

/-- There is a warning when a check fails, whatever the server is doing. -/
theorem exists_warning_iff :
    (∃ text, (lit "warning", text) ∈ read (d.runHealthChecks env)) ↔
      (d.server.upstreamHealth.1 && (d.leapHealth env).1 && d.errorHealth.1) = false := by
  have hkeys : lit "warning" ∉ stateKeys ++ [lit "upstream_synced",
      lit "leap_second_file_present", lit "overall_status"] := by decide
  simp only [List.mem_append, List.mem_cons, List.not_mem_nil, or_false, not_or] at hkeys
  obtain ⟨hstate, hupstream, hleap, hverdict⟩ := hkeys
  simp only [mem_report, mem_healthLines, Bool.and_eq_false_iff]
  constructor
  · rintro ⟨text, h | h | h | h | h⟩
    · exact absurd (d.mem_stateLines env h) hstate
    · exact .inl (.inl ((d.mem_upstreamLines h).2.resolve_left hupstream).2)
    · exact .inl (.inr ((d.mem_leapLines env h).2.resolve_left hleap).2)
    · exact .inr (d.mem_errorLines h).2.2
    · rw [verdictLine, entryOf, Line.entry.injEq] at h
      exact absurd h.1 hverdict
  · rintro ((h | h) | h)
    · exact ⟨_, .inr (.inl (d.upstream_warning h))⟩
    · exact ⟨_, .inr (.inr (.inl (d.leap_warning env h)))⟩
    · refine ⟨lit "high error ratio detected", .inr (.inr (.inr (.inl ?_)))⟩
      rw [errorLines, h]
      exact List.mem_cons_self

/-- The error count is told. -/
theorem mem_total_errors :
    (lit "total_errors", toDecimal d.server.stats.totalErrors) ∈ read (d.runHealthChecks env) := by
  rw [mem_report, mem_healthLines, stateLines]
  exact .inl (.tail _ (.tail _ (.tail _ (.tail _ (.head _)))))

theorem healthy_iff_checks : d.healthy env = true ↔ d.running = true ∧
    (d.server.upstreamHealth.1 && (d.leapHealth env).1 && d.errorHealth.1) = true := by
  simp only [healthy, Bool.and_eq_true, and_assoc]

theorem upstreamHealth_iff : d.server.upstreamHealth.1 = true ↔
    d.currentConfig.upstreamServers = [] ∨ d.server.isSynced = true := by
  unfold NtpServer.upstreamHealth currentConfig
  cases d.server.currentConfig.upstreamServers with
  | nil => simp
  | cons server servers => cases d.server.isSynced <;> simp

theorem leapHealth_iff : (d.leapHealth env).1 = true ↔
    (d.currentConfig.enableLeapSecondHandling = true → env.leapExists = true) := by
  unfold leapHealth
  cases d.currentConfig.enableLeapSecondHandling <;> simp

/-- With the accounts, the errors are compared with all datagrams. -/
theorem errorHealth_iff {datagrams : Nat} (h : NtpServerStats.Accounted datagrams d.server.stats) :
    d.errorHealth.1 = true ↔
      d.server.stats.totalResponses = 0 ∨ 3 * d.server.stats.totalErrors ≤ datagrams := by
  have hcondition : (0 < d.server.stats.totalRequests ∧
      d.server.stats.totalRequests / 2 < d.server.stats.totalErrors) ↔
        ¬(d.server.stats.totalResponses = 0 ∨ 3 * d.server.stats.totalErrors ≤ datagrams) := by
    rw [h.datagrams, h.requests]
    omega
  unfold errorHealth
  by_cases hhigh : 0 < d.server.stats.totalRequests ∧
      d.server.stats.totalRequests / 2 < d.server.stats.totalErrors
  · rw [if_pos hhigh]
    exact iff_of_false Bool.false_ne_true (hcondition.mp hhigh)
  · rw [if_neg hhigh]
    exact iff_of_true rfl (not_not.mp (mt hcondition.mpr hhigh))

end Daemon

open Daemon

/-- **What the health report tells of a life.** The verdict that is read is `healthy`
exactly when the server is running, has synchronized if it has upstream servers, finds its
file of leap seconds if it needs one, and has answered no datagram at all or failed at most
a third of them. Whatever degrades it stands in a line of its own, and the errors that are
told and the answers are all datagrams. -/
theorem health_tells_life (evp : Evp) (c : NtpConfig) (logger : LoggerSettings)
    (events : List Step) (hfits : ∀ e ∈ events, e.FitsBuffer) {d : Daemon}
    (hrun : (create c logger).run evp events = .ok d) (env : HealthEnv) :
    ((lit "overall_status", lit "healthy") ∈ read (d.runHealthChecks env) ↔
      d.running = true ∧
      (d.currentConfig.upstreamServers = [] ∨ d.server.isSynced = true) ∧
      (d.currentConfig.enableLeapSecondHandling = true → env.leapExists = true) ∧
      (d.server.stats.totalResponses = 0 ∨
        3 * d.server.stats.totalErrors ≤ events.countP Step.isDatagram)) ∧
    ((lit "overall_status", lit "degraded") ∈ read (d.runHealthChecks env) ↔
      (lit "running", lit "false") ∈ read (d.runHealthChecks env) ∨
        ∃ text, (lit "warning", text) ∈ read (d.runHealthChecks env)) ∧
    ∃ errors, (lit "total_errors", toDecimal errors) ∈ read (d.runHealthChecks env) ∧
      d.server.stats.totalResponses + errors = events.countP Step.isDatagram := by
  have haccounted := ((Conserved.create c logger).run hfits hrun).accounted
  rw [Nat.zero_add] at haccounted
  have hwords : lit "degraded" ≠ lit "healthy" ∧ lit "true" ≠ lit "false" := by decide
  refine ⟨?_, ?_, _, d.mem_total_errors env, haccounted.datagrams.symm⟩
  · have hverdict : (if d.healthy env then lit "healthy" else lit "degraded") = lit "healthy" ↔
        d.healthy env = true := by
      cases d.healthy env <;> simp [hwords.1]
    rw [mem_overall_status, hverdict, healthy_iff_checks, Bool.and_eq_true, Bool.and_eq_true,
      upstreamHealth_iff, leapHealth_iff, d.errorHealth_iff haccounted, and_assoc]
  · have hverdict : (if d.healthy env then lit "healthy" else lit "degraded") = lit "degraded" ↔
        ¬d.healthy env = true := by
      cases d.healthy env <;> simp [hwords.1.symm]
    have hrunning : boolText d.running = lit "false" ↔ ¬d.running = true := by
      cases d.running <;> simp [boolText, hwords.2]
    rw [mem_overall_status, hverdict, healthy_iff_checks, mem_running, hrunning,
      exists_warning_iff, not_and_or, Bool.not_eq_true (_ && _)]

/-- A configuration without upstream servers. -/
def aloneConfig : NtpConfig := { NtpConfig.defaults with upstreamServers := [] }

/-- Two answers and an error, before the stop. -/
theorem health_tells_life_example :
    ∃ d, (create aloneConfig (startupLogger aloneConfig)).run (fun _ _ => none)
        exampleLife.dropLast = .ok d ∧
      (lit "overall_status", lit "healthy") ∈ read (d.runHealthChecks ⟨true, true⟩) := by
  have hchecks : (((create aloneConfig (startupLogger aloneConfig)).run (fun _ _ => none)
      exampleLife.dropLast).map (fun d => (d.running, d.currentConfig.upstreamServers.isEmpty,
        d.server.stats.totalErrors))).toOption = some (true, true, 1) := by
    decide
  obtain ⟨d, hrun, hall⟩ := Runs.exists_of_toOption_map hchecks
  rw [Prod.mk.injEq, Prod.mk.injEq, List.isEmpty_iff] at hall
  obtain ⟨hrunning, hnone, herrors⟩ := hall
  have hrequest : exampleRequest.length ≤ ntpPacketSize := by decide
  have hshort : [(0x23 : UInt8)].length ≤ ntpPacketSize := by decide
  have hfits : ∀ e ∈ exampleLife.dropLast, e.FitsBuffer := by
    simp only [exampleLife, List.dropLast, List.forall_mem_cons]
    exact ⟨trivial, hrequest, hrequest, hshort, by simp⟩
  refine ⟨d, hrun, (health_tells_life (fun _ _ => none) aloneConfig (startupLogger aloneConfig)
    exampleLife.dropLast hfits hrun ⟨true, true⟩).1.mpr
      ⟨hrunning, .inl hnone, fun _ => rfl, .inr ?_⟩⟩
  rw [herrors]
  decide

end SimpleNtpd
