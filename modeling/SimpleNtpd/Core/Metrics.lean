import SimpleNtpd.Core.Statistics
import SimpleNtpd.Lib.Exposition

/-!
# The metrics

`exportPrometheusMetrics` writes the counters, the state of the synchronization and what
the system tells of the process as a text of metrics (server.cpp:671–731). The text is
that of some families with different names (`metricFamilies`, `exportPrometheusMetrics_eq`),
and a scraper reads just these from it.

The counts are those of the statistics, which no event of a life takes back. So a scraper
that looks twice at a life never sees one go down (`scrapes_count_up`).
-/

namespace SimpleNtpd

open Cpp Exposition

/-- What `getrusage` has told: the memory in units of 1024 bytes, and the times as the
stream writes them. -/
structure ProcessUsage where
  maxRss : Int
  userCpu : Str
  systemCpu : Str
  userWord : isValue userCpu = true
  systemWord : isValue systemCpu = true

/-- What is read beside the server. -/
structure MetricsEnv where
  uptimeSeconds : Nat
  /-- the quotient of two counts as doubles, cut off -/
  quotient : Nat → Nat → Nat
  /-- `none` is an error of `getrusage` -/
  usage : Option ProcessUsage

/-! ## The text -/

def helpLine (name help : String) : Str :=
  lit "# HELP " ++ lit name ++ lit " " ++ lit help ++ lit "\n"

def typeLine (name kind : String) : Str :=
  lit "# TYPE " ++ lit name ++ lit " " ++ lit kind ++ lit "\n"

def sampleLine (name : String) (value : Str) : Str := lit name ++ lit " " ++ value ++ lit "\n"

namespace NtpServerStats

/-- `avg_us`. -/
def averageUs (st : NtpServerStats) (env : MetricsEnv) : Nat :=
  if st.processedRequestCount = 0 then 0
  else env.quotient st.totalRequestProcessingTimeUs st.processedRequestCount

/-- The fastest time, or zero when there is none. -/
def fastestUs (st : NtpServerStats) : Nat :=
  if st.minRequestProcessingTimeUs = 2 ^ 64 - 1 then 0 else st.minRequestProcessingTimeUs

end NtpServerStats

/-- The lines of the synchronization (server.cpp:703–711). -/
def UpstreamSyncManager.exportMetrics (sync : UpstreamSyncManager) : Str :=
  helpLine "simple_ntpd_upstream_synced" "Whether upstream sync succeeded" ++
  typeLine "simple_ntpd_upstream_synced" "gauge" ++
  sampleLine "simple_ntpd_upstream_synced" (if sync.synced then lit "1" else lit "0") ++
  helpLine "simple_ntpd_clock_offset_us" "Estimated clock offset from upstream" ++
  typeLine "simple_ntpd_clock_offset_us" "gauge" ++
  sampleLine "simple_ntpd_clock_offset_us" (toDecimalInt sync.clockOffsetUs)

/-- The lines of the process (server.cpp:713–728). -/
def ProcessUsage.exportMetrics (usage : ProcessUsage) : Str :=
  helpLine "simple_ntpd_process_max_rss_bytes" "Peak RSS in bytes" ++
  typeLine "simple_ntpd_process_max_rss_bytes" "gauge" ++
  sampleLine "simple_ntpd_process_max_rss_bytes" (toDecimalInt (usage.maxRss * 1024)) ++
  helpLine "simple_ntpd_process_user_cpu_seconds" "Total user CPU time" ++
  typeLine "simple_ntpd_process_user_cpu_seconds" "counter" ++
  sampleLine "simple_ntpd_process_user_cpu_seconds" usage.userCpu ++
  helpLine "simple_ntpd_process_system_cpu_seconds" "Total system CPU time" ++
  typeLine "simple_ntpd_process_system_cpu_seconds" "counter" ++
  sampleLine "simple_ntpd_process_system_cpu_seconds" usage.systemCpu

namespace NtpServer

/-- `NtpServer::exportPrometheusMetrics` (server.cpp:671–731). -/
def exportPrometheusMetrics (s : NtpServer) (env : MetricsEnv) : Str :=
  helpLine "simple_ntpd_requests_total" "Total NTP requests processed" ++
  typeLine "simple_ntpd_requests_total" "counter" ++
  sampleLine "simple_ntpd_requests_total" (toDecimal s.stats.totalRequests) ++
  helpLine "simple_ntpd_errors_total" "Total NTP errors" ++
  typeLine "simple_ntpd_errors_total" "counter" ++
  sampleLine "simple_ntpd_errors_total" (toDecimal s.stats.totalErrors) ++
  helpLine "simple_ntpd_bytes_total" "Total bytes transferred" ++
  typeLine "simple_ntpd_bytes_total" "counter" ++
  sampleLine "simple_ntpd_bytes_total" (toDecimal s.stats.totalBytesTransferred) ++
  helpLine "simple_ntpd_request_proc_time_us" "Request processing time (us)" ++
  typeLine "simple_ntpd_request_proc_time_us" "summary" ++
  sampleLine "simple_ntpd_request_proc_time_us_count" (toDecimal s.stats.processedRequestCount) ++
  sampleLine "simple_ntpd_request_proc_time_us_sum"
    (toDecimal s.stats.totalRequestProcessingTimeUs) ++
  sampleLine "simple_ntpd_request_proc_time_us_avg" (toDecimal (s.stats.averageUs env)) ++
  sampleLine "simple_ntpd_request_proc_time_us_max"
    (toDecimal s.stats.maxRequestProcessingTimeUs) ++
  sampleLine "simple_ntpd_request_proc_time_us_min" (toDecimal s.stats.fastestUs) ++
  helpLine "simple_ntpd_uptime_seconds" "Server uptime in seconds" ++
  typeLine "simple_ntpd_uptime_seconds" "gauge" ++
  sampleLine "simple_ntpd_uptime_seconds" (toDecimal env.uptimeSeconds) ++
  (s.upstreamSync.elim [] UpstreamSyncManager.exportMetrics) ++
  (env.usage.elim [] ProcessUsage.exportMetrics)

end NtpServer

/-! ## The families -/

/-- A family under names of the source. -/
def family (name help kind : String) (samples : List (String × Str)) : Family where
  name := lit name
  help := lit help
  kind := lit kind
  samples := samples.map fun s => (lit s.1, s.2)

/-- A family with one sample under its name. -/
def single (name help kind : String) (value : Str) : Family := family name help kind [(name, value)]

def UpstreamSyncManager.metricFamilies (sync : UpstreamSyncManager) : List Family :=
  [single "simple_ntpd_upstream_synced" "Whether upstream sync succeeded" "gauge"
      (if sync.synced then lit "1" else lit "0"),
    single "simple_ntpd_clock_offset_us" "Estimated clock offset from upstream" "gauge"
      (toDecimalInt sync.clockOffsetUs)]

def ProcessUsage.metricFamilies (usage : ProcessUsage) : List Family :=
  [single "simple_ntpd_process_max_rss_bytes" "Peak RSS in bytes" "gauge"
      (toDecimalInt (usage.maxRss * 1024)),
    single "simple_ntpd_process_user_cpu_seconds" "Total user CPU time" "counter" usage.userCpu,
    single "simple_ntpd_process_system_cpu_seconds" "Total system CPU time" "counter"
      usage.systemCpu]

/-- The families of the statistics. -/
def NtpServerStats.metricFamilies (st : NtpServerStats) (env : MetricsEnv) : List Family :=
  [single "simple_ntpd_requests_total" "Total NTP requests processed" "counter"
      (toDecimal st.totalRequests),
    single "simple_ntpd_errors_total" "Total NTP errors" "counter" (toDecimal st.totalErrors),
    single "simple_ntpd_bytes_total" "Total bytes transferred" "counter"
      (toDecimal st.totalBytesTransferred),
    family "simple_ntpd_request_proc_time_us" "Request processing time (us)" "summary"
      [("simple_ntpd_request_proc_time_us_count", toDecimal st.processedRequestCount),
        ("simple_ntpd_request_proc_time_us_sum", toDecimal st.totalRequestProcessingTimeUs),
        ("simple_ntpd_request_proc_time_us_avg", toDecimal (st.averageUs env)),
        ("simple_ntpd_request_proc_time_us_max", toDecimal st.maxRequestProcessingTimeUs),
        ("simple_ntpd_request_proc_time_us_min", toDecimal st.fastestUs)],
    single "simple_ntpd_uptime_seconds" "Server uptime in seconds" "gauge"
      (toDecimal env.uptimeSeconds)]

/-- What a text of metrics should tell. -/
def NtpServer.metricFamilies (s : NtpServer) (env : MetricsEnv) : List Family :=
  s.stats.metricFamilies env ++ s.upstreamSync.elim [] UpstreamSyncManager.metricFamilies ++
    env.usage.elim [] ProcessUsage.metricFamilies

theorem lit_space : lit " " = [space] := by decide

theorem lit_newline : lit "\n" = [newline] := by decide

/-- The lines of a family. -/
theorem render_family (name help kind : String) (samples : List (String × Str)) (fs : List Family) :
    render (family name help kind samples :: fs) = helpLine name help ++ typeLine name kind ++
      samples.flatMap (fun s => sampleLine s.1 s.2) ++ render fs := by
  simp [render, family, Family.lines, Line.text, helpLine, typeLine, sampleLine, helpMark, typeMark,
    lit_space, lit_newline, List.flatMap_map]

theorem render_single (name help kind : String) (value : Str) (fs : List Family) :
    render (single name help kind value :: fs)
      = helpLine name help ++ typeLine name kind ++ sampleLine name value ++ render fs := by
  rw [single, render_family, List.flatMap_cons, List.flatMap_nil, List.append_nil]

/-- **The text is that of the families.** -/
theorem exportPrometheusMetrics_eq (s : NtpServer) (env : MetricsEnv) :
    s.exportPrometheusMetrics env = render (s.metricFamilies env) := by
  have hnil : render [] = [] := rfl
  have hsync : s.upstreamSync.elim [] UpstreamSyncManager.exportMetrics
      = render (s.upstreamSync.elim [] UpstreamSyncManager.metricFamilies) := by
    cases s.upstreamSync with
    | none => rfl
    | some sync =>
      simp only [Option.elim, UpstreamSyncManager.exportMetrics, UpstreamSyncManager.metricFamilies,
        render_single, hnil, List.append_nil, List.append_assoc]
  have husage : env.usage.elim [] ProcessUsage.exportMetrics
      = render (env.usage.elim [] ProcessUsage.metricFamilies) := by
    cases env.usage with
    | none => rfl
    | some usage =>
      simp only [Option.elim, ProcessUsage.exportMetrics, ProcessUsage.metricFamilies,
        render_single, hnil, List.append_nil, List.append_assoc]
  unfold NtpServer.exportPrometheusMetrics NtpServer.metricFamilies NtpServerStats.metricFamilies
  rw [render_append, render_append, hsync, husage]
  simp only [render_single, render_family, hnil,
    List.flatMap_cons, List.flatMap_nil, List.append_nil, List.append_assoc]

/-! ## What a scraper reads -/

theorem isValue_toDecimal (n : Nat) : isValue (toDecimal n) = true := by
  have hdigit : ∀ c, isDigit c = true → isSpace c = false := forall_uint8 (by decide)
  simp only [isValue, Bool.and_eq_true, Bool.not_eq_true', List.isEmpty_eq_false_iff,
    List.all_eq_true]
  exact ⟨toDecimal_ne_nil n, fun c hc => hdigit c (isDigit_of_mem_toDecimal hc)⟩

theorem isValue_toDecimalInt (i : Int) : isValue (toDecimalInt i) = true := by
  have hvalue := isValue_toDecimal i.natAbs
  unfold toDecimalInt
  split
  · simp only [isValue, Bool.and_eq_true, List.all_cons] at hvalue ⊢
    exact ⟨rfl, by decide, hvalue.2⟩
  · exact hvalue

/-- A family is well-formed when its texts are and its samples bear its name. -/
theorem family_wellFormed {name help kind : String} {samples : List (String × Str)}
    (htexts : (isName (lit name) && isText (lit help) && isValue (lit kind)) = true)
    (hsamples : ∀ s ∈ samples, (isName (lit s.1) && (lit name).isPrefixOf (lit s.1)) = true ∧
      isValue s.2 = true) : (family name help kind samples).wellFormed = true := by
  simp only [Bool.and_eq_true] at htexts hsamples
  obtain ⟨⟨hname, hhelp⟩, hkind⟩ := htexts
  simp only [Family.wellFormed, Family.lines, family, Line.wellFormed, List.all_cons, List.all_map,
    hname, hhelp, hkind, Bool.and_true, Bool.true_and, Bool.and_eq_true, List.all_eq_true]
  constructor
  · intro s hs
    simp only [Function.comp_apply, Line.wellFormed, (hsamples s hs).1.1, (hsamples s hs).2,
      Bool.and_true]
  · exact fun s hs => (hsamples s hs).1.2

theorem single_wellFormed {name help kind : String} {value : Str}
    (htexts : (isName (lit name) && isText (lit help) && isValue (lit kind)) = true)
    (hvalue : isValue value = true) : (single name help kind value).wellFormed = true := by
  refine family_wellFormed htexts fun s hs => ?_
  rw [List.mem_singleton.mp hs]
  simp only [Bool.and_eq_true] at htexts ⊢
  exact ⟨⟨htexts.1.1, List.isPrefixOf_iff_prefix.mpr (List.prefix_refl _)⟩, hvalue⟩

theorem metricFamilies_wellFormed (s : NtpServer) (env : MetricsEnv) :
    ∀ f ∈ s.metricFamilies env, f.wellFormed = true := by
  have hstats : ∀ f ∈ s.stats.metricFamilies env, f.wellFormed = true := by
    simp only [NtpServerStats.metricFamilies, List.forall_mem_cons]
    refine ⟨single_wellFormed (by decide) (isValue_toDecimal _),
      single_wellFormed (by decide) (isValue_toDecimal _),
      single_wellFormed (by decide) (isValue_toDecimal _),
      family_wellFormed (by decide) ?_,
      single_wellFormed (by decide) (isValue_toDecimal _), nofun⟩
    simp only [List.forall_mem_cons]
    exact ⟨⟨by decide, isValue_toDecimal _⟩, ⟨by decide +kernel, isValue_toDecimal _⟩,
      ⟨by decide, isValue_toDecimal _⟩, ⟨by decide +kernel, isValue_toDecimal _⟩,
      ⟨by decide, isValue_toDecimal _⟩, nofun⟩
  have hsync : ∀ f ∈ s.upstreamSync.elim [] UpstreamSyncManager.metricFamilies,
      f.wellFormed = true := by
    cases s.upstreamSync with
    | none => nofun
    | some sync =>
      have hflag : isValue (if sync.synced then lit "1" else lit "0") = true := by
        cases sync.synced <;> decide
      simp only [Option.elim, UpstreamSyncManager.metricFamilies, List.forall_mem_cons]
      exact ⟨single_wellFormed (by decide) hflag,
        single_wellFormed (by decide) (isValue_toDecimalInt _), nofun⟩
  have husage : ∀ f ∈ env.usage.elim [] ProcessUsage.metricFamilies, f.wellFormed = true := by
    cases env.usage with
    | none => nofun
    | some usage =>
      simp only [Option.elim, ProcessUsage.metricFamilies, List.forall_mem_cons]
      exact ⟨single_wellFormed (by decide) (isValue_toDecimalInt _),
        single_wellFormed (by decide) usage.userWord,
        single_wellFormed (by decide) usage.systemWord, nofun⟩
  intro f hf
  rcases List.mem_append.mp hf with hf | hf
  · exact (List.mem_append.mp hf).elim (hstats f) (hsync f)
  · exact husage f hf

/-- **Every text of metrics is read as the families it was written for.** -/
theorem parse_export (s : NtpServer) (env : MetricsEnv) :
    parse (s.exportPrometheusMetrics env) = some (s.metricFamilies env) := by
  rw [exportPrometheusMetrics_eq, parse_render (metricFamilies_wellFormed s env)]

/-- The names of all samples there can be. -/
def sampleNames : List Str :=
  [lit "simple_ntpd_requests_total", lit "simple_ntpd_errors_total", lit "simple_ntpd_bytes_total",
    lit "simple_ntpd_request_proc_time_us_count", lit "simple_ntpd_request_proc_time_us_sum",
    lit "simple_ntpd_request_proc_time_us_avg", lit "simple_ntpd_request_proc_time_us_max",
    lit "simple_ntpd_request_proc_time_us_min", lit "simple_ntpd_uptime_seconds"] ++
  [lit "simple_ntpd_upstream_synced", lit "simple_ntpd_clock_offset_us"] ++
  [lit "simple_ntpd_process_max_rss_bytes", lit "simple_ntpd_process_user_cpu_seconds",
    lit "simple_ntpd_process_system_cpu_seconds"]

/-- No two samples have one name. -/
theorem sample_names_nodup (s : NtpServer) (env : MetricsEnv) :
    ((samples (s.metricFamilies env)).map Prod.fst).Nodup := by
  have hall : sampleNames.Nodup := by decide
  refine hall.sublist ?_
  rw [samples, NtpServer.metricFamilies, List.flatMap_append, List.flatMap_append, List.map_append,
    List.map_append]
  refine .append (.append ?_ ?_) ?_
  · simp only [NtpServerStats.metricFamilies, single, family, List.flatMap_cons, List.flatMap_nil,
      List.map_cons, List.map_nil, List.cons_append, List.nil_append]
    exact .refl _
  · cases s.upstreamSync with
    | none => exact List.nil_sublist _
    | some sync =>
      simp only [Option.elim, UpstreamSyncManager.metricFamilies, single, family, List.flatMap_cons,
        List.flatMap_nil, List.map_cons, List.map_nil, List.cons_append, List.nil_append]
      exact .refl _
  · cases env.usage with
    | none => exact List.nil_sublist _
    | some usage =>
      simp only [Option.elim, ProcessUsage.metricFamilies, single, family, List.flatMap_cons,
        List.flatMap_nil, List.map_cons, List.map_nil, List.cons_append, List.nil_append]
      exact .refl _

/-- The counts of the statistics, under the names of their samples. -/
def counts (st : NtpServerStats) : List (Str × Nat) :=
  [(lit "simple_ntpd_requests_total", st.totalRequests),
    (lit "simple_ntpd_errors_total", st.totalErrors),
    (lit "simple_ntpd_bytes_total", st.totalBytesTransferred),
    (lit "simple_ntpd_request_proc_time_us_count", st.processedRequestCount),
    (lit "simple_ntpd_request_proc_time_us_sum", st.totalRequestProcessingTimeUs)]

/-- A scraper reads the counts. -/
theorem value_of_counts (s : NtpServer) (env : MetricsEnv) {name : Str} {n : Nat}
    (h : (name, n) ∈ counts s.stats) : value (s.metricFamilies env) name = some (toDecimal n) := by
  refine value_of_mem (sample_names_nodup s env) ?_
  rw [samples, NtpServer.metricFamilies, List.flatMap_append, List.flatMap_append]
  refine List.mem_append_left _ (List.mem_append_left _ ?_)
  simp only [counts, List.mem_cons, Prod.mk.injEq, List.not_mem_nil, or_false] at h
  simp only [NtpServerStats.metricFamilies, single, family, List.flatMap_cons, List.map_cons,
    List.map_nil, List.mem_append, List.mem_cons, Prod.mk.injEq]
  rcases h with ⟨rfl, rfl⟩ | ⟨rfl, rfl⟩ | ⟨rfl, rfl⟩ | ⟨rfl, rfl⟩ | ⟨rfl, rfl⟩ <;> simp

/-- **What a scraper sees of a life.** In every life whose datagrams are processed one after
the other, a scraper that takes the text of the metrics twice reads the families the
server means from both, with no name twice, and finds each count in both: those of the
statistics, and the later one is not smaller. -/
theorem scrapes_count_up (evp : Evp) (d d' : Daemon) (events : List Daemon.Step)
    (hrun : d.run evp events = .ok d') (env env' : MetricsEnv) :
    parse (d.server.exportPrometheusMetrics env) = some (d.server.metricFamilies env) ∧
      parse (d'.server.exportPrometheusMetrics env') = some (d'.server.metricFamilies env') ∧
      ((samples (d.server.metricFamilies env)).map Prod.fst).Nodup ∧
      ((samples (d'.server.metricFamilies env')).map Prod.fst).Nodup ∧
      List.Forall₂ (fun c c' => c.1 = c'.1 ∧ c.2 ≤ c'.2 ∧
          value (d.server.metricFamilies env) c.1 = some (toDecimal c.2) ∧
          value (d'.server.metricFamilies env') c'.1 = some (toDecimal c'.2))
        (counts d.server.stats) (counts d'.server.stats) := by
  have htotals := Daemon.totalsLe_run hrun
  have hcounts : List.Forall₂ (fun c c' => c.1 = c'.1 ∧ c.2 ≤ c'.2)
      (counts d.server.stats) (counts d'.server.stats) :=
    .cons ⟨rfl, htotals.requests⟩ (.cons ⟨rfl, htotals.errors⟩ (.cons ⟨rfl, htotals.bytes⟩
      (.cons ⟨rfl, htotals.processed⟩ (.cons ⟨rfl, htotals.times⟩ .nil))))
  refine ⟨parse_export _ _, parse_export _ _, sample_names_nodup _ _, sample_names_nodup _ _, ?_⟩
  obtain ⟨hlength, hzip⟩ := List.forall₂_iff_zip.mp hcounts
  refine List.forall₂_iff_zip.mpr ⟨hlength, fun {c c'} hmem => ?_⟩
  obtain ⟨hname, hle⟩ := hzip hmem
  obtain ⟨hc, hc'⟩ := List.of_mem_zip hmem
  exact ⟨hname, hle, value_of_counts _ _ hc, value_of_counts _ _ hc'⟩

/-- A scrape before a life in which two of three datagrams are answered, and one after. -/
theorem scrapes_count_up_example :
    ∃ d', (Daemon.create .defaults (startupLogger .defaults)).run (fun _ _ => none)
        exampleLife = .ok d' ∧ d'.server.stats.totalRequests = 2 ∧
      parse (d'.server.exportPrometheusMetrics ⟨60, fun _ _ => 0, none⟩)
        = some (d'.server.metricFamilies ⟨60, fun _ _ => 0, none⟩) ∧
      value (d'.server.metricFamilies ⟨60, fun _ _ => 0, none⟩)
        (lit "simple_ntpd_requests_total") = some (lit "2") := by
  have hrequests : (((Daemon.create .defaults (startupLogger .defaults)).run (fun _ _ => none)
      exampleLife).map (fun d => d.server.stats.totalRequests)).toOption = some 2 := by
    decide
  obtain ⟨d', hrun, htwo⟩ := Runs.exists_of_toOption_map hrequests
  obtain ⟨-, hparse, -, -, hcounts⟩ := scrapes_count_up (fun _ _ => none) _ d' exampleLife hrun
    ⟨0, fun _ _ => 0, none⟩ ⟨60, fun _ _ => 0, none⟩
  refine ⟨d', hrun, htwo, hparse, ?_⟩
  cases hcounts with
  | cons hfirst hrest =>
    rw [hfirst.2.2.2, htwo]
    rfl

end SimpleNtpd
