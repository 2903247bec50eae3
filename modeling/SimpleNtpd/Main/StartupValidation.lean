import SimpleNtpd.Core.Daemon
import SimpleNtpd.Main.CommandLine

/-!
# Validation at start-up

The documentation says that the daemon validates configuration files on startup.
A reload does; `main` and `start` do not, so what the command line, the files and
the environment have made of the configuration is put in force as it is. Raising
the stratum keeps a valid configuration valid, and so do reloads. What is left is
the configuration the server is started with: it has to be valid, or be one of
those `start` refuses for reasons of its own.
-/

namespace SimpleNtpd

open Cpp

/-! ## The validator and the stratum -/

/-- Raising the stratum from below fifteen keeps a configuration valid. -/
theorem NtpConfig.validate_raise {c : NtpConfig} (h : c.validate = true) (hlt : c.stratum < 15) :
    { c with stratum := c.stratum + 1 : NtpConfig }.validate = true := by
  rw [validate_iff] at h ⊢
  intro r hr
  -- the second condition is the only one that reads the stratum
  have hset : { c with stratum := c.stratum + 1 : NtpConfig }.rejections
      = c.rejections.set 1 (c.stratum + 1 > 15, "stratum must be in range 0-15") := rfl
  rw [hset] at hr
  rcases List.mem_or_eq_of_mem_set hr with hold | rfl
  · exact h r hold
  · show decide (c.stratum + 1 > 15) = false
    refine decide_eq_false (UInt8.not_lt.mpr ?_)
    rw [UInt8.le_iff_toNat_le, UInt8.toNat_add]
    have hnat : c.stratum.toNat < 15 := UInt8.lt_iff_toNat_lt.mp hlt
    show (c.stratum.toNat + 1) % 256 ≤ 15
    omega

/-! ## Lives -/

/-- `start` refuses the configuration, whatever the operating system does: a file
the secure controls need is not named, or the listen address is not one. -/
def refusesToStart (c : NtpConfig) : Bool :=
  secureFilesMissing c || (inetPton c.listenAddress).isNone

namespace Daemon

/-- The configuration in force is valid, or the server is stopped and will not
start with it. -/
def Checked (d : Daemon) : Prop :=
  d.currentConfig.validate = true ∨
    d.running = false ∧
      (secureFilesMissing d.currentConfig = true ∨ (inetPton d.serverAddress).isNone = true)

variable {evp : Evp} {d d' : Daemon}

/-- The secure controls do not look at the stratum, the listen address is the
constructor's. -/
theorem Checked.serve {e : Event} (h : d.Checked) (hstep : d.step evp (.serve e) = .ok d') :
    d'.Checked := by
  obtain ⟨s, out, hserve, rfl⟩ := step_serve hstep
  rcases stepWith_currentConfig hserve with hsame | ⟨hlt, hraise⟩ | ⟨getenv, file, -, rfl⟩
  · unfold Checked currentConfig
    dsimp only
    rw [hsame]
    exact h
  · unfold Checked currentConfig
    dsimp only
    rw [hraise]
    rcases h with hvalid | hrefused
    · exact .inl (NtpConfig.validate_raise hvalid hlt)
    · exact .inr hrefused
  · rcases reloadConfig_cases d.server getenv file with hstay | ⟨content, -, -, hvalid, hreload⟩
    · rw [hstay]
      exact h
    · rw [hreload]
      left
      show (putInForce d.server _).currentConfig.validate = true
      rw [putInForce_currentConfig]
      exact hvalid

/-- One event keeps the configuration checked. -/
theorem Checked.step {e : Step} (h : d.Checked) (hstep : d.step evp e = .ok d') : d'.Checked := by
  cases e with
  | start env =>
    cases hstep
    rcases d.start_cases env with hstay | ⟨hstopped, hfiles, haddress, hstart⟩
    · rw [hstay]
      exact h
    · rw [hstart]
      -- a server that has been started was not one of those refused
      rcases h with hvalid | ⟨-, hmissing | hnone⟩
      · left
        show (startUpstreams d.server).currentConfig.validate = true
        rw [startUpstreams_currentConfig]
        exact hvalid
      · rw [hfiles] at hmissing
        cases hmissing
      · rw [Option.isNone_iff_eq_none] at hnone
        rw [hnone] at haddress
        cases haddress
  | serve e => exact h.serve hstep
  | stop =>
    cases hstep
    unfold Checked
    rw [stop_currentConfig]
    unfold Daemon.stop
    split
    · exact h
    · rcases h with hvalid | ⟨-, hrefused⟩
      · exact .inl hvalid
      · exact .inr ⟨rfl, hrefused⟩

/-- Every server that runs in a life of this configuration has a valid one in
force. -/
def RunsValidated (evp : Evp) (c : NtpConfig) : Prop :=
  ∀ events d, (create c (startupLogger c)).run evp events = .ok d → d.running = true →
    d.currentConfig.validate = true

/-- All that runs is valid exactly when the configuration is or `start` refuses it;
otherwise the server runs it as soon as it is started. -/
theorem runsValidated_iff {c : NtpConfig} :
    RunsValidated evp c ↔ c.validate = true ∨ refusesToStart c = true := by
  constructor
  · intro h
    cases hrefuses : refusesToStart c with
    | true => exact .inr rfl
    | false =>
      left
      obtain ⟨hfiles, haddress⟩ := Bool.or_eq_false_iff.mp hrefuses
      -- then the operating system can let it start
      have hbind : (create c (startupLogger c)).bindSocket ⟨true, true⟩ = true := by
        show ((inetPton c.listenAddress).isSome && true) = true
        rw [Bool.and_true, ← Bool.not_eq_false', Option.not_isSome]
        exact haddress
      have hstart : (create c (startupLogger c)).start ⟨true, true⟩
          = (true, { create c (startupLogger c) with
              running := true, server := startUpstreams (create c (startupLogger c)).server }) := by
        unfold start
        rw [hbind]
        show (if secureFilesMissing c = true then _ else _) = _
        rw [hfiles]
        rfl
      have hvalid : ((create c (startupLogger c)).start ⟨true, true⟩).2.currentConfig.validate
          = true := h [.start ⟨true, true⟩] _ rfl (by rw [hstart])
      rw [hstart] at hvalid
      change (startUpstreams _).currentConfig.validate = true at hvalid
      rwa [startUpstreams_currentConfig] at hvalid
  · intro h events d hrun hrunning
    have hinit : (create c (startupLogger c)).Checked := by
      rcases h with hvalid | hrefuses
      · exact .inl hvalid
      · exact .inr ⟨rfl, Bool.or_eq_true _ _ ▸ hrefuses⟩
    have hend : d.Checked :=
      Runs.foldlM_invariant (fun _ _ _ _ ht hstep => ht.step hstep) hinit hrun
    rcases hend with hvalid | ⟨hstopped, -⟩
    · exact hvalid
    · rw [hrunning] at hstopped
      cases hstopped

end Daemon

/-- **When running servers run validated configurations.** For every command
line, every content of the files and every environment: in every reachable state
of the server, with any starts, stops, reloads, datagrams and sync rounds in any
order, a running server has a valid configuration in force, exactly when the
configuration the command line leads to is valid or `start` refuses it. -/
theorem running_validated_iff (evp : Evp) (files getenv : Str → Option Str) (argv : List Str) :
    (∀ c command, parseCommandLine files getenv argv = .accepted c command →
      Daemon.RunsValidated evp c) ↔
    ∀ c command, parseCommandLine files getenv argv = .accepted c command →
      c.validate = true ∨ refusesToStart c = true :=
  forall_congr' fun _ => forall_congr' fun _ => imp_congr_right fun _ => Daemon.runsValidated_iff

/-- The server starts with port 0: the number on the command line wraps. -/
theorem wrapped_port_runs :
    ¬ ∀ evp files getenv argv c command,
      parseCommandLine files getenv argv = .accepted c command → Daemon.RunsValidated evp c := by
  intro h
  have hcheck : (parseCommandLine (fun _ => none) (fun _ => none)
      [lit "start", lit "--port", lit "65536"]).started.all
        (fun c => c.validate || refusesToStart c) = false := by
    decide +kernel
  cases hparsed : parseCommandLine (fun _ => none) (fun _ => none)
      [lit "start", lit "--port", lit "65536"] with
  | refused output =>
    rw [hparsed] at hcheck
    cases hcheck
  | accepted c command =>
    rw [hparsed] at hcheck
    obtain ⟨hvalid, hrefuses⟩ := Bool.or_eq_false_iff.mp hcheck
    rcases Daemon.runsValidated_iff.mp
      (h (fun _ _ => none) (fun _ => none) (fun _ => none) _ c command hparsed) with hyes | hyes
    · rw [hvalid] at hyes
      cases hyes
    · rw [hrefuses] at hyes
      cases hyes

end SimpleNtpd
