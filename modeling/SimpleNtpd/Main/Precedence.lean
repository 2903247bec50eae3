import SimpleNtpd.Main.CommandLine

/-!
# Precedence of the sources

The documentation promises that an option of the command line takes precedence
over the environment, the environment over the file, and the file over the
defaults, wherever the options stand. The scan carries out assignments as it
meets them: `--config` stores what the file and the environment say over the
options in front of it, and the environment is read by `--config` only.

`Precedence` is the promise. `InOrder` is the condition under which the scan
keeps it, field by field: what the files behind an option load must not change
what the option has stored, and without a file the environment must not say
anything but the defaults. `precedence_iff_in_order` shows that it is exact.
-/

namespace SimpleNtpd

open Cpp Assignments

/-! ## The promise -/

/-- The value of the last option for a field. -/
def optionValue (f : Field) (args : List Arg) : Option f.Value :=
  last f (args.flatMap Arg.optionAssignments)

/-- The value of the variable for a field, where it is set and converts. -/
def environmentValue (getenv : Str → Option Str) (f : Field) : Option f.Value :=
  last f (environmentAssignments getenv)

/-- The last value for a field in the files. -/
def fileValue (files : Str → Option Str) (f : Field) (args : List Arg) : Option f.Value :=
  last f (args.flatMap (Arg.fileAssignments files))

/-- Every field holds the value of its option, else of its variable, else of the
file, else the default. -/
def Precedence (files getenv : Str → Option Str) (args : List Arg) (c : NtpConfig) : Prop :=
  ∀ f, c.field f = ((optionValue f args).or ((environmentValue getenv f).or
    (fileValue files f args))).getD (NtpConfig.defaults.field f)

/-- The configuration the server is started with keeps the promise. -/
def KeepsPrecedence (files getenv : Str → Option Str) (argv : List Str) : Prop :=
  ∀ c command, parseCommandLine files getenv argv = .accepted c command →
    Precedence files getenv (readArgs argv) c

/-! ## The condition -/

/-- The arguments behind the last option for a field. -/
def behindOption (f : Field) (args : List Arg) : List Arg :=
  args.rtakeWhile fun a => (last f a.optionAssignments).isNone

/-- A configuration file is named. -/
def HasConfig (args : List Arg) : Prop := ∃ a ∈ args, a.configPath.isSome = true

/-- For every field: what is loaded behind its last option gives it no other
value than the option; without an option, a file is named or the environment
gives it no other value than the default. -/
def InOrder (files getenv : Str → Option Str) (args : List Arg) : Prop :=
  ∀ f, match optionValue f args with
    | some v =>
      ∀ w, last f ((behindOption f args).flatMap (Arg.loadAssignments files getenv)) = some w → w = v
    | none => HasConfig args ∨
      ∀ w, environmentValue getenv f = some w → w = NtpConfig.defaults.field f

/-! ## What the scan leaves in a field -/

section

variable {files getenv : Str → Option Str}

/-- An argument with a file has no option. -/
theorem Arg.optionAssignments_of_configPath {a : Arg} {path : Str} (h : a.configPath = some path) :
    a.optionAssignments = [] := by
  cases a with
  | config => rfl
  | _ => cases h

theorem Arg.loadAssignments_of_none {a : Arg} (h : a.configPath = none) :
    a.loadAssignments files getenv = [] := by
  rw [loadAssignments, h]

/-- One argument assigns a field by its option or by what it loads. -/
theorem Arg.last_assignments (f : Field) (a : Arg) :
    last f (a.assignments files getenv)
      = (last f (a.loadAssignments files getenv)).or (last f a.optionAssignments) :=
  last_append f _ _

/-- **What the scan assigns a field**: what is loaded behind its last option, or
the option. Induction from the last argument back to the option. -/
theorem last_assignments (f : Field) (args : List Arg) :
    last f (args.flatMap (Arg.assignments files getenv))
      = (last f ((behindOption f args).flatMap (Arg.loadAssignments files getenv))).or
        (optionValue f args) := by
  induction args using List.reverseRecOn with
  | nil => rfl
  | append_singleton args a ih =>
    have hoption : optionValue f (args ++ [a])
        = (last f a.optionAssignments).or (optionValue f args) := by
      rw [optionValue, List.flatMap_append, List.flatMap_singleton, last_append]
      rfl
    rw [List.flatMap_append, List.flatMap_singleton, last_append, ih, Arg.last_assignments, hoption]
    cases hv : last f a.optionAssignments with
    | none =>
      -- the option is in front of `a`
      have hbehind : behindOption f (args ++ [a]) = behindOption f args ++ [a] :=
        List.rtakeWhile_concat_pos _ _ _ (by rw [hv]; rfl)
      rw [hbehind, List.flatMap_append, List.flatMap_singleton, last_append, Option.or_none,
        Option.none_or, Option.or_assoc]
    | some v =>
      -- `a` is the option, so it loads nothing
      have hbehind : behindOption f (args ++ [a]) = [] :=
        List.rtakeWhile_concat_neg _ _ _ (by rw [hv]; exact Bool.false_ne_true)
      have hload : a.loadAssignments files getenv = [] := by
        refine Arg.loadAssignments_of_none (Option.eq_none_iff_forall_ne_some.mpr fun path hp => ?_)
        rw [Arg.optionAssignments_of_configPath hp] at hv
        cases hv
      rw [hbehind, hload]
      rfl

variable (files getenv) in
/-- Without a file nothing is loaded and no file says anything. -/
theorem fileValue_of_not_hasConfig (f : Field) {args : List Arg} (h : ¬HasConfig args) :
    last f (args.flatMap (Arg.loadAssignments files getenv)) = none ∧
      fileValue files f args = none := by
  have hnone : ∀ b ∈ args, b.configPath = none := fun b hb => by
    by_contra hne
    exact h ⟨b, hb, Option.isSome_iff_ne_none.mpr hne⟩
  constructor
  · rw [List.flatMap_eq_nil_iff.mpr fun b hb => Arg.loadAssignments_of_none (hnone b hb), last_nil]
  · rw [fileValue,
      List.flatMap_eq_nil_iff.mpr fun b hb => by rw [Arg.fileAssignments, hnone b hb], last_nil]

/-- What the files load is what the environment says, else what the files say,
where there is a file. -/
theorem last_loadAssignments (f : Field) {args : List Arg} (h : HasConfig args) :
    last f (args.flatMap (Arg.loadAssignments files getenv))
      = (environmentValue getenv f).or (fileValue files f args) := by
  induction args using List.reverseRecOn with
  | nil =>
    obtain ⟨a, ha, -⟩ := h
    cases ha
  | append_singleton args a ih =>
    have hfile : fileValue files f (args ++ [a])
        = (last f (a.fileAssignments files)).or (fileValue files f args) := by
      rw [fileValue, List.flatMap_append, List.flatMap_singleton, last_append]
      rfl
    rw [List.flatMap_append, List.flatMap_singleton, last_append, hfile]
    cases hpath : a.configPath with
    | none =>
      have hmore : HasConfig args := by
        obtain ⟨b, hb, hsome⟩ := h
        rcases List.mem_append.mp hb with hb | hb
        · exact ⟨b, hb, hsome⟩
        · rw [List.mem_singleton.mp hb, hpath] at hsome
          cases hsome
      have hnil : a.fileAssignments files = [] := by rw [Arg.fileAssignments, hpath]
      rw [Arg.loadAssignments_of_none hpath, hnil, ih hmore]
      rfl
    | some path =>
      have hload : a.loadAssignments files getenv
          = a.fileAssignments files ++ environmentAssignments getenv := by
        rw [Arg.loadAssignments, hpath]
      rw [hload, last_append]
      show ((environmentValue getenv f).or _).or _ = _
      by_cases hmore : HasConfig args
      · -- an earlier file has loaded the environment too, to no further effect
        rw [ih hmore]
        cases environmentValue getenv f <;> rfl
      · obtain ⟨hloads, hfiles⟩ := fileValue_of_not_hasConfig files getenv f hmore
        rw [hloads, hfiles, Option.or_none, Option.or_none]

/-- Without an option for a field everything is behind it. -/
theorem behindOption_of_none {f : Field} {args : List Arg} (h : optionValue f args = none) :
    behindOption f args = args := by
  rw [behindOption, List.rtakeWhile_eq_self_iff]
  intro a ha
  rw [Option.isNone_iff_eq_none, last_eq_none_iff]
  exact fun b hb => last_eq_none_iff.mp h b (List.mem_flatMap_of_mem ha hb)

/-- The scan keeps the promise for what it leaves exactly when the arguments are
in order. -/
theorem precedence_iff {args : List Arg} {c : NtpConfig}
    (h : c = configFields.storeAll .defaults (args.flatMap (Arg.assignments files getenv))) :
    Precedence files getenv args c ↔ InOrder files getenv args := by
  refine forall_congr' fun f => ?_
  have hfield : c.field f = (last f (args.flatMap (Arg.assignments files getenv))).getD
      (NtpConfig.defaults.field f) := by
    rw [h]
    exact configFields.get_storeAll .defaults _ f
  rw [hfield, last_assignments]
  cases hoption : optionValue f args with
  | some v =>
    dsimp only
    rw [Option.some_or, Option.getD_some]
    -- what a file behind the option loads comes after it
    cases last f ((behindOption f args).flatMap (Arg.loadAssignments files getenv)) with
    | none => exact iff_of_true rfl fun w hw => by cases hw
    | some w =>
      rw [Option.some_or, Option.getD_some]
      exact ⟨fun heq w' hw' => by rw [← Option.some.inj hw', heq], fun hall => hall w rfl⟩
  | none =>
    -- without an option the environment counts only where a file is loaded
    dsimp only
    rw [behindOption_of_none hoption, Option.or_none, Option.none_or]
    by_cases hconfig : HasConfig args
    · rw [last_loadAssignments f hconfig]
      exact iff_of_true rfl (.inl hconfig)
    · obtain ⟨hload, hfile⟩ := fileValue_of_not_hasConfig files getenv f hconfig
      rw [hload, hfile, Option.or_none, or_iff_right hconfig]
      cases environmentValue getenv f with
      | none => exact iff_of_true rfl fun w hw => by cases hw
      | some w =>
        rw [Option.getD_none, Option.getD_some]
        exact ⟨fun heq w' hw' => by rw [← Option.some.inj hw', heq], fun hall => (hall w rfl).symm⟩

/-- With one file, in front of everything else, the arguments are in order. -/
theorem inOrder_config_cons {path : Str} {args : List Arg} (h : ∀ a ∈ args, a.configPath = none) :
    InOrder files getenv (.config path :: args) := by
  intro f
  cases hoption : optionValue f (.config path :: args) with
  | none => exact .inl ⟨.config path, List.mem_cons_self, rfl⟩
  | some v =>
    have hnone : last f ((behindOption f (.config path :: args)).flatMap
        (Arg.loadAssignments files getenv)) = none := by
      have hload : (behindOption f (.config path :: args)).flatMap
          (Arg.loadAssignments files getenv) = [] := by
        rw [List.flatMap_eq_nil_iff]
        intro b hb
        rcases List.suffix_cons_iff.mp (List.rtakeWhile_suffix _ _) with hall | hsuffix
        · -- the file is not behind the option
          have hno : optionValue f (.config path :: args) = none := by
            rw [optionValue, last_eq_none_iff]
            intro a ha
            obtain ⟨d, hd, had⟩ := List.mem_flatMap.mp ha
            rw [← hall] at hd
            have hisNone := List.mem_rtakeWhile_imp hd
            exact last_eq_none_iff.mp (Option.isNone_iff_eq_none.mp hisNone) a had
          rw [hno] at hoption
          cases hoption
        · exact Arg.loadAssignments_of_none (h b (hsuffix.subset hb))
      rw [hload, last_nil]
    rw [hnone]
    exact fun w hw => by cases hw

/-! ## The order of the arguments -/

/-- No field has two options, and there is at most one file. -/
def DistinctTargets (args : List Arg) : Prop :=
  ((args.flatMap Arg.optionAssignments).map (·.1)).Nodup ∧ (args.filterMap Arg.configPath).length ≤ 1

/-- What a file assigns depends on the path only. -/
theorem flatMap_fileAssignments (args : List Arg) :
    args.flatMap (Arg.fileAssignments files)
      = (args.filterMap Arg.configPath).flatMap fun path => (Arg.config path).fileAssignments files := by
  induction args with
  | nil => rfl
  | cons a args ih =>
    rw [List.flatMap_cons, ih]
    cases hpath : a.configPath with
    | none =>
      rw [List.filterMap_cons_none hpath, Arg.fileAssignments, hpath]
      rfl
    | some path =>
      rw [List.filterMap_cons_some hpath, List.flatMap_cons, Arg.fileAssignments, hpath]
      rfl

/-- What is promised does not depend on the order of arguments with distinct
targets. -/
theorem Precedence.unique_of_perm {args args' : List Arg} {c c' : NtpConfig}
    (hperm : args.Perm args') (hdistinct : DistinctTargets args)
    (h : Precedence files getenv args c) (h' : Precedence files getenv args' c') : c = c' := by
  refine configFields.get_injective (funext fun f => ?_)
  have hoption : optionValue f args = optionValue f args' :=
    last_perm (hperm.flatMap_right _) hdistinct.1 f
  have hpaths : args.filterMap Arg.configPath = args'.filterMap Arg.configPath := by
    have hp := hperm.filterMap Arg.configPath
    have hle := hdistinct.2
    generalize args.filterMap Arg.configPath = paths at hp hle
    cases paths with
    | nil => exact (List.nil_perm.mp hp).symm
    | cons path paths =>
      have hnil : paths = [] := List.length_eq_zero_iff.mp (Nat.le_zero.mp (Nat.le_of_succ_le_succ hle))
      subst hnil
      exact (List.singleton_perm.mp hp)
  have hfile : fileValue files f args = fileValue files f args' := by
    rw [fileValue, fileValue, flatMap_fileAssignments, flatMap_fileAssignments, hpaths]
  show c.field f = c'.field f
  rw [h f, h' f, hoption, hfile]

/-- The promise is kept for a vector exactly when its arguments are in order. -/
theorem keepsPrecedence_iff {argv : List Str} :
    KeepsPrecedence files getenv argv ↔
      ∀ c command, parseCommandLine files getenv argv = .accepted c command →
        InOrder files getenv (readArgs argv) := by
  refine forall_congr' fun c => forall_congr' fun command => imp_congr_right fun h => ?_
  obtain ⟨s, hscan, -, rfl, -⟩ := parseArgs_eq_accepted_iff.mp h
  exact precedence_iff (scan_config hscan)

end

/-- **Precedence does not depend on the order of the arguments, where they are in
order.** A vector keeps the promise exactly when its arguments are in order, and
two such vectors with the same arguments, no two of them with the same target,
start the server with the same configuration. -/
theorem precedence_iff_in_order (files getenv : Str → Option Str) (argv : List Str) :
    (KeepsPrecedence files getenv argv ↔
      ∀ c command, parseCommandLine files getenv argv = .accepted c command →
        InOrder files getenv (readArgs argv)) ∧
    ∀ argv' c c' command command',
      (readArgs argv).Perm (readArgs argv') → DistinctTargets (readArgs argv) →
      parseCommandLine files getenv argv = .accepted c command →
      parseCommandLine files getenv argv' = .accepted c' command' →
      InOrder files getenv (readArgs argv) → InOrder files getenv (readArgs argv') → c = c' := by
  refine ⟨keepsPrecedence_iff, ?_⟩
  intro argv' c c' command command' hperm hdistinct h h' horder horder'
  exact Precedence.unique_of_perm hperm hdistinct
    (keepsPrecedence_iff.mpr (fun _ _ _ => horder) c command h)
    (keepsPrecedence_iff.mpr (fun _ _ _ => horder') c' command' h')

/-- A file that says something about the port. -/
def portFile (path : Str) : Option Str :=
  if path = lit "ntpd.conf" then some (lit "listen_port=4123\n") else none

/-- The port of the configuration the server is started with. -/
def startPort : Parsed → Option UInt16
  | .refused _ => none
  | .accepted c _ => some c.listenPort

/-- The file first, then two options. -/
def fileThenOptions : List Str :=
  [lit "--config", lit "ntpd.conf", lit "--port", lit "1123", lit "--verbose"]

/-- The file first, then the two options exchanged. -/
def fileThenOptionsExchanged : List Str :=
  [lit "--config", lit "ntpd.conf", lit "--verbose", lit "--port", lit "1123"]

/-- In either order the options start the server with the same configuration, with the port
of the option. -/
theorem precedence_iff_in_order_exchanged :
    ∃ c, parseCommandLine portFile (fun _ => none) fileThenOptions = .accepted c (lit "start") ∧
      parseCommandLine portFile (fun _ => none) fileThenOptionsExchanged
        = .accepted c (lit "start") := by
  have haccepted : ∀ argv ∈ [fileThenOptions, fileThenOptionsExchanged], ∃ c,
      parseCommandLine portFile (fun _ => none) argv = .accepted c (lit "start") := by
    intro argv hargv
    rcases List.mem_pair.mp hargv with rfl | rfl
    · exact ⟨_, rfl⟩
    · exact ⟨_, rfl⟩
  obtain ⟨c, hc⟩ := haccepted fileThenOptions (by simp)
  obtain ⟨c', hc'⟩ := haccepted fileThenOptionsExchanged (by simp)
  have horder : InOrder portFile (fun _ => none) (readArgs fileThenOptions) := by
    show InOrder _ _ (.config (lit "ntpd.conf") :: [.port (lit "1123"), .verbose])
    exact inOrder_config_cons (by decide)
  have horder' : InOrder portFile (fun _ => none) (readArgs fileThenOptionsExchanged) := by
    show InOrder _ _ (.config (lit "ntpd.conf") :: [.verbose, .port (lit "1123")])
    exact inOrder_config_cons (by decide)
  have heq := (precedence_iff_in_order portFile (fun _ => none) fileThenOptions).2
    fileThenOptionsExchanged c c' _ _ (by decide) ⟨by decide, by decide⟩ hc hc' horder horder'
  subst heq
  exact ⟨c, hc, hc'⟩

/-- The file's port wins over the option in front of it. -/
theorem option_in_front_of_file_lost :
    ¬ ∀ files getenv argv, KeepsPrecedence files getenv argv := by
  intro h
  have hport : startPort (parseCommandLine portFile (fun _ => none)
      [lit "--port", lit "1123", lit "--config", lit "ntpd.conf"]) = some 4123 := by
    decide +kernel
  have hoption : optionValue .listenPort
      (readArgs [lit "--port", lit "1123", lit "--config", lit "ntpd.conf"])
        = some (1123 : UInt16) := by
    rfl
  cases hparsed : parseCommandLine portFile (fun _ => none)
      [lit "--port", lit "1123", lit "--config", lit "ntpd.conf"] with
  | refused output =>
    rw [hparsed] at hport
    cases hport
  | accepted c command =>
    rw [hparsed] at hport
    have hfield : c.listenPort = 1123 := by
      have hkeeps := h _ _ _ c command hparsed .listenPort
      rw [hoption] at hkeeps
      exact hkeeps
    rw [startPort, hfield] at hport
    revert hport
    decide

end SimpleNtpd
