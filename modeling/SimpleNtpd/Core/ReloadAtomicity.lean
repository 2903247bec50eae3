import SimpleNtpd.Core.UpstreamFollow
import SimpleNtpd.Lib.Steps

/-!
# A reload is all or nothing

`NtpServer::reloadConfig` copies the configuration into a new object, lets the loader
store in it field by field, validates it, and only then sets the logger, the pointer
`config_` and calls back. Here each of these is a step (`Steps`): a line of the file,
an environment variable, a field of the logger. So a state between any two of them is
a state of the model, and the objects are told apart by their references.

The steps up to the verdict touch configuration objects only, whatever other threads
do in between (`validatedCopy_keeps`). Alone they fill one new object
(`validatedCopy_alone`), which `config_` does not point to since references are given
out once (`Daemon.Allocated`). What follows the verdict is `Daemon.putInForce`.
-/

namespace SimpleNtpd

open Cpp

/-! ## The program -/

/-- What a reload reads and writes. -/
structure ReloadState where
  server : NtpServer
  /-- how often `config_change_callback_` has been called -/
  callbacks : Nat := 0

/-- The state with an object replaced. -/
def ReloadState.setObject (w : ReloadState) (ref : ConfigRef) (c : NtpConfig) : ReloadState :=
  { w with server := { w.server with configs := Function.update w.server.configs ref c } }

@[simp] theorem ReloadState.object_setObject (w : ReloadState) (ref : ConfigRef) (c : NtpConfig) :
    (w.setObject ref c).server.configs ref = c := Function.update_self _ _ _

@[simp] theorem ReloadState.setObject_setObject (w : ReloadState) (ref : ConfigRef)
    (c c' : NtpConfig) : (w.setObject ref c).setObject ref c' = w.setObject ref c' := by
  unfold setObject
  dsimp only
  rw [Function.update_idem]

/-- The program of a reload; no step is told apart by a label. -/
abbrev ReloadWork := Steps ReloadState Empty

namespace ReloadWork

variable {α β : Type}

/-- A step on the server. -/
def onServer (f : NtpServer → α × NtpServer) : ReloadWork α :=
  .atomic (fun _ => none) fun w => ((f w.server).1, { w with server := (f w.server).2 })

/-- A step on a configuration object. -/
def onObject (ref : ConfigRef) (f : NtpConfig → NtpConfig) : ReloadWork Unit :=
  onServer fun s => ((), { s with configs := Function.update s.configs ref (f (s.configs ref)) })

/-- A setter of the logger, called with a configuration object (server.cpp:148–162). -/
def onLogger (ref : ConfigRef) (f : NtpConfig → LoggerSettings → LoggerSettings) :
    ReloadWork Unit :=
  onServer fun s => ((), { s with logger := f (s.configs ref) s.logger })

/-- `std::make_shared<NtpConfig>(*config_)`. -/
def copyConfig : ReloadWork ConfigRef :=
  onServer fun s => (s.nextConfig, { s with
    configs := Function.update s.configs s.nextConfig s.currentConfig
    nextConfig := s.nextConfig + 1 })

/-- `loadFromFile` on an object, line by line and variable by variable
(config.cpp:92–99). -/
def loadFromFile (getenv : Str → Option Str) (configFile : Str) (file : Option Str)
    (ref : ConfigRef) : ReloadWork Bool := do
  match file with
  | none => return false
  | some content =>
    Steps.each (fun line => onObject ref (·.readLine line)) (getlines '\n'.toUInt8 content)
    onObject ref fun c => { c with lastConfigFile := configFile }
    Steps.each (fun entry => onObject ref (((getenv entry.1).map entry.2).getD id))
      environmentSettings
    return true

/-- The new object, when it has been loaded and is valid (server.cpp:130–144). -/
def validatedCopy (getenv : Str → Option Str) (file : Option Str) :
    ReloadWork (Option ConfigRef) := do
  let cfgPath ← onServer fun s => (s.currentConfig.lastConfigFile, s)
  if cfgPath.isEmpty then return none
  else
    let newConfig ← copyConfig
    if ← loadFromFile getenv cfgPath file newConfig then
      if ← onServer fun s => ((s.configs newConfig).validate, s) then return some newConfig
      else return none
    else return none

/-- What follows a successful validation (server.cpp:147–178); `callback` says whether
a callback is set. -/
def putInForce (callback : Bool) (newConfig : ConfigRef) : ReloadWork Unit := do
  onLogger newConfig fun c l => { l with level := c.logLevel }
  onLogger newConfig fun c l => { l with logFile := c.logFile }
  onLogger newConfig fun c l => { l with destination :=
    if c.enableConsoleLogging && !c.logFile.isEmpty then .both
    else if c.enableConsoleLogging then .console
    else .file }
  onLogger newConfig fun c l => { l with enableSyslog := c.enableSyslog }
  onLogger newConfig fun c l => { l with structuredJson := c.logJson }
  onLogger newConfig fun c l => { l with
    rotateMaxSizeBytes := c.logMaxSizeBytes, rotateMaxFiles := max 1 c.logMaxFiles }
  onServer fun s => ((), { s with config := newConfig })
  if callback then
    Steps.atomic (fun _ => none) fun w => ((), { w with callbacks := w.callbacks + 1 })

/-- server.cpp:129–179. -/
def reloadConfig (callback : Bool) (getenv : Str → Option Str) (file : Option Str) :
    ReloadWork Bool := do
  match ← validatedCopy getenv file with
  | none => return false
  | some newConfig =>
    putInForce callback newConfig
    return true

/-! ## Up to the verdict -/

/-- Nothing is changed but configuration objects. -/
def OnlyObjects (w w' : ReloadState) : Prop :=
  ∃ configs next, w' = { w with
    server := { w.server with configs := configs, nextConfig := next } }

theorem keeps_read (f : NtpServer → α) :
    (onServer fun s => (f s, s)).Keeps OnlyObjects :=
  Steps.keeps_atomic fun _ => ⟨_, _, rfl⟩

theorem keeps_onObject (ref : ConfigRef) (f : NtpConfig → NtpConfig) :
    (onObject ref f).Keeps OnlyObjects :=
  Steps.keeps_atomic fun _ => ⟨_, _, rfl⟩

theorem keeps_copyConfig : copyConfig.Keeps OnlyObjects :=
  Steps.keeps_atomic fun _ => ⟨_, _, rfl⟩

theorem keeps_loadFromFile (getenv : Str → Option Str) (configFile : Str) (file : Option Str)
    (ref : ConfigRef) : (loadFromFile getenv configFile file ref).Keeps OnlyObjects := by
  cases file with
  | none => exact Steps.keeps_pure false
  | some content =>
    refine .bind (.each (fun line => keeps_onObject ref _) _) fun _ => ?_
    refine .bind (keeps_onObject ref _) fun _ => ?_
    exact .bind (.each (fun entry => keeps_onObject ref _) _) fun _ => Steps.keeps_pure true

/-- **Before the verdict there is no side effect**: each step leaves all but the
configuration objects, whatever has happened before it. -/
theorem validatedCopy_keeps (getenv : Str → Option Str) (file : Option Str) :
    (validatedCopy getenv file).Keeps OnlyObjects := by
  refine .bind (keeps_read _) fun cfgPath => ?_
  split
  · exact Steps.keeps_pure none
  · refine .bind keeps_copyConfig fun newConfig => ?_
    refine .bind (keeps_loadFromFile getenv cfgPath file newConfig) fun loaded => ?_
    cases loaded with
    | false => exact Steps.keeps_pure none
    | true =>
      refine .bind (keeps_read _) fun valid => ?_
      cases valid with
      | false => exact Steps.keeps_pure none
      | true => exact Steps.keeps_pure _

/-! ## Alone -/

/-- A step on an object that has been set. -/
theorem onObject_alone (w : ReloadState) (ref : ConfigRef) (f : NtpConfig → NtpConfig)
    (c : NtpConfig) :
    (onObject ref f).alone (w.setObject ref c) = some ((), w.setObject ref (f c)) := by
  show some ((), (w.setObject ref c).setObject ref (f ((w.setObject ref c).server.configs ref))) = _
  rw [ReloadState.object_setObject, ReloadState.setObject_setObject]

/-- A loop of them. -/
theorem each_onObject_alone (w : ReloadState) (ref : ConfigRef) (f : β → NtpConfig → NtpConfig)
    (bs : List β) (c : NtpConfig) :
    (Steps.each (fun b => onObject ref (f b)) bs).alone (w.setObject ref c)
      = some ((), w.setObject ref (bs.foldl (fun c b => f b c) c)) := by
  rw [Steps.alone_each fun b w => rfl]
  induction bs generalizing c with
  | nil => rfl
  | cons b bs ih =>
    have hstep := Option.some.inj (onObject_alone w ref (f b) c)
    rw [List.foldl_cons, List.foldl_cons, ← ih]
    congr 4
    exact congrArg Prod.snd hstep

/-- Alone the loader fills the object as it fills a configuration. -/
theorem loadFromFile_alone (w : ReloadState) (getenv : Str → Option Str) (configFile : Str)
    (file : Option Str) (ref : ConfigRef) (c : NtpConfig) :
    (loadFromFile getenv configFile file ref).alone (w.setObject ref c)
      = some ((c.loadFromFile getenv configFile file).1,
          w.setObject ref (c.loadFromFile getenv configFile file).2) := by
  cases file with
  | none => rfl
  | some content =>
    show Steps.alone (_ >>= _) _ = _
    rw [Steps.alone_bind, each_onObject_alone, Option.bind_some, Steps.alone_bind, onObject_alone,
      Option.bind_some, Steps.alone_bind, each_onObject_alone]
    rfl

/-- The state with a new object that holds the given configuration. -/
def withCopy (w : ReloadState) (c : NtpConfig) : ReloadState :=
  ReloadState.setObject
    { w with server := { w.server with nextConfig := w.server.nextConfig + 1 } }
    w.server.nextConfig c

/-- What the loader makes of the configuration in force. -/
def loadedCopy (w : ReloadState) (getenv : Str → Option Str) (file : Option Str) :
    Bool × NtpConfig :=
  w.server.currentConfig.loadFromFile getenv w.server.currentConfig.lastConfigFile file

/-- Without a recorded path there is no copy. -/
theorem validatedCopy_of_nil {w : ReloadState} (h : w.server.currentConfig.lastConfigFile = [])
    (getenv : Str → Option Str) (file : Option Str) :
    (validatedCopy getenv file).alone w = some (none, w) := by
  show Steps.alone (if w.server.currentConfig.lastConfigFile.isEmpty then _ else _) w = _
  rw [if_pos (List.isEmpty_iff.mpr h)]
  rfl

/-- **Alone the steps up to the verdict fill one new object**, and name it when it is
loaded and valid. -/
theorem validatedCopy_alone {w : ReloadState} (h : w.server.currentConfig.lastConfigFile ≠ [])
    (getenv : Str → Option Str) (file : Option Str) :
    (validatedCopy getenv file).alone w
      = some (if (loadedCopy w getenv file).1 && (loadedCopy w getenv file).2.validate
          then some w.server.nextConfig else none,
        withCopy w (loadedCopy w getenv file).2) := by
  show Steps.alone (if w.server.currentConfig.lastConfigFile.isEmpty then _ else _) w = _
  rw [if_neg fun hnil => h (List.isEmpty_iff.mp hnil), Steps.alone_bind]
  show Steps.alone (_ >>= _) (withCopy w w.server.currentConfig) = _
  rw [Steps.alone_bind, withCopy, loadFromFile_alone, Option.bind_some]
  change Steps.alone (if (loadedCopy w getenv file).1 = true then _ else _)
    (withCopy w (loadedCopy w getenv file).2) = _
  cases hloaded : (loadedCopy w getenv file).1 with
  | false => rfl
  | true =>
    rw [if_pos rfl, Steps.alone_bind]
    show Steps.alone (if ((withCopy w (loadedCopy w getenv file).2).server.configs
      w.server.nextConfig).validate = true then _ else _) _ = _
    rw [withCopy, ReloadState.object_setObject]
    cases (loadedCopy w getenv file).2.validate <;> rfl

/-- Alone the rest sets the logger and the pointer, and calls back once. -/
theorem putInForce_alone (callback : Bool) (w : ReloadState) (ref : ConfigRef) :
    (putInForce callback ref).alone w = some ((),
      { server := { w.server with
          logger := NtpServer.loggerSettings (w.server.configs ref)
          config := ref }
        callbacks := w.callbacks + callback.toNat }) := by
  cases callback <;> rfl

/-- The reload of the model, by what the loader makes of the configuration. -/
theorem reloadConfig_of_path {w : ReloadState} (h : w.server.currentConfig.lastConfigFile ≠ [])
    (getenv : Str → Option Str) (file : Option Str) :
    w.server.reloadConfig getenv file
      = if (loadedCopy w getenv file).1 && (loadedCopy w getenv file).2.validate
        then (true, Daemon.putInForce w.server (loadedCopy w getenv file).2)
        else (false, w.server) := by
  unfold NtpServer.reloadConfig loadedCopy
  dsimp only
  rw [if_neg fun hnil => h (List.isEmpty_iff.mp hnil), ← Bool.not_and]
  cases NtpConfig.validate _ <;> cases Prod.fst _ <;> rfl

/-- **The program refines the reload of the model**: it returns the same verdict; a
reload that is accepted leads to the same server and one call of the callback, and one
that is not leaves all but an object that nothing points to. -/
theorem reloadConfig_alone (callback : Bool) (getenv : Str → Option Str) (file : Option Str)
    (w : ReloadState) : ∃ w', (reloadConfig callback getenv file).alone w
      = some ((w.server.reloadConfig getenv file).1, w') ∧
    ((w.server.reloadConfig getenv file).1 = true →
      w' = ⟨(w.server.reloadConfig getenv file).2, w.callbacks + callback.toNat⟩) ∧
    ((w.server.reloadConfig getenv file).1 = false → w' = w ∨ ∃ c, w' = withCopy w c) := by
  show ∃ w', Steps.alone (validatedCopy getenv file >>= _) w = _ ∧ _
  rw [Steps.alone_bind]
  by_cases hpath : w.server.currentConfig.lastConfigFile = []
  · have hmodel : w.server.reloadConfig getenv file = (false, w.server) := by
      unfold NtpServer.reloadConfig
      dsimp only
      exact if_pos (List.isEmpty_iff.mpr hpath)
    rw [validatedCopy_of_nil hpath, hmodel]
    exact ⟨w, rfl, nofun, fun _ => .inl rfl⟩
  · rw [validatedCopy_alone hpath, reloadConfig_of_path hpath]
    generalize (loadedCopy w getenv file).2 = c
    cases (loadedCopy w getenv file).1 && c.validate with
    | false => exact ⟨withCopy w c, rfl, nofun, fun _ => .inr ⟨c, rfl⟩⟩
    | true =>
      refine ⟨⟨Daemon.putInForce w.server c, w.callbacks + callback.toNat⟩, ?_, fun _ => rfl, nofun⟩
      show Steps.alone (putInForce callback w.server.nextConfig >>= _) (withCopy w c) = _
      rw [Steps.alone_bind, putInForce_alone, withCopy, ReloadState.object_setObject]
      rfl

end ReloadWork

/-! ## Reachable servers -/

/-- `config_` points to an object that has been made. -/
def NtpServer.Allocated (s : NtpServer) : Prop := s.config < s.nextConfig

theorem NtpServer.Allocated.step {s s' : NtpServer} {evp : Evp} {e : Event}
    {out : Option (Verdict × Option Bytes)} (h : s.Allocated)
    (hstep : s.stepWith NtpServer.captured evp e = .ok (s', out)) : s'.Allocated := by
  rcases NtpServer.stepWith_upstreams hstep with ⟨-, hsame⟩ | ⟨getenv, file, -, rfl⟩
  · rw [Allocated, hsame.config, hsame.nextConfig]
    exact h
  · rcases Daemon.reloadConfig_cases s getenv file with hstay | ⟨content, -, -, -, hreload⟩
    · rw [hstay]
      exact h
    · rw [hreload]
      exact Nat.lt_succ_self s.nextConfig

/-- In every reachable state it does. -/
theorem Daemon.allocated_of_run {evp : Evp} {c : NtpConfig} {logger : LoggerSettings}
    {events : List Step} {d : Daemon} (hrun : (create c logger).run evp events = .ok d) :
    d.server.Allocated := by
  refine Runs.foldlM_invariant (I := fun d => d.server.Allocated) ?_ Nat.zero_lt_one hrun
  intro e _ t t' h hstep
  cases e with
  | start env =>
    cases hstep
    rcases t.start_cases env with hstay | ⟨-, -, -, hstart⟩
    · rw [hstay]
      exact h
    · obtain ⟨healthy, sync, ref, heq⟩ := startUpstreams_eq t.server
      rw [hstart, heq]
      exact h
  | serve e =>
    obtain ⟨s, out, hserve, rfl⟩ := step_serve hstep
    exact h.step hserve
  | stop =>
    cases hstep
    unfold stop
    split
    · exact h
    · have hsame := NtpServer.cleanupConnections_same { t.server with upstreamSync := none }
      show NtpServer.Allocated (NtpServer.cleanupConnections _)
      rw [NtpServer.Allocated, hsame.config, hsame.nextConfig]
      exact h

/-- Two servers agree on all that a reload may set or that a client sees, and on every
configuration object of the first. -/
structure Unchanged (s s' : NtpServer) : Prop where
  config : s'.config = s.config
  currentConfig : s'.currentConfig = s.currentConfig
  objects : ∀ ref < s.nextConfig, s'.configs ref = s.configs ref
  logger : s'.logger = s.logger
  activeConnections : s'.activeConnections = s.activeConnections
  stats : s'.stats = s.stats
  connectionRateBuckets : s'.connectionRateBuckets = s.connectionRateBuckets
  requestSecondBuckets : s'.requestSecondBuckets = s.requestSecondBuckets
  healthyUpstreams : s'.healthyUpstreams = s.healthyUpstreams
  upstreamRrIndex : s'.upstreamRrIndex = s.upstreamRrIndex
  upstreamSync : s'.upstreamSync = s.upstreamSync
  syncConfig : s'.syncConfig = s.syncConfig

theorem Unchanged.refl (s : NtpServer) : Unchanged s s :=
  ⟨rfl, rfl, fun _ _ => rfl, rfl, rfl, rfl, rfl, rfl, rfl, rfl, rfl, rfl⟩

/-- A new object does not matter to a server that points to an older one. -/
theorem unchanged_withCopy {w : ReloadState} (h : w.server.Allocated) (c : NtpConfig) :
    Unchanged w.server (ReloadWork.withCopy w c).server where
  config := rfl
  currentConfig := Function.update_of_ne (Nat.ne_of_lt h) _ _
  objects _ href := Function.update_of_ne (Nat.ne_of_lt href) _ _
  logger := rfl
  activeConnections := rfl
  stats := rfl
  connectionRateBuckets := rfl
  requestSecondBuckets := rfl
  healthyUpstreams := rfl
  upstreamRrIndex := rfl
  upstreamSync := rfl
  syncConfig := rfl

/-- **A reload is all or nothing.** In every reachable state, with every file, or none,
and every environment, it returns false, leaves everything and does not call back, or
it returns true, a valid configuration is in force, and the callback, if there is one,
has been called once. Before the verdict no step touches anything but a configuration
object, whatever the other threads do. -/
theorem reload_all_or_nothing {evp : Evp} {c : NtpConfig} {logger : LoggerSettings}
    {events : List Daemon.Step} {d : Daemon}
    (hrun : (Daemon.create c logger).run evp events = .ok d) (callback : Bool) (calls : Nat)
    (getenv : Str → Option Str) (file : Option Str) :
    (∃ ok w', (ReloadWork.reloadConfig callback getenv file).alone ⟨d.server, calls⟩
        = some (ok, w') ∧
      (ok = false ∧ Unchanged d.server w'.server ∧ w'.callbacks = calls ∨
        ok = true ∧ w'.server.currentConfig.validate = true ∧
          w'.callbacks = calls + callback.toNat)) ∧
      (ReloadWork.validatedCopy getenv file).Keeps ReloadWork.OnlyObjects := by
  refine ⟨?_, ReloadWork.validatedCopy_keeps getenv file⟩
  obtain ⟨w', halone, htrue, hfalse⟩ :=
    ReloadWork.reloadConfig_alone callback getenv file ⟨d.server, calls⟩
  refine ⟨_, w', halone, ?_⟩
  dsimp only at htrue hfalse ⊢
  rcases Daemon.reloadConfig_cases d.server getenv file with
    hstay | ⟨content, -, -, hvalid, hreload⟩
  · left
    rw [hstay] at hfalse ⊢
    rcases hfalse rfl with rfl | ⟨copy, rfl⟩
    · exact ⟨rfl, .refl _, rfl⟩
    · exact ⟨rfl, unchanged_withCopy (w := ⟨d.server, calls⟩) (Daemon.allocated_of_run hrun) copy, rfl⟩
  · right
    rw [hreload] at htrue ⊢
    rw [htrue rfl]
    dsimp only
    rw [Daemon.putInForce_currentConfig]
    exact ⟨rfl, hvalid, rfl⟩

/-- A daemon that has been started and has a file to reload. -/
def reloadableDaemon : Daemon :=
  let c := { NtpConfig.defaults with lastConfigFile := lit "ntpd.conf" }
  ((Daemon.create c (startupLogger c)).start ⟨true, true⟩).2

/-- The file asks for port zero. -/
theorem reload_all_or_nothing_invalid :
    (∃ ok w', (ReloadWork.reloadConfig true (fun _ => none) (some (lit "port = 0"))).alone
        ⟨reloadableDaemon.server, 0⟩ = some (ok, w') ∧
      (ok = false ∧ Unchanged reloadableDaemon.server w'.server ∧ w'.callbacks = 0 ∨
        ok = true ∧ w'.server.currentConfig.validate = true ∧ w'.callbacks = 0 + true.toNat)) ∧
      (ReloadWork.validatedCopy (fun _ => none) (some (lit "port = 0"))).Keeps
        ReloadWork.OnlyObjects := by
  have hrun : (Daemon.create { NtpConfig.defaults with lastConfigFile := lit "ntpd.conf" }
      (startupLogger { NtpConfig.defaults with lastConfigFile := lit "ntpd.conf" })).run
        constantDigest [.start ⟨true, true⟩] = .ok reloadableDaemon := rfl
  exact reload_all_or_nothing hrun true 0 _ _

end SimpleNtpd
