import SimpleNtpd.Core.Daemon
import SimpleNtpd.Lib.Polling

/-!
# The configuration watcher

`configWatcherLoop` (server.cpp:281–325) polls the modification time of the
configuration file and reloads when it is not the one seen last. It runs between a
successful start and the next stop. The files are written and removed by others at any
time, also between the poll and the reload, and a signal can ask for a reload too.

So the watcher is a poller (`WatchedDaemon.poller`, `step_poller`), and what the poller's
rules say holds of every life of the daemon: as long as no file is written under the
modification time the watcher holds, and none is left unread when the watcher takes
its first look at it, the content read last is that of the file whenever the watcher
holds the file's time (`watcher_current_iff`). The file that is edited while the
server is stopped, or is not there when it starts, is missed.
-/

namespace SimpleNtpd

open Cpp Runs Assignments

/-- `std::filesystem::file_time_type`. -/
abbrev FileTime := Int

/-- A daemon with its configuration watcher and the files. -/
structure WatchedDaemon where
  daemon : Daemon
  /-- the modification times and the contents of the files that can be read -/
  files : Str → Option (FileTime × Str)
  /-- `config_watch_running_`, with a thread -/
  configWatchRunning : Bool
  /-- `cfg_path` of the loop -/
  cfgPath : Str
  /-- `config_last_mtime_`, where `config_mtime_initialized_` is set -/
  configLastMtime : Option FileTime
  /-- the loop is about to call `reloadConfig` -/
  reloading : Bool
  /-- for the record: the content that was read last -/
  lastRead : Option Str
  /-- for the record: how many modifications the watcher has detected -/
  detected : Nat
  /-- for the record: how often the configuration file was written -/
  writes : Nat

/-- What can happen: to the files, in the watcher, and to the daemon. -/
inductive WatchEvent where
  | write (path : Str) (mtime : FileTime) (content : Str)
  | remove (path : Str)
  | poll
  | reload (getenv : Str → Option Str)
  | daemon (e : Daemon.Step)

namespace WatchedDaemon

/-- A daemon that is created; `main` has read some content. -/
def create (c : NtpConfig) (logger : LoggerSettings) (files : Str → Option (FileTime × Str))
    (read : Option Str) : WatchedDaemon where
  daemon := .create c logger
  files := files
  configWatchRunning := false
  cfgPath := []
  configLastMtime := none
  reloading := false
  lastRead := read
  detected := 0
  writes := 0

/-- The path a reload reads. -/
def configPath (w : WatchedDaemon) : Str := w.daemon.currentConfig.lastConfigFile

/-- The file there; the empty path names none. -/
def configFile (w : WatchedDaemon) : Option (FileTime × Str) :=
  if w.configPath.isEmpty then none else w.files w.configPath

/-- server.cpp:249–272. -/
def startConfigWatcher (w : WatchedDaemon) : WatchedDaemon :=
  let cfgPath := w.configPath
  if cfgPath.isEmpty then w
  else { w with
    configLastMtime := (w.files cfgPath).map Prod.fst
    configWatchRunning := true
    cfgPath := cfgPath }

/-- One round of the loop up to the comparison (server.cpp:291–302). A file that cannot
be read is ignored, and the first time that is read is only remembered. -/
def poll (w : WatchedDaemon) : WatchedDaemon :=
  if !w.configWatchRunning || w.reloading then w
  else match w.files w.cfgPath with
    | none => w
    | some (currentMtime, _) =>
      match w.configLastMtime with
      | none => { w with configLastMtime := some currentMtime }
      | some last =>
        if currentMtime ≠ last then
          { w with
            configLastMtime := some currentMtime
            reloading := true
            detected := w.detected + 1 }
        else w

/-- `reloadConfig`, with the file as it is now. -/
def reloadConfig (w : WatchedDaemon) (getenv : Str → Option Str) : WatchedDaemon :=
  let content := w.configFile.map Prod.snd
  { w with
    daemon := { w.daemon with server := (w.daemon.server.reloadConfig getenv content).2 }
    lastRead := content.or w.lastRead }

/-- The daemon's own events. `stop` waits for the loop. -/
def stepDaemon (evp : Evp) (w : WatchedDaemon) : Daemon.Step → Except Exn WatchedDaemon
  | .start env =>
    let r := w.daemon.start env
    .ok (if r.1 then { w with daemon := r.2 }.startConfigWatcher else { w with daemon := r.2 })
  | .stop =>
    .ok (if w.reloading then w
      else { w with daemon := w.daemon.stop, configWatchRunning := false })
  | .serve (.reload getenv _) => .ok (w.reloadConfig getenv)
  | .serve e => (w.daemon.step evp (.serve e)).map fun d => { w with daemon := d }

/-- One event. -/
def step (evp : Evp) (w : WatchedDaemon) : WatchEvent → Except Exn WatchedDaemon
  | .write path mtime content =>
    .ok { w with
      files := Function.update w.files path (some (mtime, content))
      writes := if path = w.configPath ∧ path ≠ [] then w.writes + 1 else w.writes }
  | .remove path => .ok { w with files := Function.update w.files path none }
  | .poll => .ok w.poll
  | .reload getenv =>
    .ok (if w.reloading then { w.reloadConfig getenv with reloading := false } else w)
  | .daemon e => w.stepDaemon evp e

/-- The state after some events. -/
def run (evp : Evp) (w : WatchedDaemon) (events : List WatchEvent) : Except Exn WatchedDaemon :=
  events.foldlM (step evp) w

/-! ## The watcher is a poller -/

/-- The watcher as a poller of its file. -/
def poller (w : WatchedDaemon) : Polling.Poller FileTime Str where
  source := w.configFile
  seen := w.configLastMtime
  pending := w.reloading
  taken := w.lastRead
  found := w.detected
  puts := w.writes

/-- What an event is to the poller. -/
def act (w : WatchedDaemon) : WatchEvent → Option (Polling.Act FileTime Str)
  | .write path mtime content =>
    if path = w.configPath ∧ path ≠ [] then some (.put mtime content) else none
  | .remove path => if path = w.configPath ∧ path ≠ [] then some .drop else none
  | .poll => if w.configWatchRunning then some .look else none
  | .reload _ => some .take
  | .daemon (.start env) =>
    if (w.daemon.start env).1 = true ∧ w.configPath ≠ [] then some .rebase else none
  | .daemon (.serve (.reload _ _)) => some .refresh
  | .daemon _ => none

/-- Where the watcher holds the time of the file and is not about to reload, the content
read last is that of the file. -/
def Current (w : WatchedDaemon) : Prop := Polling.Current w.poller

/-- The event does not hide an edit: a file that is written is given another time than
the one the watcher holds, unless its content was read already, and a file that the
watcher sees for the first time was read as it is. -/
def Notices (w : WatchedDaemon) (e : WatchEvent) : Prop := ∀ a ∈ w.act e, Polling.Noticed w.poller a

/-! ## What an event is to the watcher -/

variable {w w' : WatchedDaemon} {evp : Evp}

/-- A reload reads the file that the next one reads. -/
theorem reloadConfig_lastConfigFile (s : NtpServer) (getenv : Str → Option Str)
    (file : Option Str) : (s.reloadConfig getenv file).2.currentConfig.lastConfigFile
      = s.currentConfig.lastConfigFile := by
  rcases Daemon.reloadConfig_cases s getenv file with hstay | ⟨content, -, -, -, hreload⟩
  · rw [hstay]
  · rw [hreload, Daemon.putInForce_currentConfig]
    have hfield : (Daemon.reloaded s getenv content).lastConfigFile
        = (last Field.lastConfigFile
            (loadAssignments getenv s.currentConfig.lastConfigFile content)).getD
              s.currentConfig.lastConfigFile :=
      configFields.get_storeAll _ _ .lastConfigFile
    rw [hfield, last_load_lastConfigFile]
    rfl

/-- Every event of the server leaves the name of the file that is read next. -/
theorem stepWith_lastConfigFile {s s' : NtpServer} {e : Event}
    {out : Option (Verdict × Option Bytes)}
    (h : s.stepWith NtpServer.captured evp e = .ok (s', out)) :
    s'.currentConfig.lastConfigFile = s.currentConfig.lastConfigFile := by
  rcases Daemon.stepWith_currentConfig h with hsame | ⟨-, hraise⟩ | ⟨getenv, file, -, hreload⟩
  · rw [hsame]
  · rw [hraise]
  · rw [hreload, reloadConfig_lastConfigFile]

/-- The loop runs while the server does, and watches the file a reload reads. -/
structure Watches (w : WatchedDaemon) : Prop where
  loop : w.configWatchRunning = true →
    w.cfgPath = w.configPath ∧ w.configPath ≠ [] ∧ w.daemon.running = true
  reloading : w.reloading = true → w.configWatchRunning = true

theorem Watches.create (c : NtpConfig) (logger : LoggerSettings)
    (files : Str → Option (FileTime × Str)) (read : Option Str) :
    Watches (.create c logger files read) := ⟨nofun, nofun⟩

/-- A file that is written or removed is the poller's source, or another one. -/
theorem poller_update (w : WatchedDaemon) (path : Str) (file : Option (FileTime × Str)) (writes : Nat) :
    ({ w with files := Function.update w.files path file, writes := writes } : WatchedDaemon).poller
      = { w.poller with
          source := if path = w.configPath ∧ path ≠ [] then file else w.configFile
          puts := writes } := by
  have hfile : (if w.configPath.isEmpty then none else Function.update w.files path file w.configPath)
      = if path = w.configPath ∧ path ≠ [] then file else w.configFile := by
    unfold configFile
    by_cases hpath : path = w.configPath
    · subst hpath
      rw [Function.update_self]
      simp only [List.isEmpty_iff, ne_eq, true_and]
      split <;> simp [*]
    · have hother : ¬(path = w.configPath ∧ path ≠ []) := fun h => hpath h.1
      rw [Function.update_of_ne (Ne.symm hpath), if_neg hother]
  rw [← hfile]
  rfl

theorem configFile_of_ne (h : w.configPath ≠ []) : w.configFile = w.files w.configPath := by
  unfold configFile
  rw [if_neg fun hempty => h (List.isEmpty_iff.mp hempty)]

/-- What a round of the loop does: nothing, or it remembers a time, or it detects a
modification. -/
theorem poll_cases (h : w.Watches) (hrunning : w.configWatchRunning = true) :
    (w.poll = w ∧ w.poller.look = w.poller) ∨
      (∃ mtime, w.poll = { w with configLastMtime := some mtime } ∧
        w.poller.look = { w.poller with seen := some mtime }) ∨
      ∃ mtime, w.poll = { w with
          configLastMtime := some mtime, reloading := true, detected := w.detected + 1 } ∧
        w.poller.look = { w.poller with
          seen := some mtime, pending := true, found := w.poller.found + 1 } := by
  obtain ⟨hpath, hne, -⟩ := h.loop hrunning
  have hfile : w.files w.cfgPath = w.poller.source := by
    rw [hpath]
    exact (configFile_of_ne hne).symm
  cases hreloading : w.reloading with
  | true => exact .inl ⟨by simp [poll, hreloading], by simp [Polling.Poller.look, poller, hreloading]⟩
  | false =>
    rcases Polling.look_cases (p := w.poller) hreloading with ⟨hstay, hnew⟩ |
      ⟨mtime, content, hsource, hseen, hlook⟩ | ⟨mtime, content, last, hsource, hseen, hne, hlook⟩
    · refine .inl ⟨?_, hstay⟩
      cases hsource : w.poller.source with
      | none => simp [poll, hfile, hsource]
      | some r =>
        have hlast : w.configLastMtime = some r.1 := hnew r.1 r.2 hsource
        simp [poll, hfile, hsource, hlast]
    · change w.configLastMtime = none at hseen
      exact .inr (.inl ⟨mtime, by simp [poll, hrunning, hreloading, hfile, hsource, hseen], hlook⟩)
    · change w.configLastMtime = some last at hseen
      exact .inr (.inr
        ⟨mtime, by simp [poll, hrunning, hreloading, hfile, hsource, hseen, hne], hlook⟩)

/-- A reload takes what is in the file. -/
theorem reloadConfig_poller (w : WatchedDaemon) (getenv : Str → Option Str) :
    (w.reloadConfig getenv).poller = w.poller.grab ∧
      (w.reloadConfig getenv).configPath = w.configPath := by
  have hpath : (w.reloadConfig getenv).configPath = w.configPath :=
    reloadConfig_lastConfigFile _ getenv _
  refine ⟨?_, hpath⟩
  have hfile : (w.reloadConfig getenv).configFile = w.configFile := by
    unfold configFile
    rw [hpath]
    rfl
  unfold poller
  rw [hfile]
  rfl

/-- A daemon with the same path is watched alike. -/
theorem poller_daemon {d : Daemon} (h : d.currentConfig.lastConfigFile = w.configPath) :
    ({ w with daemon := d } : WatchedDaemon).poller = w.poller := by
  have hfile : ({ w with daemon := d } : WatchedDaemon).configFile = w.configFile := by
    show (if d.currentConfig.lastConfigFile.isEmpty then none
      else w.files d.currentConfig.lastConfigFile) = _
    rw [h]
    rfl
  unfold poller
  rw [hfile]

/-- To begin to watch is to remember the time that is there. -/
theorem startConfigWatcher_poller (h : w.reloading = false) : w.startConfigWatcher.poller
    = if w.configPath ≠ [] then w.poller.rebase else w.poller := by
  unfold startConfigWatcher
  dsimp only
  cases hempty : w.configPath.isEmpty with
  | true => rw [if_pos rfl, if_neg fun hne => hne (List.isEmpty_iff.mp hempty)]
  | false =>
    have hne : w.configPath ≠ [] := fun hnil => by rw [hnil] at hempty; cases hempty
    have hpending : w.poller.pending = false := h
    have hrebase : w.poller.rebase = { w.poller with seen := w.poller.source.map Prod.fst } :=
      if_neg (hpending ▸ Bool.false_ne_true)
    have hfile : w.poller.source = w.files w.configPath := configFile_of_ne hne
    rw [if_neg Bool.false_ne_true, if_pos hne, hrebase, hfile]
    rfl

variable (evp) in
/-- What the server does in between is nothing to the watcher. -/
theorem serve_poller (h : w.Watches) {e : Event}
    (hstep : ((w.daemon.step evp (.serve e)).map fun d => { w with daemon := d }) = .ok w') :
    w'.poller = w.poller ∧ w'.Watches := by
  cases hserve : w.daemon.step evp (.serve e) with
  | error exn =>
    rw [hserve] at hstep
    cases hstep
  | ok d =>
    rw [hserve] at hstep
    cases hstep
    obtain ⟨s, out, hserver, rfl⟩ := Daemon.step_serve hserve
    have hpath : s.currentConfig.lastConfigFile = w.configPath := stepWith_lastConfigFile hserver
    refine ⟨poller_daemon hpath, fun hrunning => ?_, h.reloading⟩
    show w.cfgPath = s.currentConfig.lastConfigFile ∧ s.currentConfig.lastConfigFile ≠ [] ∧ _
    rw [hpath]
    exact h.loop hrunning

/-- The daemon's own events: a start begins to watch, a stop waits for the loop. -/
theorem stepDaemon_poller (h : w.Watches) {e : Daemon.Step}
    (hstep : w.stepDaemon evp e = .ok w') :
    w'.poller = (w.act (.daemon e)).elim w.poller (Polling.step w.poller) ∧ w'.Watches := by
  cases e with
  | start env =>
    cases hstep
    rcases Daemon.start_cases w.daemon env with hstay | ⟨hstopped, -, -, hstart⟩
    · simp only [act, hstay, Bool.false_eq_true, if_false, false_and]
      exact ⟨rfl, h⟩
    · -- a daemon that is not running has no loop
      have hrunning : w.configWatchRunning = false := by
        cases hrunning : w.configWatchRunning with
        | false => rfl
        | true => cases hstopped.symm.trans (h.loop hrunning).2.2
      have hreloading : w.reloading = false := by
        cases hreloading : w.reloading with
        | false => rfl
        | true => cases hrunning.symm.trans (h.reloading hreloading)
      have hpath : Daemon.currentConfig { w.daemon with
          running := true, server := Daemon.startUpstreams w.daemon.server }
            = w.daemon.currentConfig := Daemon.startUpstreams_currentConfig _
      simp only [act, hstart, if_true, true_and]
      generalize hd : ({ w.daemon with
        running := true, server := Daemon.startUpstreams w.daemon.server } : Daemon) = d at hpath ⊢
      have hup : d.running = true := by rw [← hd]
      have hsame := poller_daemon (w := w) (congrArg NtpConfig.lastConfigFile hpath)
      have hconfig : ({ w with daemon := d } : WatchedDaemon).configPath = w.configPath :=
        congrArg NtpConfig.lastConfigFile hpath
      constructor
      · rw [startConfigWatcher_poller (w := { w with daemon := d }) hreloading, hsame, hconfig]
        split <;> rfl
      · unfold startConfigWatcher
        dsimp only
        split
        · refine ⟨fun hloop => ?_, fun hloop => ?_⟩
          · exact absurd (hrunning.symm.trans hloop) (by decide)
          · exact absurd (hreloading.symm.trans hloop) (by decide)
        · rename_i hne
          exact ⟨fun _ => ⟨rfl, fun hnil => hne (List.isEmpty_iff.mpr hnil), hup⟩, fun _ => rfl⟩
  | stop =>
    cases hstep
    show WatchedDaemon.poller (if w.reloading then w else _) = w.poller ∧ _
    split
    · exact ⟨rfl, h⟩
    · rename_i hreloading
      have hsame := poller_daemon (w := w)
        (congrArg NtpConfig.lastConfigFile w.daemon.stop_currentConfig)
      exact ⟨hsame, nofun, fun hloop => absurd hloop hreloading⟩
  | serve e =>
    cases e with
    | reload getenv file =>
      cases hstep
      obtain ⟨hgrab, hpath⟩ := w.reloadConfig_poller getenv
      refine ⟨hgrab, fun hrunning => ?_, h.reloading⟩
      rw [hpath]
      exact h.loop hrunning
    | packet data client env => exact serve_poller evp h hstep
    | sync world now => exact serve_poller (e := .sync world now) evp h hstep
    | cleanup => exact serve_poller (e := .cleanup) evp h hstep

/-- **The watcher is a poller.** What an event does to the watcher and its file is an act
of the poller, or nothing. -/
theorem step_poller (h : w.Watches) {e : WatchEvent} (hstep : w.step evp e = .ok w') :
    w'.poller = (w.act e).elim w.poller (Polling.step w.poller) ∧ w'.Watches := by
  cases e with
  | write path mtime content =>
    cases hstep
    refine ⟨?_, h.loop, h.reloading⟩
    rw [poller_update]
    by_cases hconfig : path = w.configPath ∧ path ≠ []
    · simp only [act, if_pos hconfig]
      rfl
    · simp only [act, if_neg hconfig]
      rfl
  | remove path =>
    cases hstep
    refine ⟨?_, h.loop, h.reloading⟩
    rw [poller_update]
    by_cases hconfig : path = w.configPath ∧ path ≠ []
    · simp only [act, if_pos hconfig]
      rfl
    · simp only [act, if_neg hconfig]
      rfl
  | poll =>
    cases hstep
    unfold act
    cases hrunning : w.configWatchRunning with
    | false =>
      have hstay : w.poll = w := by
        unfold poll
        rw [hrunning]
        rfl
      rw [hstay]
      exact ⟨rfl, h⟩
    | true =>
      rw [if_pos rfl]
      show w.poll.poller = w.poller.look ∧ _
      rcases poll_cases h hrunning with ⟨hstay, hlook⟩ | ⟨mtime, hremember, hlook⟩ |
        ⟨mtime, hdetect, hlook⟩
      · rw [hstay, hlook]
        exact ⟨rfl, h⟩
      · rw [hremember, hlook]
        exact ⟨rfl, h.loop, h.reloading⟩
      · rw [hdetect, hlook]
        exact ⟨rfl, h.loop, fun _ => hrunning⟩
  | reload getenv =>
    cases hstep
    obtain ⟨hgrab, hpath⟩ := w.reloadConfig_poller getenv
    show WatchedDaemon.poller (if w.reloading then _ else _) = w.poller.take ∧ _
    unfold Polling.Poller.take
    have hpending : w.poller.pending = w.reloading := rfl
    rw [hpending]
    cases hreloading : w.reloading with
    | false => exact ⟨rfl, h⟩
    | true =>
      rw [if_pos rfl, if_pos rfl, ← hgrab]
      refine ⟨rfl, fun hrunning => ?_, nofun⟩
      show w.cfgPath = (w.reloadConfig getenv).configPath ∧
        (w.reloadConfig getenv).configPath ≠ [] ∧ w.daemon.running = true
      rw [hpath]
      exact h.loop hrunning
  | daemon e => exact stepDaemon_poller h hstep

/-! ## Lives -/

/-- What holds in every life: the watcher watches, and what it has detected was written. -/
structure Kept (w : WatchedDaemon) : Prop where
  watches : w.Watches
  accounted : Polling.Accounted w.poller

theorem Kept.create (c : NtpConfig) (logger : LoggerSettings)
    (files : Str → Option (FileTime × Str)) (read : Option Str) :
    Kept (.create c logger files read) := by
  refine ⟨.create c logger files read, ?_⟩
  unfold Polling.Accounted Polling.owed
  show 0 + _ ≤ 0
  split
  · rename_i hseen
    cases hseen
  · exact Nat.le_refl 0

/-- One event keeps it. -/
theorem Kept.step (h : w.Kept) {e : WatchEvent} (hstep : w.step evp e = .ok w') : w'.Kept := by
  obtain ⟨hpoller, hwatches⟩ := step_poller h.watches hstep
  refine ⟨hwatches, ?_⟩
  rw [hpoller]
  cases w.act e with
  | none => exact h.accounted
  | some a => exact h.accounted.step a

/-- **One event keeps what was read current exactly when it is noticed.** -/
theorem current_step_iff (h : w.Kept) (hcurrent : w.Current) {e : WatchEvent}
    (hstep : w.step evp e = .ok w') : w'.Current ↔ w.Notices e := by
  unfold Current Notices
  rw [(step_poller h.watches hstep).1]
  cases w.act e with
  | none => exact iff_of_true hcurrent fun _ ha => nomatch ha
  | some a =>
    rw [Option.elim_some, Polling.current_step_iff hcurrent a]
    exact ⟨fun hnoticed _ ha => Option.mem_some_iff.mp ha ▸ hnoticed, fun hall => hall a rfl⟩

/-- The next round of the loop, and the reload it may ask for. -/
def nextRound (w : WatchedDaemon) (getenv : Str → Option Str) : WatchedDaemon :=
  if w.poll.reloading then { w.poll.reloadConfig getenv with reloading := false } else w.poll

/-- The content of the file was read. -/
def Read (w : WatchedDaemon) : Prop :=
  ∀ mtime content, w.configFile = some (mtime, content) → w.lastRead = some content

/-- **A round of the loop that nobody comes in between reads the file**, unless it was
read already. -/
theorem read_of_nextRound (h : w.Kept) (hcurrent : w.Current)
    (hrunning : w.configWatchRunning = true) (hrest : w.reloading = false)
    (hnotices : w.Notices .poll) (getenv : Str → Option Str) : (w.nextRound getenv).Read := by
  have hpoll := step_poller h.watches (show w.step (fun _ _ => none) .poll = .ok w.poll from rfl)
  have hreload := step_poller hpoll.2
    (show w.poll.step (fun _ _ => none) (.reload getenv) = .ok (w.nextRound getenv) from rfl)
  have hact : w.act .poll = some .look := if_pos hrunning
  have htaken := Polling.taken_of_look hcurrent hrest (hnotices _ hact)
  have hpoller : (w.nextRound getenv).poller = w.poller.look.take := by
    rw [hreload.1, hpoll.1, hact]
    rfl
  rw [← hpoller] at htaken
  exact htaken

/-- **When a life misses no edit.** Along every life of the daemon, the content read last
is that of the file whenever the watcher holds the file's time, exactly when every event
is noticed. In every life the watcher detects no more modifications than there were, and
in one without a missed event the next round of the loop has read the file. -/
theorem watcher_current_iff (evp : Evp) (c : NtpConfig) (logger : LoggerSettings)
    (files : Str → Option (FileTime × Str)) (read : Option Str) (events : List WatchEvent) :
    (EveryStep (step evp) (fun _ _ w => w.Current) (create c logger files read) events ↔
      EveryStep (step evp) (fun w e _ => w.Notices e) (create c logger files read) events) ∧
    ∀ w, (create c logger files read).run evp events = .ok w →
      w.detected ≤ w.writes ∧
      (EveryStep (step evp) (fun w e _ => w.Notices e) (create c logger files read) events →
        w.configWatchRunning = true → w.reloading = false → w.Notices .poll →
          ∀ getenv, (w.nextRound getenv).Read) := by
  have hcreated : (create c logger files read).Current := fun _ _ _ _ hseen => nomatch hseen
  have hkept := Kept.create c logger files read
  have hiff : EveryStep (step evp) (fun _ _ w => w.Current) (create c logger files read) events ↔
      EveryStep (step evp) (fun w e _ => w.Notices e) (create c logger files read) events :=
    everyStep_iff (I := fun w => w.Kept ∧ w.Current)
      (fun {s e t} h (hstep : s.step evp e = .ok t) => current_step_iff h.1 h.2 hstep)
      (fun {s e t} h (hstep : s.step evp e = .ok t) hcurrent => ⟨h.1.step hstep, hcurrent⟩)
      ⟨hkept, hcreated⟩ events
  refine ⟨hiff, fun w hrun => ?_⟩
  have hend : w.Kept :=
    foldlM_invariant (I := Kept) (fun _ _ _ _ h hstep => h.step hstep) hkept hrun
  constructor
  · have haccount : w.detected + Polling.owed w.poller ≤ w.writes := hend.accounted
    omega
  · intro hnotices hrunning hrest hpoll getenv
    have hcurrent : w.Current :=
      foldlM_of_everyStep (I := Current) (P := fun _ _ w => w.Current)
        (fun _ _ hcurrent => hcurrent) hcreated (hiff.mpr hnotices) hrun
    exact read_of_nextRound hend hcurrent hrunning hrest hpoll getenv

end WatchedDaemon

end SimpleNtpd
