import SimpleNtpd.Core.Server
import SimpleNtpd.Lib.Disk

/-!
# The backup of the configuration file

`stop` ends with `NtpServer::backupConfig`, which opens the configuration file, opens
the backup file with truncation, and only then asks whether both are open. So a backup
is emptied for a source that cannot be read, and a configuration file that is its own
backup is emptied before it is read. `backup_preserves_iff` says when nothing is lost,
by what there is to copy (`backupSource`) and how much of it the disk takes.
-/

namespace SimpleNtpd

open Cpp

/-- The paths are texts, the names and the content bytes. -/
abbrev FileSystem := Disk Str Str UInt8

namespace NtpServer

variable (s : NtpServer) (d : FileSystem)

/-- server.cpp:875–885. The copy comes through up to the given number of bytes. -/
def backupConfig (limit : Nat) : FileSystem :=
  let c := s.currentConfig
  if c.backupConfigFile.isEmpty || c.lastConfigFile.isEmpty then d
  else
    let src := d.openRead c.lastConfigFile
    match d.openTruncate c.backupConfigFile with
    | none => d
    | some (dst, d) =>
      match src with
      | none => d
      | some src => d.put dst ((d.content src).take limit)

/-- No data is destroyed: behind the path of the configuration file there is what there
was, and behind that of the backup file either this or what there was. -/
def BackupPreserves (d' : FileSystem) : Prop :=
  let config := s.currentConfig.lastConfigFile
  let backup := s.currentConfig.backupConfigFile
  d'.contentAt config = d.contentAt config ∧
    ((∃ content, d.contentAt config = some content ∧ d'.contentAt backup = some content) ∨
      d'.contentAt backup = d.contentAt backup)

/-- A backup is attempted: both paths are set and the backup file can be opened. -/
def attemptsBackup : Bool :=
  !s.currentConfig.backupConfigFile.isEmpty && !s.currentConfig.lastConfigFile.isEmpty
    && (d.openTruncate s.currentConfig.backupConfigFile).isSome

/-- What there is to copy: a configuration file that can be read and is not the backup
file. -/
def backupSource : Option Str :=
  if d.Same s.currentConfig.backupConfigFile s.currentConfig.lastConfigFile then none
  else (d.openRead s.currentConfig.lastConfigFile).map d.content

/-- Nothing can be lost: no backup is attempted; or there is something to copy, and the
disk takes it, or takes as much of it as was there; or there is nothing to copy, and one
of the files is empty. -/
def BackupSafe (limit : Nat) : Prop :=
  s.attemptsBackup d = true →
    match s.backupSource d with
    | some content => content.length ≤ limit ∨
        d.contentAt s.currentConfig.backupConfigFile = some (content.take limit)
    | none => d.contentAt s.currentConfig.lastConfigFile = some [] ∨
        d.contentAt s.currentConfig.backupConfigFile = some []

variable {s d}

theorem backupConfig_of_not_attempted (h : s.attemptsBackup d = false) (limit : Nat) :
    s.backupConfig d limit = d := by
  unfold attemptsBackup at h
  unfold backupConfig
  dsimp only
  split
  · rfl
  · rename_i hpaths
    rw [Bool.or_eq_true, not_or, Bool.not_eq_true, Bool.not_eq_true] at hpaths
    rw [hpaths.1, hpaths.2, Bool.not_false, Bool.true_and, Bool.true_and,
      Option.isSome_eq_false_iff, Option.isNone_iff_eq_none] at h
    rw [h]

/-- **What a backup leaves**: behind every path to the backup file as much of the source
as the disk takes, or nothing where there is no source. -/
theorem contentAt_backupConfig (h : s.attemptsBackup d = true) (limit : Nat) (q : Str) :
    (s.backupConfig d limit).contentAt q =
      if d.Same s.currentConfig.backupConfigFile q then
        some (((s.backupSource d).getD []).take limit)
      else d.contentAt q := by
  unfold attemptsBackup at h
  rw [Bool.and_eq_true, Bool.and_eq_true, Bool.not_eq_true', Bool.not_eq_true'] at h
  obtain ⟨⟨hbackup, hconfig⟩, hopens⟩ := h
  obtain ⟨⟨dst, d'⟩, hopen⟩ := Option.isSome_iff_exists.mp hopens
  unfold backupConfig backupSource
  dsimp only
  rw [hbackup, hconfig, hopen]
  change Disk.contentAt (match d.openRead s.currentConfig.lastConfigFile with
    | none => d'
    | some src => d'.put dst ((d'.content src).take limit)) q = _
  cases hsrc : d.openRead s.currentConfig.lastConfigFile with
  | none =>
    rw [Option.map_none, ite_self, Option.getD_none, List.take_nil]
    rw [← Disk.contentAt_put_of_open hopen [] q, Disk.put_nil_of_open hopen]
  | some src =>
    have hfile : d.fileAt s.currentConfig.lastConfigFile = some src :=
      (Option.filter_eq_some_iff.mp hsrc).1
    dsimp only
    rw [Disk.contentAt_put_of_open hopen, Disk.content_openTruncate hopen hfile]
    split
    · split <;> rfl
    · rfl

/-- **When a backup destroys no data.** For every configuration, every state of the file
system, and however much of the copy comes through. -/
theorem backup_preserves_iff (s : NtpServer) (d : FileSystem) (limit : Nat) :
    s.BackupPreserves d (s.backupConfig d limit) ↔ s.BackupSafe d limit := by
  unfold BackupPreserves BackupSafe
  dsimp only
  cases hattempts : s.attemptsBackup d with
  | false =>
    rw [backupConfig_of_not_attempted hattempts]
    exact iff_of_true ⟨rfl, .inr rfl⟩ nofun
  | true =>
    rw [contentAt_backupConfig hattempts, contentAt_backupConfig hattempts,
      if_pos (Disk.Same.refl d _), forall_prop_of_true rfl]
    by_cases hsame : d.Same s.currentConfig.backupConfigFile s.currentConfig.lastConfigFile
    · -- the file is emptied before it is read
      rw [backupSource, if_pos hsame, if_pos hsame, hsame.contentAt_eq]
      dsimp only [Option.getD_none]
      rw [List.take_nil, or_self]
      exact ⟨fun h => h.1.symm, fun h => ⟨h.symm, .inr h.symm⟩⟩
    · rw [backupSource, if_neg hsame, if_neg hsame]
      cases hsrc : d.openRead s.currentConfig.lastConfigFile with
      | none =>
        dsimp only [Option.map_none, Option.getD_none]
        rw [List.take_nil]
        constructor
        · rintro ⟨-, ⟨content, hconfig, hempty⟩ | hbackup⟩
          · exact .inl (hconfig.trans hempty.symm)
          · exact .inr hbackup.symm
        · rintro (hconfig | hbackup)
          · exact ⟨rfl, .inl ⟨[], hconfig, rfl⟩⟩
          · exact ⟨rfl, .inr hbackup.symm⟩
      | some src =>
        have hconfig : d.contentAt s.currentConfig.lastConfigFile = some (d.content src) :=
          Disk.contentAt_of_fileAt (Option.filter_eq_some_iff.mp hsrc).1
        dsimp only [Option.map_some, Option.getD_some]
        rw [hconfig]
        constructor
        · rintro ⟨-, ⟨content, hcontent, htake⟩ | hbackup⟩
          · cases hcontent
            have hlength := congrArg List.length (Option.some.inj htake)
            rw [List.length_take] at hlength
            exact .inl (by omega)
          · exact .inr hbackup.symm
        · rintro (hfits | hbackup)
          · exact ⟨rfl, .inl ⟨_, rfl, congrArg some (List.take_of_length_le hfits)⟩⟩
          · exact ⟨rfl, .inr hbackup.symm⟩

/-! ## A configuration file and its backup -/

/-- A disk with a configuration file, which can be read or not, and its backup. -/
def exampleDisk (readable : Bool) : FileSystem where
  resolve := id
  file x := if x = lit "ntpd.conf" then some 0 else if x = lit "ntpd.bak" then some 1 else none
  next := 2
  allocated x i h := by
    split at h
    · cases h
      decide
    · split at h
      · cases h
        decide
      · cases h
  content i := if i = 0 then lit "port = 1123" else lit "port = 123"
  readable i := readable || i = 1
  writable _ := true
  creatable _ := true

/-- A server with the configuration file and a path for its backup. -/
def backingUp (backup : Str) : NtpServer :=
  let c := { NtpConfig.defaults with
    lastConfigFile := lit "ntpd.conf", backupConfigFile := backup }
  .start c (loggerSettings c)

/-- The configuration file is lost when it is its own backup, and the backup when the
configuration file cannot be read. -/
theorem backup_destroys :
    ¬(backingUp (lit "ntpd.conf")).BackupPreserves (exampleDisk true)
        ((backingUp (lit "ntpd.conf")).backupConfig (exampleDisk true) 4096) ∧
      ¬(backingUp (lit "ntpd.bak")).BackupPreserves (exampleDisk false)
        ((backingUp (lit "ntpd.bak")).backupConfig (exampleDisk false) 4096) := by
  constructor
  · exact fun h => absurd h.1 (by decide)
  · rintro ⟨-, ⟨content, hconfig, hbackup⟩ | hbackup⟩
    · exact absurd (hconfig.trans hbackup.symm) (by decide)
    · exact absurd hbackup (by decide)

end NtpServer

end SimpleNtpd
