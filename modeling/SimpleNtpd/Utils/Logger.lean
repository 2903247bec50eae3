import Mathlib.Data.List.InsertIdx
import Mathlib.Data.UInt
import SimpleNtpd.Core.Server
import SimpleNtpd.Lib.FileFamily

/-!
# The log file and its rotation

`Logger::Impl` writes a line at a time to the log file (logger.cpp). A file that
has reached the rotation size is renamed to `log_file.1` before the next line, the
older ones move up by one, and the oldest goes.

The files are a family of names, and the rotation is that of such a family. So
what the files hold is told by a list of lists of lines, newest file first
(`outputToFile_holds`): after each line it is the end of all lines written, whole
and in order. File operations succeed, except that no file has an empty name.
-/

namespace SimpleNtpd

open Cpp FileFamily

/-- The name of a rotated file. -/
def rotatedName (logFile : Str) (i : Nat) : Str := logFile ++ '.'.toUInt8 :: toDecimal i

/-- The names of the log files, the current one first. -/
def logName (logFile : Str) (i : Nat) : Str := if i = 0 then logFile else rotatedName logFile i

namespace LoggerSettings

/-- logger.cpp:125–129. -/
def setLogRotation (logger : LoggerSettings) (maxSizeBytes : UInt64) (maxFiles : UInt32) :
    LoggerSettings :=
  { logger with rotateMaxSizeBytes := maxSizeBytes, rotateMaxFiles := max 1 maxFiles }

/-- Remove the oldest file, move the others up and the current one behind them
(logger.cpp:298–316). The loop counts in an `int`. -/
def rotateLogs (logger : LoggerSettings) (fs : Store Str Str) : Store Str Str :=
  let fs := remove fs (rotatedName logger.logFile logger.rotateMaxFiles.toNat)
  let fs := shiftUp (logName logger.logFile) (logger.rotateMaxFiles.toInt32.toInt - 1).toNat fs
  moveUp (logName logger.logFile) fs 0

/-- The line a message is written as. -/
def line (message : Str) : Str := message ++ lit "\n"

/-- Rotate a log file that has reached the rotation size (logger.cpp:276–288). -/
def rotateIfNeeded (logger : LoggerSettings) (fs : Store Str Str) : Store Str Str :=
  if !logger.logFile.isEmpty && 0 < logger.rotateMaxSizeBytes then
    match fs logger.logFile with
    | none => fs
    | some content =>
      if logger.rotateMaxSizeBytes.toNat ≤ content.length then logger.rotateLogs fs else fs
  else fs

/-- Rotate if needed, and append a line (logger.cpp:275–296). -/
def outputToFile (logger : LoggerSettings) (fs : Store Str Str) (message : Str) :
    Store Str Str :=
  let fs := logger.rotateIfNeeded fs
  if logger.logFile.isEmpty then fs
  else Function.update fs logger.logFile
    (some ((fs logger.logFile).getD [] ++ line message))

/-- The files after some messages. -/
def outputAll (logger : LoggerSettings) (fs : Store Str Str) (messages : List Str) :
    Store Str Str :=
  messages.foldl logger.outputToFile fs

/-- What the log files hold together, the oldest file first. -/
def logText (logger : LoggerSettings) (fs : Store Str Str) : Str :=
  (List.range (logger.rotateMaxFiles.toNat + 1)).reverse.flatMap fun i =>
    (fs (logName logger.logFile i)).getD []

/-! ## The family of the log files -/

/-- No two of them have one name: a rotated one is longer than the current one,
and its number can be read off. -/
theorem logName_injective (logFile : Str) : Function.Injective (logName logFile) := by
  have hlonger : ∀ i, logFile ≠ rotatedName logFile i := by
    intro i heq
    have hlen := congrArg List.length heq
    rw [rotatedName, List.length_append, List.length_cons] at hlen
    omega
  intro i j h
  unfold logName at h
  by_cases hi : i = 0
  · by_cases hj : j = 0
    · rw [hi, hj]
    · rw [if_pos hi, if_neg hj] at h
      exact absurd h (hlonger j)
  · by_cases hj : j = 0
    · rw [if_neg hi, if_pos hj] at h
      exact absurd h.symm (hlonger i)
    · rw [if_neg hi, if_neg hj] at h
      exact toDecimal_injective (List.cons.inj (List.append_cancel_left h)).2

/-- A rotation leaves no current file. -/
theorem rotateLogs_current (logger : LoggerSettings) (fs : Store Str Str) :
    logger.rotateLogs fs logger.logFile = none := by
  show moveUp (logName logger.logFile) _ 0 (logName logger.logFile 0) = none
  unfold moveUp
  split
  · exact rename_src _ _ _
  · rename_i hnone
    exact Option.not_isSome_iff_eq_none.mp hnone

variable {logger : LoggerSettings} {fs : Store Str Str}

/-- The rotation is that of the family, however many files there are. -/
theorem rotateLogs_eraseIdx (hmin : 1 ≤ logger.rotateMaxFiles)
    (hmax : logger.rotateMaxFiles < 2 ^ 31) {contents : List Str}
    (h : Holds (logName logger.logFile) fs contents) (i : Nat) :
    logger.rotateLogs fs (logName logger.logFile (i + 1))
      = (contents.eraseIdx logger.rotateMaxFiles.toNat)[i]? := by
  have hmin' : 1 ≤ logger.rotateMaxFiles.toNat := UInt32.le_iff_toNat_le.mp hmin
  have hmax' : logger.rotateMaxFiles.toNat < 2 ^ 31 := UInt32.lt_iff_toNat_lt.mp hmax
  have hint : logger.rotateMaxFiles.toInt32.toInt = logger.rotateMaxFiles.toNat := by
    show logger.rotateMaxFiles.toBitVec.toInt = _
    rw [BitVec.toInt_eq_toNat_bmod, UInt32.toNat_toBitVec]
    exact Int.bmod_eq_of_le (by omega) (by omega)
  obtain ⟨n, hn⟩ := Nat.exists_eq_add_of_le' hmin'
  have hlast : rotatedName logger.logFile (n + 1) = logName logger.logFile (n + 1) := by
    rw [logName, if_neg (Nat.succ_ne_zero n)]
  have hcount : ((n + 1 : Nat) - 1 : Int).toNat = n := by omega
  unfold rotateLogs
  rw [hint, hn, hlast, hcount]
  exact holds_rotate_eraseIdx (logName_injective logger.logFile) h i

/-! ## One line -/

/-- The lines of a file as they stand in it. -/
def text (messages : List Str) : Str := messages.flatMap line

/-- A file with the given lines has reached the rotation size. -/
def isFull (logger : LoggerSettings) (messages : List Str) : Bool :=
  logger.rotateMaxSizeBytes.toNat ≤ (text messages).length

/-- A file with the given lines is rotated before the next. -/
def rotatesAt (logger : LoggerSettings) (messages : List Str) : Bool :=
  0 < logger.rotateMaxSizeBytes && logger.isFull messages

/-- A file is rotated when it is full. -/
theorem rotateIfNeeded_of_some (hname : logger.logFile ≠ []) (hsize : 0 < logger.rotateMaxSizeBytes)
    {content : Str} (hfile : fs logger.logFile = some content) :
    logger.rotateIfNeeded fs = if logger.rotateMaxSizeBytes.toNat ≤ content.length
      then logger.rotateLogs fs else fs := by
  unfold rotateIfNeeded
  rw [Bool.eq_false_iff.mpr fun hnil => hname (List.isEmpty_iff.mp hnil), Bool.not_false,
    Bool.true_and, if_pos (decide_eq_true hsize), hfile]

/-- Where there is no file, none is rotated. -/
theorem rotateIfNeeded_of_none (hfile : fs logger.logFile = none) :
    logger.rotateIfNeeded fs = fs := by
  unfold rotateIfNeeded
  rw [hfile]
  split <;> rfl

theorem outputToFile_eq (hname : logger.logFile ≠ []) (fs : Store Str Str) (message : Str) :
    logger.outputToFile fs message = Function.update (logger.rotateIfNeeded fs)
      (logName logger.logFile 0)
      (some ((logger.rotateIfNeeded fs logger.logFile).getD [] ++ line message)) := by
  unfold outputToFile
  rw [Bool.eq_false_iff.mpr fun hnil => hname (List.isEmpty_iff.mp hnil)]
  rfl

/-- **One line**, under any settings. -/
theorem outputToFile_pushes (hname : logger.logFile ≠ []) (hmin : 1 ≤ logger.rotateMaxFiles)
    (hmax : logger.rotateMaxFiles < 2 ^ 31) {files : List (List Str)}
    (h : Holds (logName logger.logFile) fs (files.map text)) (message : Str) :
    Holds (logName logger.logFile) (logger.outputToFile fs message)
      ((pushItem logger.rotatesAt logger.rotateMaxFiles.toNat message files).map text) := by
  have hinj := logName_injective logger.logFile
  have hcurrent : fs logger.logFile = (files.map text)[0]? := h 0
  have hline : line message = text [message] := (List.flatMap_singleton line message).symm
  rw [outputToFile_eq hname]
  cases files with
  | nil =>
    rw [rotateIfNeeded_of_none hcurrent, hcurrent, hline]
    have hnone : ∀ i, fs (logName logger.logFile (i + 1)) = ([] : List Str)[i]? :=
      fun i => h (i + 1)
    exact holds_cons hinj hnone
  | cons current old =>
    have happend : text current ++ line message = text (current ++ [message]) := by
      rw [text, text, List.flatMap_append, List.flatMap_singleton]
    have hstay : ∀ (_ : logger.rotateIfNeeded fs = fs), Holds (logName logger.logFile)
        (Function.update (logger.rotateIfNeeded fs) (logName logger.logFile 0)
          (some ((logger.rotateIfNeeded fs logger.logFile).getD [] ++ line message)))
        (((current ++ [message]) :: old).map text) := fun hno => by
      rw [hno, hcurrent, List.map_cons, List.map_cons, ← happend]
      exact holds_cons hinj fun i => h (i + 1)
    rw [pushItem]
    by_cases hsize : 0 < logger.rotateMaxSizeBytes
    · have hrotates : logger.rotatesAt current = logger.isFull current := by
        rw [rotatesAt, decide_eq_true hsize, Bool.true_and]
      have hrotate := rotateIfNeeded_of_some hname hsize hcurrent
      rw [hrotates]
      by_cases hfull : logger.rotateMaxSizeBytes.toNat ≤ (text current).length
      · have hisFull : logger.isFull current = true := decide_eq_true hfull
        rw [hrotate, if_pos hfull, if_pos hisFull, rotateLogs_current, hline, List.map_cons,
          ← List.eraseIdx_map]
        exact holds_cons hinj fun i => rotateLogs_eraseIdx hmin hmax h i
      · rw [if_neg (by rwa [isFull, decide_eq_true_eq])]
        exact hstay (by rw [hrotate, if_neg hfull])
    · -- without a size there is no rotation
      have hrotates : logger.rotatesAt current = false := by
        rw [rotatesAt, decide_eq_false hsize, Bool.false_and]
      rw [hrotates, if_neg Bool.false_ne_true]
      refine hstay ?_
      rw [rotateIfNeeded, decide_eq_false hsize, Bool.and_false, if_neg Bool.false_ne_true]

/-- With no more files than are kept, what the files hold is the lines of the newest ones,
before and after. -/
theorem outputToFile_holds (hname : logger.logFile ≠ []) (hsize : 0 < logger.rotateMaxSizeBytes)
    (hmin : 1 ≤ logger.rotateMaxFiles) (hmax : logger.rotateMaxFiles ≤ 1000)
    {files : List (List Str)} (h : Holds (logName logger.logFile) fs (files.map text))
    (hlen : files.length ≤ logger.rotateMaxFiles.toNat + 1) (message : Str) :
    Holds (logName logger.logFile) (logger.outputToFile fs message)
      ((addItem logger.isFull logger.rotateMaxFiles.toNat message files).map text) := by
  have hrotates : logger.rotatesAt = logger.isFull := funext fun messages => by
    rw [rotatesAt, decide_eq_true hsize, Bool.true_and]
  have hlt : logger.rotateMaxFiles < 2 ^ 31 := by
    rw [UInt32.lt_iff_toNat_lt]
    exact Nat.lt_of_le_of_lt (UInt32.le_iff_toNat_le.mp hmax) (by decide)
  have hpushes := outputToFile_pushes hname hmin hlt h message
  rwa [pushItem_eq_addItem _ hlen, hrotates] at hpushes

/-- The file a line is appended to was short of the rotation size before. -/
theorem outputToFile_current (hname : logger.logFile ≠ []) (hsize : 0 < logger.rotateMaxSizeBytes)
    (fs : Store Str Str) (message : Str) :
    ∃ before : Str, before.length < logger.rotateMaxSizeBytes.toNat ∧
      logger.outputToFile fs message logger.logFile = some (before ++ line message) := by
  have hpos : 0 < logger.rotateMaxSizeBytes.toNat := UInt64.lt_iff_toNat_lt.mp hsize
  rw [outputToFile_eq hname]
  refine ⟨_, ?_, Function.update_self _ _ _⟩
  cases hfile : fs logger.logFile with
  | none =>
    rw [rotateIfNeeded_of_none hfile, hfile]
    exact hpos
  | some content =>
    rw [rotateIfNeeded_of_some hname hsize hfile]
    by_cases hfull : logger.rotateMaxSizeBytes.toNat ≤ content.length
    · rw [if_pos hfull, rotateLogs_current]
      exact hpos
    · rw [if_neg hfull, hfile]
      exact Nat.lt_of_not_le hfull

/-! ## All lines -/

/-- After some messages the files hold lists of their lines, newest file first,
which together are the last of them; induction on the messages from the last. -/
theorem outputAll_holds (hname : logger.logFile ≠ []) (hsize : 0 < logger.rotateMaxSizeBytes)
    (hmin : 1 ≤ logger.rotateMaxFiles) (hmax : logger.rotateMaxFiles ≤ 1000)
    (hstart : Holds (logName logger.logFile) fs []) (messages : List Str) :
    ∃ files : List (List Str),
      Holds (logName logger.logFile) (logger.outputAll fs messages) (files.map text) ∧
        files.length ≤ logger.rotateMaxFiles.toNat + 1 ∧ files.reverse.flatten <:+ messages := by
  induction messages using List.reverseRecOn with
  | nil => exact ⟨[], hstart, Nat.zero_le _, List.suffix_rfl⟩
  | append_singleton messages message ih =>
    obtain ⟨files, hholds, hlen, hsuffix⟩ := ih
    refine ⟨addItem logger.isFull logger.rotateMaxFiles.toNat message files, ?_,
      length_addItem message hlen, ?_⟩
    · rw [outputAll, List.foldl_append]
      exact outputToFile_holds hname hsize hmin hmax hholds hlen message
    · obtain ⟨lost, rfl⟩ := hsuffix
      refine (addItem_suffix message files).trans ?_
      rw [List.append_assoc]
      exact List.suffix_append _ _

/-- The lines of several files, the oldest first. -/
theorem flatten_map_text (files : List (List Str)) :
    (files.map text).reverse.flatten = text files.reverse.flatten := by
  rw [← List.map_reverse]
  unfold text
  rw [List.flatMap_def, List.map_flatten, List.flatten_flatten, List.map_map]
  rfl

/-- The log files after some messages: together they hold the last of the lines,
there are no more of them than configured, and the current one ends with the last
line and was short of the rotation size before it. -/
structure RetainsEnd (logger : LoggerSettings) (messages : List Str) (fs : Store Str Str) :
    Prop where
  suffix : ∃ n, logger.logText fs = text (messages.drop n)
  bounded : ∀ i, logger.rotateMaxFiles.toNat < i → fs (rotatedName logger.logFile i) = none
  current : ∀ before last, messages = before ++ [last] → ∃ content,
    fs logger.logFile = some content ∧ line last <:+ content ∧
      content.length < logger.rotateMaxSizeBytes.toNat + (line last).length

end LoggerSettings

open LoggerSettings

/-- **Rotation loses only the oldest lines.** For every rotation size, every number
of files from 1 to 1000 and every sequence of messages, with no log files at the
start. -/
theorem rotation_retains_end (logger : LoggerSettings) (hname : logger.logFile ≠ [])
    (hsize : 0 < logger.rotateMaxSizeBytes) (hmin : 1 ≤ logger.rotateMaxFiles)
    (hmax : logger.rotateMaxFiles ≤ 1000) (fs : Store Str Str)
    (hstart : ∀ i, fs (logName logger.logFile i) = none) (messages : List Str) :
    logger.RetainsEnd messages (logger.outputAll fs messages) := by
  obtain ⟨files, hholds, hlen, hsuffix⟩ := outputAll_holds hname hsize hmin hmax hstart messages
  constructor
  · obtain ⟨lost, hlost⟩ := hsuffix
    have hdrop : messages.drop lost.length = files.reverse.flatten := by
      rw [← hlost, List.drop_left]
    have hcount : (files.map text).length ≤ logger.rotateMaxFiles.toNat + 1 := by
      rw [List.length_map]
      exact hlen
    refine ⟨lost.length, ?_⟩
    rw [hdrop, ← flatten_map_text, ← flatMap_range_eq_flatten hcount]
    exact List.flatMap_congr fun i _ => by rw [hholds i]
  · intro i hi
    have hi0 : i ≠ 0 := by omega
    have habsent := hholds i
    rw [logName, if_neg hi0] at habsent
    rw [habsent, List.getElem?_eq_none]
    rw [List.length_map]
    omega
  · rintro before last rfl
    obtain ⟨head, hhead, hcontent⟩ :=
      outputToFile_current hname hsize (logger.outputAll fs before) last
    refine ⟨head ++ line last, ?_, List.suffix_append _ _, ?_⟩
    · rw [outputAll, List.foldl_append]
      exact hcontent
    · rw [List.length_append]
      omega

/-- Five lines through a file that is rotated from three bytes on, with one rotated
file. -/
theorem rotation_retains_end_example :
    let logger := ({ NtpServer.loggerSettings .defaults with logFile := lit "l" }).setLogRotation 3 1
    logger.RetainsEnd [lit "a", lit "b", lit "c", lit "d", lit "e"]
      (logger.outputAll (fun _ => none) [lit "a", lit "b", lit "c", lit "d", lit "e"]) :=
  rotation_retains_end _ (by decide) (by decide) (by decide) (by decide) _ (fun _ => rfl) _

end SimpleNtpd
