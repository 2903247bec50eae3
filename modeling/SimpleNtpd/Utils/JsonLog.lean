import SimpleNtpd.Config.NumericSettings
import SimpleNtpd.Core.Server
import SimpleNtpd.Lib.Json
import SimpleNtpd.Lib.Utf8

/-!
# Structured log lines

With `log_json` the logger writes each message as a JSON object on a line of its own
(logger.cpp), for collectors that read a line as a record. It puts a backslash in
front of the quotation marks and backslashes of the message and copies everything
else, control characters included, and the name of the source file as it stands.

So a line is a record of its message (`IsLogRecord`) for some messages and file names
only, and these are told exactly (`formatMessage_isLogRecord_iff`). The dump of the
configuration at start-up never is one: it has line breaks.
-/

namespace SimpleNtpd

open Cpp

/-- Convert log level to string (logger.cpp:29–44). -/
def levelToString : LogLevel → Str
  | .debug => lit "DEBUG"
  | .info => lit "INFO"
  | .warning => lit "WARNING"
  | .error => lit "ERROR"
  | .fatal => lit "FATAL"
  | .other _ => lit "UNKNOWN"

/-- The loop that escapes a message (logger.cpp:209–214). It inserts into the string
it walks along. -/
def escapeFrom (escaped : Str) (i : Nat) : Str :=
  if h : i < escaped.length then
    if escaped[i] = '\\'.toUInt8 ∨ escaped[i] = '"'.toUInt8 then
      escapeFrom (escaped.insertIdx i '\\'.toUInt8) (i + 2)
    else escapeFrom escaped (i + 1)
  else escaped
termination_by escaped.length - i
decreasing_by
  · rw [List.length_insertIdx_of_le_length (Nat.le_of_lt h)]
    omega
  · omega

namespace LoggerSettings

/-- A message as a line of the log (logger.cpp:181–217), with what
`getCurrentTimestamp` and `getThreadId` give. -/
def formatMessage (logger : LoggerSettings) (timestamp threadId : Str) (level : LogLevel)
    (message file : Str) (line : Int) : Str :=
  if !logger.structuredJson then
    lit "[" ++ timestamp ++ lit "] " ++ lit "[" ++ levelToString level ++ lit "] " ++
      lit "[" ++ threadId ++ lit "] " ++
      (if !file.isEmpty then lit "[" ++ file ++ lit ":" ++ toDecimalInt line ++ lit "] " else []) ++
      message
  else
    lit "\x7b" ++
      (lit "\"ts\":\"" ++ timestamp ++ lit "\",") ++
      (lit "\"level\":\"" ++ levelToString level ++ lit "\",") ++
      (lit "\"thread\":\"" ++ threadId ++ lit "\",") ++
      (if !file.isEmpty then
        lit "\"source\":\x7b\"file\":\"" ++ file ++ lit "\",\"line\":" ++ toDecimalInt line ++
          lit "\x7d,"
      else []) ++
      (lit "\"msg\":\"" ++ escapeFrom message 0 ++ lit "\"\x7d")

end LoggerSettings

/-! ## What a record is -/

/-- A text of one line: UTF-8 without control characters. -/
structure LineText (s : Str) : Prop where
  encoding : Utf8 s
  single : ∀ c ∈ s, Json.isControl c = false

/-- A line is a JSON object with one member `msg`, which stands for the message. -/
def HoldsMessage (message line : Str) : Prop :=
  ∃ members content, Json.read line = some (.object members) ∧
    Json.values (lit "msg") members = [.string content] ∧ Json.decode content = some message

/-- A line is a record of a message. -/
structure IsLogRecord (message line : Str) : Prop where
  text : LineText line
  message : HoldsMessage message line

/-- A text without special characters: also no quotation marks and no backslashes. -/
structure PlainText (s : Str) : Prop where
  encoding : Utf8 s
  plain : ∀ c ∈ s, Json.isPlain c = true

/-! ## The escaped message -/

theorem insertIdx_append (done rest : Str) (c : UInt8) :
    (done ++ rest).insertIdx done.length c = done ++ c :: rest := by
  induction done with
  | nil => exact List.insertIdx_zero
  | cons d done ih =>
    rw [List.cons_append, List.length_cons, List.insertIdx_succ_cons, ih]
    rfl

/-- What is behind the index is quoted; induction on it. -/
theorem escapeFrom_append (done rest : Str) :
    escapeFrom (done ++ rest) done.length = done ++ Json.quote rest := by
  induction rest generalizing done with
  | nil =>
    rw [List.append_nil, escapeFrom, dif_neg (Nat.lt_irrefl _)]
    exact (List.append_nil done).symm
  | cons c rest ih =>
    have hlt : done.length < (done ++ c :: rest).length := by
      rw [List.length_append, List.length_cons]
      omega
    have hget : (done ++ c :: rest)[done.length] = c := by
      rw [List.getElem_append_right (Nat.le_refl _)]
      simp only [Nat.sub_self, List.getElem_cons_zero]
    rw [escapeFrom, dif_pos hlt, hget]
    by_cases h : c = '\\'.toUInt8 ∨ c = '"'.toUInt8
    · have hdone := ih (done ++ ['\\'.toUInt8, c])
      rw [List.append_assoc, List.append_assoc, List.length_append] at hdone
      rw [if_pos h, insertIdx_append, Json.quote_cons_special h]
      exact hdone
    · have hdone := ih (done ++ [c])
      rw [List.append_assoc, List.append_assoc, List.length_append] at hdone
      rw [if_neg h, Json.quote_cons_other h]
      exact hdone

theorem escapeFrom_eq (message : Str) : escapeFrom message 0 = Json.quote message :=
  escapeFrom_append [] message

/-! ## The parts of a line -/

/-- The time stamp, the level and the thread. -/
def headText (timestamp threadId : Str) (level : LogLevel) : Str :=
  lit "\x7b" ++ (lit "\"ts\":\"" ++ timestamp ++ lit "\",") ++
    (lit "\"level\":\"" ++ levelToString level ++ lit "\",") ++
    (lit "\"thread\":\"" ++ threadId ++ lit "\",")

/-- The source file and the line, when there is a file. -/
def sourceText (file : Str) (line : Int) : Str :=
  if !file.isEmpty then
    lit "\"source\":\x7b\"file\":\"" ++ file ++ lit "\",\"line\":" ++ toDecimalInt line ++
      lit "\x7d,"
  else []

/-- The message and the end. -/
def messageText (message : Str) : Str :=
  lit "\"msg\":\"" ++ Json.quote message ++ lit "\"\x7d"

variable {logger : LoggerSettings} {timestamp threadId message file : Str} {level : LogLevel}
  {line : Int}

theorem formatMessage_eq (hjson : logger.structuredJson = true) :
    logger.formatMessage timestamp threadId level message file line =
      headText timestamp threadId level ++ sourceText file line ++ messageText message := by
  rw [LoggerSettings.formatMessage, hjson, escapeFrom_eq]
  rfl

/-! ### Texts of one line -/

theorem LineText.append {a b : Str} (ha : LineText a) (hb : LineText b) : LineText (a ++ b) where
  encoding := ha.encoding.append hb.encoding
  single := List.forall_mem_append.mpr ⟨ha.single, hb.single⟩

theorem lineText_of_all {s : Str} (h : (s.all fun c => isAscii c && !Json.isControl c) = true) :
    LineText s := by
  have hc : ∀ c ∈ s, isAscii c = true ∧ Json.isControl c = false := fun c hc => by
    simpa using List.all_eq_true.mp h c hc
  exact ⟨utf8_of_ascii fun c h => (hc c h).1, fun c h => (hc c h).2⟩

theorem PlainText.lineText {s : Str} (h : PlainText s) : LineText s := by
  refine ⟨h.encoding, fun c hc => ?_⟩
  have hplain := h.plain c hc
  simp only [Json.isPlain, Bool.and_eq_true, Bool.not_eq_true'] at hplain
  exact hplain.1.1

theorem plainText_of_all {s : Str} (h : (s.all fun c => isAscii c && Json.isPlain c) = true) :
    PlainText s := by
  have hc : ∀ c ∈ s, isAscii c = true ∧ Json.isPlain c = true := fun c hc => by
    simpa using List.all_eq_true.mp h c hc
  exact ⟨utf8_of_ascii fun c h => (hc c h).1, fun c h => (hc c h).2⟩

theorem levelToString_plain (level : LogLevel) : PlainText (levelToString level) := by
  cases level
  all_goals exact plainText_of_all rfl

theorem toDecimalInt_lineText (i : Int) : LineText (toDecimalInt i) := by
  have hdigits : (toDecimal i.natAbs).all (fun c => isAscii c && !Json.isControl c) = true := by
    rw [List.all_eq_true]
    intro c hc
    have hdigit := isDigit_of_mem_toDecimal hc
    revert hdigit
    exact forall_uint8 (by decide +kernel) c
  unfold toDecimalInt
  split_ifs
  · exact lineText_of_all (by rw [List.all_cons, hdigits]; rfl)
  · exact lineText_of_all hdigits

/-- An ASCII character splits a line. -/
theorem lineText_append_cons {a b : Str} {c : UInt8} (hascii : isAscii c = true)
    (hcontrol : Json.isControl c = false) :
    LineText (a ++ c :: b) ↔ LineText a ∧ LineText b := by
  constructor
  · rintro ⟨hencoding, hsingle⟩
    obtain ⟨ha, hb⟩ := (utf8_append_cons hascii).mp hencoding
    rw [List.forall_mem_append, List.forall_mem_cons] at hsingle
    exact ⟨⟨ha, hsingle.1⟩, ⟨hb, hsingle.2.2⟩⟩
  · rintro ⟨ha, hb⟩
    have hc : LineText [c] := lineText_of_all (by rw [List.all_cons, hascii, hcontrol]; rfl)
    exact ha.append (hc.append hb)

theorem lineText_prefix {pre : Str} (h : (pre.all fun c => isAscii c && !Json.isControl c) = true)
    (s : Str) : LineText (pre ++ s) ↔ LineText s := by
  constructor
  · rintro ⟨hencoding, hsingle⟩
    have hascii : ∀ c ∈ pre, isAscii c = true := fun c hc =>
      (Bool.and_eq_true_iff.mp (List.all_eq_true.mp h c hc)).1
    exact ⟨(utf8_ascii_append hascii s).mp hencoding, (List.forall_mem_append.mp hsingle).2⟩
  · exact (lineText_of_all h).append

/-- Backslashes split no character; induction on the message. -/
theorem utf8_append_quote (a s : Str) : Utf8 (a ++ Json.quote s) ↔ Utf8 (a ++ s) := by
  induction s generalizing a with
  | nil => rfl
  | cons c s ih =>
    by_cases h : c = '\\'.toUInt8 ∨ c = '"'.toUInt8
    · have hc : isAscii c = true := by
        obtain rfl | rfl := h <;> rfl
      have hrest : Utf8 (c :: Json.quote s) ↔ Utf8 s :=
        (ih [c]).trans ((utf8_append_cons (a := []) hc).trans (and_iff_right utf8_nil))
      rw [Json.quote_cons_special h, utf8_append_cons rfl, hrest, utf8_append_cons hc]
    · have happend := ih (a ++ [c])
      rw [List.append_assoc, List.append_assoc] at happend
      rw [Json.quote_cons_other h]
      exact happend

theorem single_quote (s : Str) :
    (∀ c ∈ Json.quote s, Json.isControl c = false) ↔ ∀ c ∈ s, Json.isControl c = false := by
  induction s with
  | nil => rfl
  | cons c s ih =>
    by_cases h : c = '\\'.toUInt8 ∨ c = '"'.toUInt8
    · have hmark : Json.isControl '\\'.toUInt8 = false := rfl
      rw [Json.quote_cons_special h, List.forall_mem_cons, List.forall_mem_cons,
        List.forall_mem_cons, ih, and_iff_right hmark]
    · rw [Json.quote_cons_other h, List.forall_mem_cons, List.forall_mem_cons, ih]

theorem lineText_quote (s : Str) : LineText (Json.quote s) ↔ LineText s := by
  constructor
  · rintro ⟨hencoding, hsingle⟩
    exact ⟨(utf8_append_quote [] s).mp hencoding, (single_quote s).mp hsingle⟩
  · rintro ⟨hencoding, hsingle⟩
    exact ⟨(utf8_append_quote [] s).mpr hencoding, (single_quote s).mpr hsingle⟩

theorem headText_lineText (htime : PlainText timestamp) (hthread : PlainText threadId)
    (level : LogLevel) : LineText (headText timestamp threadId level) := by
  have hlevel := (levelToString_plain level).lineText
  unfold headText
  refine ((LineText.append ?_ ?_).append ?_).append ?_
  · exact lineText_of_all rfl
  · exact ((lineText_of_all rfl).append htime.lineText).append (lineText_of_all rfl)
  · exact ((lineText_of_all rfl).append hlevel).append (lineText_of_all rfl)
  · exact ((lineText_of_all rfl).append hthread.lineText).append (lineText_of_all rfl)

theorem lineText_sourceText (a : Str) :
    LineText (a ++ sourceText file line) ↔ LineText a ∧ LineText file := by
  unfold sourceText
  cases file with
  | nil =>
    rw [List.isEmpty_nil, Bool.not_true, if_neg Bool.false_ne_true, List.append_nil]
    exact (and_iff_left (lineText_of_all rfl)).symm
  | cons c file =>
    have hrest : LineText (lit ",\"line\":" ++ (toDecimalInt line ++ lit "\x7d,")) :=
      (lineText_of_all rfl).append ((toDecimalInt_lineText line).append (lineText_of_all rfl))
    have hsplit : lit "\"source\":\x7b\"file\":\"" ++ c :: file ++ lit "\",\"line\":" ++
        toDecimalInt line ++ lit "\x7d," = '"'.toUInt8 ::
          (lit "source\":\x7b\"file\":\"" ++ (c :: file ++ '"'.toUInt8 ::
            (lit ",\"line\":" ++ (toDecimalInt line ++ lit "\x7d,")))) := by
      simp only [List.append_assoc]
      rfl
    rw [List.isEmpty_cons, Bool.not_false, if_pos rfl, hsplit, lineText_append_cons rfl rfl,
      lineText_prefix rfl, lineText_append_cons rfl rfl, and_iff_left hrest]

theorem lineText_messageText (a : Str) :
    LineText (a ++ messageText message) ↔ LineText a ∧ LineText message := by
  have hend : LineText (lit "\x7d") := lineText_of_all rfl
  have hsplit : messageText message = '"'.toUInt8 :: (lit "msg\":\"" ++
      (Json.quote message ++ '"'.toUInt8 :: lit "\x7d")) := by
    rw [messageText, List.append_assoc]
    rfl
  rw [hsplit, lineText_append_cons rfl rfl, lineText_prefix rfl, lineText_append_cons rfl rfl,
    and_iff_left hend, lineText_quote]

/-- **One line.** What is written for a message is one exactly when the message and the
name of the file are. -/
theorem lineText_formatMessage (hjson : logger.structuredJson = true)
    (htime : PlainText timestamp) (hthread : PlainText threadId) :
    LineText (logger.formatMessage timestamp threadId level message file line) ↔
      LineText message ∧ LineText file := by
  have hhead := headText_lineText htime hthread level
  rw [formatMessage_eq hjson, lineText_messageText, lineText_sourceText, and_iff_right hhead,
    and_comm]

/-! ### The object -/

open Json in
/-- A member whose value is a string, and the comma behind it. -/
theorem run_field {opening name s : Str} (hopening : opening = nameText name ++ ['"'.toUInt8])
    (hname : ∀ c ∈ name, isPlain c = true) (hs : ∀ c ∈ s, isPlain c = true)
    {members : List Member} {stack : List Frame} {mode : Mode}
    (hmode : mode = .firstName ∨ mode = .name) :
    run ⟨.object members :: stack, mode⟩ (opening ++ s ++ lit "\",") =
      some ⟨.object (members ++ [(name.map .byte, .string (s.map .byte))]) :: stack, .name⟩ := by
  have hopen : run ⟨.object members :: stack, mode⟩ opening =
      some ⟨.member members (name.map .byte) :: stack, .string false [] .none⟩ := by
    rw [hopening, run_append, run_name hname hmode]
    rfl
  rw [run_append, run_append, hopen]
  show ((run _ s).bind _) = _
  rw [run_plain hs]
  rfl

/-- The members in front of the source and the message. -/
def headMembers (timestamp threadId : Str) (level : LogLevel) : List Json.Member :=
  [((lit "ts").map .byte, .string (timestamp.map .byte)),
    ((lit "level").map .byte, .string ((levelToString level).map .byte)),
    ((lit "thread").map .byte, .string (threadId.map .byte))]

theorem run_headText (htime : PlainText timestamp) (hthread : PlainText threadId)
    (level : LogLevel) :
    Json.run ⟨[], .value⟩ (headText timestamp threadId level) =
      some ⟨[.object (headMembers timestamp threadId level)], .name⟩ := by
  have hopen : Json.run ⟨[], .value⟩ (lit "\x7b") = some ⟨[.object []], .firstName⟩ := rfl
  have hts : lit "\"ts\":\"" = Json.nameText (lit "ts") ++ ['"'.toUInt8] := rfl
  have hlevel : lit "\"level\":\"" = Json.nameText (lit "level") ++ ['"'.toUInt8] := rfl
  have hthreadName : lit "\"thread\":\"" = Json.nameText (lit "thread") ++ ['"'.toUInt8] := rfl
  rw [headText, Json.run_append, Json.run_append, Json.run_append, hopen, Option.bind_some,
    run_field hts (plainText_of_all rfl).plain htime.plain (.inl rfl), Option.bind_some,
    run_field hlevel (plainText_of_all rfl).plain (levelToString_plain level).plain (.inr rfl),
    Option.bind_some, run_field hthreadName (plainText_of_all rfl).plain hthread.plain (.inr rfl)]
  rfl

/-- Where the name of a file begins: in a string that is the value of the member `file`
of the object `source`, which is a member of the record. -/
def fileStart : Json.State :=
  ⟨[.member [] ((lit "file").map .byte), .member [] ((lit "source").map .byte)],
    .string false [] .none⟩

theorem run_sourceOpening (members : List Json.Member) :
    Json.run ⟨[.object members], .name⟩ (lit "\"source\":\x7b\"file\":\"") =
      some (fileStart.prepend members) := by
  have hopening : lit "\"source\":\x7b\"file\":\"" = Json.nameText (lit "source") ++
      ('\x7b'.toUInt8 :: (Json.nameText (lit "file") ++ ['"'.toUInt8])) := rfl
  have hstart : fileStart.prepend members = ⟨[.member [] ((lit "file").map .byte),
      .member members ((lit "source").map .byte)], .string false [] .none⟩ := by
    show Json.State.mk [_, .member (members ++ []) _] _ = _
    rw [List.append_nil]
    rfl
  rw [hopening, Json.run_append, Json.run_name (plainText_of_all rfl).plain (.inr rfl),
    Option.bind_some, hstart]
  show Json.run ⟨[.object [], .member members _], .firstName⟩ _ = _
  rw [Json.run_append, Json.run_name (plainText_of_all rfl).plain (.inl rfl)]
  rfl

/-- The message as the last member of the record. -/
def messageMember (message : Str) : Json.Member :=
  ((lit "msg").map .byte, .string (message.map .byte))

/-- The message and the end, behind the name of its member. -/
def messageEnd (message : Str) : Str :=
  '"'.toUInt8 :: Json.quote message ++ ['"'.toUInt8] ++ ['\x7d'.toUInt8]

theorem run_messageEnd (members : List Json.Member) (stack : List Json.Frame) :
    (Json.run ⟨.member members ((lit "msg").map .byte) :: stack, .value⟩
        (messageEnd message)).bind Json.finish =
      if !message.any Json.isControl && stack.isEmpty then
        some (.object (members ++ [messageMember message]))
      else none := by
  rw [messageEnd, Json.run_lastString]
  cases message.any Json.isControl with
  | true => rfl
  | false => exact Json.finish_complete _ stack

/-- After a value the message goes on only in the record. -/
theorem complete_message (v : Json.Value) (stack : List Json.Frame) :
    ((Json.complete v stack).bind fun st =>
        (Json.run st (','.toUInt8 :: Json.nameText (lit "msg") ++ messageEnd message)).bind
          Json.finish) =
      match stack with
      | [.member members name] =>
        if !message.any Json.isControl then
          some (.object (members ++ [(name, v)] ++ [messageMember message]))
        else none
      | _ => none := by
  have hassoc : ((Json.complete v stack).bind fun st =>
        (Json.run st (','.toUInt8 :: Json.nameText (lit "msg") ++ messageEnd message)).bind
          Json.finish) =
      ((Json.complete v stack).bind fun st =>
          Json.run st (','.toUInt8 :: Json.nameText (lit "msg"))).bind
        fun st => (Json.run st (messageEnd message)).bind Json.finish := by
    simp only [Json.run_append, Option.bind_assoc]
  rw [hassoc, Json.complete_nextName (plainText_of_all rfl).plain]
  match stack with
  | [] | .array _ :: _ | .object _ :: _ => rfl
  | [.member members name] =>
    refine (run_messageEnd (members ++ [(name, v)]) []).trans ?_
    rw [List.isEmpty_nil, Bool.and_true]
  | .member members name :: _ :: _ =>
    refine (run_messageEnd (members ++ [(name, v)]) _).trans ?_
    rw [List.isEmpty_cons, Bool.and_false]
    rfl

/-- What is read behind the name of the file. -/
theorem run_behindFile (st : Json.State) :
    (Json.run st (lit "\",\"line\":" ++ toDecimalInt line ++ lit "\x7d," ++
        messageText message)).bind Json.finish =
      match st with
      | ⟨[.member members name, .member outer outerName], .string false content .none⟩ =>
        if !message.any Json.isControl then
          some (.object (outer ++ [(outerName, .object (members ++ [(name, .string content)] ++
            [((lit "line").map .byte, .scalar (toDecimalInt line))]))] ++ [messageMember message]))
        else none
      | _ => none := by
  have hletter : Json.isLetter 'l'.toUInt8 = true := rfl
  have hname : ∀ c ∈ 'l'.toUInt8 :: lit "ine", Json.isPlain c = true :=
    (plainText_of_all rfl).plain
  have hsplit : lit "\",\"line\":" ++ toDecimalInt line ++ lit "\x7d," ++ messageText message =
      ('"'.toUInt8 :: ','.toUInt8 :: Json.nameText ('l'.toUInt8 :: lit "ine")) ++
        ((toDecimalInt line ++ ['\x7d'.toUInt8]) ++
          (','.toUInt8 :: Json.nameText (lit "msg") ++ messageEnd message)) := by
    simp only [messageText, messageEnd, List.append_assoc, List.cons_append]
    rfl
  rw [hsplit, Json.run_append, Json.run_endString hletter hname st]
  split
  · rename_i members name stack content
    rw [Option.bind_some, Json.run_append, Json.run_lastInteger, Option.bind_assoc]
    refine (complete_message _ stack).trans ?_
    match stack with
    | [] | .array _ :: _ | .object _ :: _ | [.member _ _] | .member _ _ :: _ :: _ => rfl
  · rename_i hother
    split
    · exact absurd rfl (hother _ _ _ _)
    · rfl

/-- The members of a record whose file is read as such a one. -/
def recordMembers (before outer members : List Json.Member)
    (outerName name content : List Json.Piece) (line : Int) (message : Str) :
    List Json.Member :=
  before ++ outer ++ [(outerName, .object (members ++ [(name, .string content)] ++
    [((lit "line").map .byte, .scalar (toDecimalInt line))]))] ++ [messageMember message]

/-- The name of a file goes on inside the string it begins in: read from there, it ends
in the value of a member of an object that is a member of the record, and no member
it gives the record is called `msg`. -/
def StaysInside (file : Str) : Prop :=
  ∃ members name outer outerName content,
    Json.run fileStart file =
      some ⟨[.member members name, .member outer outerName], .string false content .none⟩ ∧
    Json.values (lit "msg") outer = [] ∧ Json.decode outerName ≠ some (lit "msg")

/-- An object that ends with the message has no other one when its other members are
called something else. -/
theorem values_messageMember (members : List Json.Member) (content : List Json.Piece) :
    Json.values (lit "msg") (members ++ [messageMember message]) = [.string content] ↔
      Json.values (lit "msg") members = [] ∧ content = message.map .byte := by
  have hvalues : Json.values (lit "msg") [messageMember message] =
      [.string (message.map .byte)] := rfl
  rw [Json.values_append, hvalues, List.append_eq_singleton_iff]
  constructor
  · rintro (⟨hnil, heq⟩ | ⟨-, hnil⟩)
    · cases heq
      exact ⟨hnil, rfl⟩
    · cases hnil
  · rintro ⟨hnil, rfl⟩
    exact .inl ⟨hnil, rfl⟩

theorem values_headMembers :
    Json.values (lit "msg") (headMembers timestamp threadId level) = [] := rfl

theorem eq_of_prepend {pre outer members : List Json.Member}
    {name outerName content : List Json.Piece} {st : Json.State} (h : st.prepend pre =
      ⟨[.member members name, .member outer outerName], .string false content .none⟩) :
    ∃ inner, outer = pre ++ inner ∧
      st = ⟨[.member members name, .member inner outerName], .string false content .none⟩ := by
  obtain ⟨stack, mode⟩ := st
  obtain ⟨hstack, hmode⟩ := Json.State.mk.inj h
  cases mode with
  | string _ _ _ =>
    cases hmode
    have hlength : stack.length = 2 := by
      rw [← Json.length_prependLast pre]
      exact congrArg List.length hstack
    obtain ⟨f, g, rfl⟩ := List.length_eq_two.mp hlength
    obtain ⟨rfl, hlast⟩ := List.cons.inj hstack
    cases g with
    | array items => cases hlast
    | object inner => cases hlast
    | member inner k =>
      cases hlast
      exact ⟨inner, rfl, rfl⟩
  | _ => cases hmode

theorem read_formatMessage_nil (hjson : logger.structuredJson = true)
    (htime : PlainText timestamp) (hthread : PlainText threadId) :
    Json.read (logger.formatMessage timestamp threadId level message [] line) =
      if !message.any Json.isControl then
        some (.object (headMembers timestamp threadId level ++ [messageMember message]))
      else none := by
  have hmessage : messageText message = Json.nameText (lit "msg") ++ messageEnd message := by
    simp only [messageText, messageEnd, Json.nameText, List.append_assoc]
    rfl
  rw [formatMessage_eq hjson, Json.read, Json.run_append, Json.run_append,
    run_headText htime hthread, hmessage]
  show ((Json.run _ (Json.nameText (lit "msg") ++ messageEnd message)).bind _) = _
  rw [Json.run_append, Json.run_name (plainText_of_all rfl).plain (.inr rfl), Option.bind_some]
  refine (run_messageEnd _ []).trans ?_
  rw [List.isEmpty_nil, Bool.and_true]

theorem read_formatMessage_cons (hjson : logger.structuredJson = true)
    (htime : PlainText timestamp) (hthread : PlainText threadId) (hfile : file ≠ []) :
    Json.read (logger.formatMessage timestamp threadId level message file line) =
      (Json.run fileStart file).bind fun st =>
        (Json.run (st.prepend (headMembers timestamp threadId level))
          (lit "\",\"line\":" ++ toDecimalInt line ++ lit "\x7d," ++ messageText message)).bind
            Json.finish := by
  have hbegun : fileStart.Begun := Json.begun_cons
  have hsource : sourceText file line = lit "\"source\":\x7b\"file\":\"" ++ (file ++
      (lit "\",\"line\":" ++ toDecimalInt line ++ lit "\x7d,")) := by
    rw [sourceText, Bool.eq_false_iff.mpr fun hnil => hfile (List.isEmpty_iff.mp hnil)]
    simp only [Bool.not_false, if_true, List.append_assoc]
  rw [formatMessage_eq hjson, Json.read, hsource, List.append_assoc, List.append_assoc,
    List.append_assoc file, Json.run_append, run_headText htime hthread, Option.bind_some,
    Json.run_append, run_sourceOpening, Option.bind_some, Json.run_append,
    Json.run_prepend _ hbegun, Option.bind_map, Option.bind_assoc]
  rfl

theorem holdsMessage_nil (hjson : logger.structuredJson = true)
    (htime : PlainText timestamp) (hthread : PlainText threadId) :
    HoldsMessage message (logger.formatMessage timestamp threadId level message [] line) ↔
      message.any Json.isControl = false := by
  rw [HoldsMessage, read_formatMessage_nil hjson htime hthread]
  cases message.any Json.isControl with
  | true =>
    rw [Bool.not_true, if_neg Bool.false_ne_true]
    simp only [reduceCtorEq, false_and, exists_const]
  | false =>
    refine iff_of_true ⟨_, _, rfl, ?_, Json.decode_bytes message⟩ rfl
    exact (values_messageMember _ _).mpr ⟨values_headMembers, rfl⟩

theorem values_recordMembers {outer members : List Json.Member}
    {outerName name content content' : List Json.Piece} :
    Json.values (lit "msg") (recordMembers (headMembers timestamp threadId level) outer members
        outerName name content line message) = [.string content'] ↔
      (Json.values (lit "msg") outer = [] ∧ Json.decode outerName ≠ some (lit "msg")) ∧
        content' = message.map .byte := by
  rw [recordMembers, values_messageMember, Json.values_append, Json.values_append,
    values_headMembers, List.nil_append, List.append_eq_nil_iff, Json.values_singleton]

theorem holdsMessage_cons (hjson : logger.structuredJson = true)
    (htime : PlainText timestamp) (hthread : PlainText threadId) (hfile : file ≠ []) :
    HoldsMessage message (logger.formatMessage timestamp threadId level message file line) ↔
      message.any Json.isControl = false ∧ StaysInside file := by
  rw [HoldsMessage, read_formatMessage_cons hjson htime hthread hfile]
  constructor
  · rintro ⟨fields, content', hread, hvalues, -⟩
    obtain ⟨st, hst, hrest⟩ := Option.bind_eq_some_iff.mp hread
    rw [run_behindFile] at hrest
    split at hrest
    · rename_i members name outer outerName content heq
      obtain ⟨inner, rfl, rfl⟩ := eq_of_prepend heq
      cases hcontrol : message.any Json.isControl with
      | true =>
        rw [hcontrol] at hrest
        cases hrest
      | false =>
        rw [hcontrol] at hrest
        cases hrest
        exact ⟨rfl, members, name, inner, outerName, content, hst,
          (values_recordMembers.mp hvalues).1⟩
    · cases hrest
  · rintro ⟨hcontrol, members, name, outer, outerName, content, hst, hnames⟩
    refine ⟨recordMembers (headMembers timestamp threadId level) outer members outerName name
      content line message, message.map .byte, ?_, values_recordMembers.mpr ⟨hnames, rfl⟩,
      Json.decode_bytes message⟩
    rw [hst, Option.bind_some, run_behindFile]
    show ite _ _ _ = _
    rw [hcontrol]
    rfl

/-! ## Which lines are records -/

/-- **Structured lines.** For every level, line number, message and file name: what is
written is a record of the message exactly when the message and the file name are texts
of one line and the file name, where there is one, stays inside its string. -/
theorem formatMessage_isLogRecord_iff (hjson : logger.structuredJson = true)
    (htime : PlainText timestamp) (hthread : PlainText threadId) (level : LogLevel)
    (message file : Str) (line : Int) :
    IsLogRecord message (logger.formatMessage timestamp threadId level message file line) ↔
      LineText message ∧ LineText file ∧ (file = [] ∨ StaysInside file) := by
  have htext : LineText (logger.formatMessage timestamp threadId level message file line) ↔
      LineText message ∧ LineText file := lineText_formatMessage hjson htime hthread
  have hcontrol : LineText message → message.any Json.isControl = false := fun h =>
    List.any_eq_false.mpr fun c hc => Bool.eq_false_iff.mp (h.single c hc)
  constructor
  · rintro ⟨hline, hmessage⟩
    obtain ⟨hm, hf⟩ := htext.mp hline
    refine ⟨hm, hf, ?_⟩
    by_cases hfile : file = []
    · exact .inl hfile
    · exact .inr ((holdsMessage_cons hjson htime hthread hfile).mp hmessage).2
  · rintro ⟨hm, hf, hfile⟩
    refine ⟨htext.mpr ⟨hm, hf⟩, ?_⟩
    obtain rfl | hinside := hfile
    · exact (holdsMessage_nil hjson htime hthread).mpr (hcontrol hm)
    · by_cases hnil : file = []
      · subst hnil
        exact (holdsMessage_nil hjson htime hthread).mpr (hcontrol hm)
      · exact (holdsMessage_cons hjson htime hthread hnil).mpr ⟨hcontrol hm, hinside⟩

/-- A file name without special characters stays inside. -/
theorem staysInside_of_plain (h : PlainText file) : StaysInside file :=
  ⟨[], _, [], _, _, Json.run_plain h.plain [], rfl, by decide⟩

/-- A warning with quotation marks and a backslash. -/
theorem formatMessage_isLogRecord_warning :
    IsLogRecord (lit "no \"a\\b\"")
      ({ NtpServer.loggerSettings .defaults with structuredJson := true }.formatMessage
        (lit "2024-05-01 12:00:00.250") (lit "139") .warning (lit "no \"a\\b\"") (lit "main.cpp")
        (-3)) :=
  (formatMessage_isLogRecord_iff rfl (plainText_of_all (by decide)) (plainText_of_all (by decide))
    .warning _ _ _).mpr
      ⟨lineText_of_all (by decide), lineText_of_all (by decide),
        .inr (staysInside_of_plain (plainText_of_all (by decide)))⟩

/-! ## The configuration at start-up -/

/-- A record has no message with control characters, whatever the rest of it is. -/
theorem IsLogRecord.single_message (hjson : logger.structuredJson = true)
    (h : IsLogRecord message (logger.formatMessage timestamp threadId level message file line)) :
    ∀ c ∈ message, Json.isControl c = false := by
  have hsingle := h.text.single
  rw [formatMessage_eq hjson, messageText] at hsingle
  simp only [List.forall_mem_append] at hsingle
  exact (single_quote message).mp hsingle.2.1.2

/-- The code of an authentication algorithm. -/
def AuthAlgorithm.code : AuthAlgorithm → Int
  | none => 0
  | md5 => 1
  | sha1 => 2
  | sha256 => 3
  | other code => code

/-- The code of a selection algorithm. -/
def UpstreamSelectionAlgorithm.code : UpstreamSelectionAlgorithm → Int
  | roundRobin => 0
  | random => 1
  | leastErrors => 2
  | other code => code

/-- A setting that is on or off. -/
def yesNo (b : Bool) : Str := if b then lit "Yes" else lit "No"

/-- The lines of the dump (config.cpp:224–260). -/
def NtpConfig.dumpLines (c : NtpConfig) : List Str :=
  [lit "NTP Configuration:",
    lit "  Listen Address: " ++ c.listenAddress ++ lit ":" ++ toDecimal c.listenPort.toNat,
    lit "  IPv6 Enabled: " ++ yesNo c.enableIpv6,
    lit "  Max Connections: " ++ toDecimalInt c.maxConnections,
    lit "  Stratum: " ++ toDecimal c.stratum.toNat,
    lit "  Reference Clock: " ++ c.referenceClock,
    lit "  Reference ID: " ++ c.referenceId,
    lit "  Worker Threads: " ++ toDecimal c.workerThreads.toNat,
    lit "  Log Level: " ++ toDecimalInt c.logLevel.code,
    lit "  Log File: " ++ c.logFile,
    lit "  Console Logging: " ++ yesNo c.enableConsoleLogging,
    lit "  Syslog: " ++ yesNo c.enableSyslog,
    lit "  Authentication: " ++ yesNo c.enableAuthentication,
    lit "  Auth Algorithm: " ++ toDecimalInt c.authenticationAlgorithm.code,
    lit "  ACL Enabled: " ++ yesNo c.enableAcl,
    lit "  Rate Limiting: " ++ yesNo c.enableRateLimiting,
    lit "  DDoS Protection: " ++ yesNo c.enableDdosProtection,
    lit "  TLS Enabled: " ++ yesNo c.enableTls,
    lit "  Cert Validation: " ++ yesNo c.enableCertificateValidation,
    lit "  Cert Auth: " ++ yesNo c.enableCertificateAuthentication,
    lit "  Statistics: " ++ yesNo c.enableStatistics,
    lit "  Drift Compensation: " ++ yesNo c.enableDriftCompensation,
    lit "  Leap Second Handling: " ++ yesNo c.enableLeapSecondHandling,
    lit "  Automatic Failover: " ++ yesNo c.enableAutomaticFailover,
    lit "  Self Healing: " ++ yesNo c.enableSelfHealing,
    lit "  Graceful Degradation: " ++ yesNo c.enableGracefulDegradation,
    lit "  Upstream Selection Algorithm: " ++ toDecimalInt c.upstreamSelectionAlgorithm.code,
    lit "  Dynamic Stratum: " ++ yesNo c.enableDynamicStratumAdjustment,
    lit "  Reference Clock Support: " ++ yesNo c.enableReferenceClockSupport]

/-- `NtpConfig::toString`. -/
def NtpConfig.toString (c : NtpConfig) : Str := c.dumpLines.flatMap fun text => text ++ lit "\n"

/-- The message `main` logs at start-up (production.cpp:322). -/
def startupMessage (c : NtpConfig) : Str := lit "Configuration: " ++ c.toString

/-- **The dump is no record**, of any configuration: its lines end with line breaks. -/
theorem startupMessage_not_record (c : NtpConfig) (hjson : logger.structuredJson = true) :
    ¬IsLogRecord (startupMessage c)
      (logger.formatMessage timestamp threadId .info (startupMessage c) [] 0) := by
  intro h
  have hbreak : '\n'.toUInt8 ∈ startupMessage c := by
    refine List.mem_append_right _ (List.mem_flatMap.mpr ⟨lit "NTP Configuration:", ?_, ?_⟩)
    · exact List.mem_cons_self
    · exact List.mem_append_right _ List.mem_cons_self
  exact absurd (h.single_message hjson _ hbreak) (by decide)

/-- The first start of the daemon with `log_json` set. -/
theorem startupMessage_defaults :
    let c := { NtpConfig.defaults with logJson := true }
    (NtpServer.loggerSettings c).structuredJson = true ∧ PlainText (lit "2024-05-01 12:00:00.250") ∧
      PlainText (lit "139") ∧
      ¬IsLogRecord (startupMessage c) ((NtpServer.loggerSettings c).formatMessage
        (lit "2024-05-01 12:00:00.250") (lit "139") .info (startupMessage c) [] 0) :=
  ⟨rfl, plainText_of_all (by decide), plainText_of_all (by decide),
    startupMessage_not_record _ rfl⟩

end SimpleNtpd
