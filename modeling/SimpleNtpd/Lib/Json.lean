import SimpleNtpd.Lib.CppString

/-!
# Reading JSON

A reader of JSON texts, one byte at a time. Where it is in a text is a stack of the
arrays and objects that are open, the innermost first, and what it expects next
(`State`); `step` reads a byte, or refuses it where no JSON text can go on with it,
so that the texts `read` takes are those of RFC 8259. That they are UTF-8 is a
question of its own and not asked here: a string gives the bytes it was written
with, and `decode` the bytes it stands for.

A run splits with its text (`run_append`). What is read of a whole piece is then
said once for each kind of piece: a quoted string (`run_quote`), the name of a
member (`run_name`), an integer (`run_integer`). What an open object already holds
does not change how the rest is read (`run_prepend`).
-/

namespace Json

open Cpp

/-! ## Values -/

/-- A piece of a string: a byte, as it stands or after a backslash, or the UTF-16
unit of a `\u` escape. -/
inductive Piece where
  | byte (b : UInt8)
  | unit (u : Nat)
  deriving DecidableEq, Repr

/-- A JSON value. A number, `true`, `false` and `null` are given by their text. -/
inductive Value where
  | scalar (text : Str)
  | string (content : List Piece)
  | array (items : List Value)
  | object (members : List (List Piece × Value))

/-- A member of an object: its name and its value. -/
abbrev Member := List Piece × Value

/-- The UTF-8 encoding of a code point. -/
def encode (n : Nat) : Str := String.utf8EncodeChar (Char.ofNat n)

/-- The bytes a string stands for. Two units from the surrogates are one character;
one of them alone is none. -/
def decode : List Piece → Option Str
  | [] => some []
  | .byte b :: ps => (decode ps).map (b :: ·)
  | .unit u :: .unit w :: ps =>
    if 0xd800 ≤ u ∧ u < 0xdc00 then
      if 0xdc00 ≤ w ∧ w < 0xe000 then
        (decode ps).map (encode (0x10000 + (u - 0xd800) * 0x400 + (w - 0xdc00)) ++ ·)
      else none
    else if 0xdc00 ≤ u ∧ u < 0xe000 then none
    else (decode (.unit w :: ps)).map (encode u ++ ·)
  | .unit u :: ps =>
    if 0xd800 ≤ u ∧ u < 0xe000 then none else (decode ps).map (encode u ++ ·)

/-- The values an object has under a name. -/
def values (name : Str) (members : List Member) : List Value :=
  (members.filter fun m => decode m.1 = some name).map Prod.snd

theorem values_append (name : Str) (a b : List Member) :
    values name (a ++ b) = values name a ++ values name b := by
  rw [values, List.filter_append, List.map_append]
  rfl

theorem values_singleton {name : Str} {m : Member} :
    values name [m] = [] ↔ decode m.1 ≠ some name := by
  rw [values, List.map_eq_nil_iff, List.filter_eq_nil_iff, List.forall_mem_singleton,
    decide_eq_true_eq]

/-! ## The reader -/

/-- An array or an object that is open. In an object a member is open as well when
its name has been read and its value has not. -/
inductive Frame where
  | array (items : List Value)
  | object (members : List Member)
  | member (members : List Member) (name : List Piece)

/-- How far a number has been read: its sign, a leading zero, other digits in front
of the point, the point, the digits behind it, the `e`, its sign, its digits. -/
inductive NumberPart where
  | minus | zero | integer | point | fraction | exponent | exponentSign | power
  deriving DecidableEq, Repr

/-- How far an escape in a string has been read. -/
inductive Escape where
  | none
  | backslash
  | hex (digits : List Nat)
  deriving DecidableEq, Repr

/-- The values that are names. -/
inductive Word where
  | truth | falsity | null
  deriving DecidableEq, Repr

def Word.text : Word → Str
  | .truth => lit "true"
  | .falsity => lit "false"
  | .null => lit "null"

/-- What the reader expects or is in the middle of. -/
inductive Mode where
  | value
  | firstItem
  | firstName
  | name
  | colon (name : List Piece)
  | after
  | string (isName : Bool) (content : List Piece) (escape : Escape)
  | number (text : Str) (part : NumberPart)
  | word (word : Word) (length : Nat)
  | done (value : Value)

structure State where
  stack : List Frame
  mode : Mode

/-- White space between two tokens. -/
def isWhite (b : UInt8) : Bool := b == 0x20 || b == 0x09 || b == 0x0a || b == 0x0d

/-- A fraction or an exponent may follow. -/
def pointOrExponent (b : UInt8) : Option NumberPart :=
  if b = '.'.toUInt8 then some .point
  else if b = 'e'.toUInt8 ∨ b = 'E'.toUInt8 then some .exponent
  else none

/-- The next character of a number; `none` where it does not go on. -/
def NumberPart.next (part : NumberPart) (b : UInt8) : Option NumberPart :=
  match part with
  | .minus =>
    if b = '0'.toUInt8 then some .zero else if isDigit b then some .integer else none
  | .zero => pointOrExponent b
  | .integer => if isDigit b then some .integer else pointOrExponent b
  | .point => if isDigit b then some .fraction else none
  | .fraction =>
    if isDigit b then some .fraction
    else if b = 'e'.toUInt8 ∨ b = 'E'.toUInt8 then some .exponent
    else none
  | .exponent =>
    if b = '+'.toUInt8 ∨ b = '-'.toUInt8 then some .exponentSign
    else if isDigit b then some .power
    else none
  | .exponentSign => if isDigit b then some .power else none
  | .power => if isDigit b then some .power else none

/-- The number may end here. -/
def NumberPart.isEnd : NumberPart → Bool
  | .zero | .integer | .fraction | .power => true
  | .minus | .point | .exponent | .exponentSign => false

/-- The byte a backslash and a letter stand for. -/
def escaped (b : UInt8) : Option UInt8 :=
  if b = '"'.toUInt8 ∨ b = '\\'.toUInt8 ∨ b = '/'.toUInt8 then some b
  else if b = 'b'.toUInt8 then some 0x08
  else if b = 'f'.toUInt8 then some 0x0c
  else if b = 'n'.toUInt8 then some 0x0a
  else if b = 'r'.toUInt8 then some 0x0d
  else if b = 't'.toUInt8 then some 0x09
  else none

/-- The value of a hexadecimal digit. -/
def hexDigit (b : UInt8) : Option Nat :=
  if isDigit b then some (b.toNat - 0x30)
  else if 'a'.toUInt8 ≤ b ∧ b ≤ 'f'.toUInt8 then some (b.toNat - 0x61 + 10)
  else if 'A'.toUInt8 ≤ b ∧ b ≤ 'F'.toUInt8 then some (b.toNat - 0x41 + 10)
  else none

/-- The number of some hexadecimal digits, the first one first. -/
def hexValue (digits : List Nat) : Nat := digits.foldl (fun n d => 16 * n + d) 0

/-- A value is read: it goes to where it stands. -/
def complete (v : Value) : List Frame → Option State
  | [] => some ⟨[], .done v⟩
  | .array items :: stack => some ⟨.array (items ++ [v]) :: stack, .after⟩
  | .member members name :: stack => some ⟨.object (members ++ [(name, v)]) :: stack, .after⟩
  | .object _ :: _ => none

/-- A closing bracket. -/
def close (stack : List Frame) (b : UInt8) : Option State :=
  match stack with
  | .array items :: stack => if b = ']'.toUInt8 then complete (.array items) stack else none
  | .object members :: stack =>
    if b = '\x7d'.toUInt8 then complete (.object members) stack else none
  | _ => none

/-- The first character of a value. -/
def beginValue (stack : List Frame) (b : UInt8) : Option State :=
  if b = '"'.toUInt8 then some ⟨stack, .string false [] .none⟩
  else if b = '\x7b'.toUInt8 then some ⟨.object [] :: stack, .firstName⟩
  else if b = '['.toUInt8 then some ⟨.array [] :: stack, .firstItem⟩
  else if b = '-'.toUInt8 then some ⟨stack, .number [b] .minus⟩
  else if b = '0'.toUInt8 then some ⟨stack, .number [b] .zero⟩
  else if isDigit b then some ⟨stack, .number [b] .integer⟩
  else if b = 't'.toUInt8 then some ⟨stack, .word .truth 1⟩
  else if b = 'f'.toUInt8 then some ⟨stack, .word .falsity 1⟩
  else if b = 'n'.toUInt8 then some ⟨stack, .word .null 1⟩
  else none

/-- The quotation mark in front of a name. -/
def beginName (stack : List Frame) (b : UInt8) : Option State :=
  if b = '"'.toUInt8 then some ⟨stack, .string true [] .none⟩ else none

/-- A character of a string. -/
def stepString (stack : List Frame) (isName : Bool) (content : List Piece) (escape : Escape)
    (b : UInt8) : Option State :=
  match escape with
  | .none =>
    if b = '"'.toUInt8 then
      if isName then some ⟨stack, .colon content⟩ else complete (.string content) stack
    else if b = '\\'.toUInt8 then some ⟨stack, .string isName content .backslash⟩
    else if b < 0x20 then none
    else some ⟨stack, .string isName (content ++ [.byte b]) .none⟩
  | .backslash =>
    if b = 'u'.toUInt8 then some ⟨stack, .string isName content (.hex [])⟩
    else (escaped b).map fun c => ⟨stack, .string isName (content ++ [.byte c]) .none⟩
  | .hex digits =>
    (hexDigit b).map fun d =>
      if digits.length = 3 then
        ⟨stack, .string isName (content ++ [.unit (hexValue (digits ++ [d]))]) .none⟩
      else ⟨stack, .string isName content (.hex (digits ++ [d]))⟩

/-- The colon behind a name. -/
def readColon (stack : List Frame) (name : List Piece) (b : UInt8) : Option State :=
  match stack with
  | .object members :: stack =>
    if b = ':'.toUInt8 then some ⟨.member members name :: stack, .value⟩ else none
  | _ => none

/-- A comma behind a value. -/
def readComma (stack : List Frame) : Option State :=
  match stack with
  | .array _ :: _ => some ⟨stack, .value⟩
  | .object _ :: _ => some ⟨stack, .name⟩
  | _ => none

/-- A character between two tokens. -/
def stepToken (st : State) (b : UInt8) : Option State :=
  if isWhite b then some st
  else match st.mode with
    | .value => beginValue st.stack b
    | .firstItem => if b = ']'.toUInt8 then close st.stack b else beginValue st.stack b
    | .firstName => if b = '\x7d'.toUInt8 then close st.stack b else beginName st.stack b
    | .name => beginName st.stack b
    | .colon name => readColon st.stack name b
    | .after => if b = ','.toUInt8 then readComma st.stack else close st.stack b
    | _ => none

/-- A character of a number, or the one behind it. -/
def stepNumber (stack : List Frame) (text : Str) (part : NumberPart) (b : UInt8) :
    Option State :=
  match part.next b with
  | some part => some ⟨stack, .number (text ++ [b]) part⟩
  | none =>
    if part.isEnd then (complete (.scalar text) stack).bind fun st => stepToken st b else none

/-- A character of `true`, `false` or `null`. -/
def stepWord (stack : List Frame) (word : Word) (length : Nat) (b : UInt8) : Option State :=
  if word.text[length]? ≠ some b then none
  else if length + 1 = word.text.length then complete (.scalar word.text) stack
  else some ⟨stack, .word word (length + 1)⟩

/-- Read a byte. -/
def step (st : State) (b : UInt8) : Option State :=
  match st.mode with
  | .string isName content escape => stepString st.stack isName content escape b
  | .number text part => stepNumber st.stack text part b
  | .word word length => stepWord st.stack word length b
  | _ => stepToken st b

/-- Read some text. -/
def run (st : State) (s : Str) : Option State := s.foldlM step st

/-- The text may end here. -/
def finish (st : State) : Option Value :=
  match st.mode with
  | .done v => some v
  | .number text part => if part.isEnd ∧ st.stack.isEmpty then some (.scalar text) else none
  | _ => none

/-- The value of a JSON text; `none` when it is not one. -/
def read (s : Str) : Option Value := (run ⟨[], .value⟩ s).bind finish

/-! ## Runs -/

theorem run_cons (st : State) (b : UInt8) (s : Str) :
    run st (b :: s) = (step st b).bind fun st => run st s :=
  List.foldlM_cons

theorem run_append (st : State) (a b : Str) :
    run st (a ++ b) = (run st a).bind fun st => run st b :=
  List.foldlM_append

variable {stack : List Frame} {isName : Bool} {content : List Piece}

/-! ### Strings -/

/-- A text as it is quoted: a backslash in front of quotation marks and backslashes. -/
def quote (s : Str) : Str :=
  s.flatMap fun c => if c = '\\'.toUInt8 ∨ c = '"'.toUInt8 then ['\\'.toUInt8, c] else [c]

theorem quote_cons_special {c : UInt8} (h : c = '\\'.toUInt8 ∨ c = '"'.toUInt8) (s : Str) :
    quote (c :: s) = '\\'.toUInt8 :: c :: quote s := by
  rw [quote, List.flatMap_cons, if_pos h]
  rfl

theorem quote_cons_other {c : UInt8} (h : ¬(c = '\\'.toUInt8 ∨ c = '"'.toUInt8)) (s : Str) :
    quote (c :: s) = c :: quote s := by
  rw [quote, List.flatMap_cons, if_neg h]
  rfl

/-- A control character: JSON has none of them in a string. -/
def isControl (c : UInt8) : Bool := c < 0x20

theorem step_string_other {c : UInt8} (h : ¬(c = '\\'.toUInt8 ∨ c = '"'.toUInt8)) :
    step ⟨stack, .string isName content .none⟩ c =
      if isControl c then none else some ⟨stack, .string isName (content ++ [.byte c]) .none⟩ := by
  rw [not_or] at h
  show stepString stack isName content .none c = _
  rw [stepString, if_neg h.2, if_neg h.1, isControl]
  simp only [decide_eq_true_eq]

/-- **A quoted text** stands for itself when it has no control character, and is no
JSON otherwise; induction on the text. -/
theorem run_quote (s : Str) (content : List Piece) :
    run ⟨stack, .string isName content .none⟩ (quote s) =
      if s.any isControl then none
      else some ⟨stack, .string isName (content ++ s.map .byte) .none⟩ := by
  induction s generalizing content with
  | nil =>
    rw [List.map_nil, List.append_nil]
    rfl
  | cons c s ih =>
    have hassoc : (content ++ [.byte c]) ++ s.map .byte = content ++ (c :: s).map .byte := by
      rw [List.map_cons, List.append_assoc, List.singleton_append]
    by_cases h : c = '\\'.toUInt8 ∨ c = '"'.toUInt8
    · have hcontrol : isControl c = false := by
        obtain rfl | rfl := h <;> rfl
      have hstep : run ⟨stack, .string isName content .none⟩ (quote (c :: s)) =
          run ⟨stack, .string isName (content ++ [.byte c]) .none⟩ (quote s) := by
        rw [quote_cons_special h]
        obtain rfl | rfl := h <;> rfl
      rw [hstep, ih, hassoc, List.any_cons, hcontrol, Bool.false_or]
    · rw [quote_cons_other h, run_cons, step_string_other h, List.any_cons]
      cases isControl c with
      | true => rfl
      | false =>
        rw [Bool.false_or, ← hassoc]
        exact ih _

/-- No character is special in a string. -/
def isPlain (c : UInt8) : Bool := !isControl c && c != '\\'.toUInt8 && c != '"'.toUInt8

theorem quote_eq_self {s : Str} (h : ∀ c ∈ s, isPlain c = true) : quote s = s := by
  induction s with
  | nil => rfl
  | cons c s ih =>
    have hc := h c List.mem_cons_self
    simp only [isPlain, Bool.and_eq_true, bne_iff_ne] at hc
    have hother : ¬(c = '\\'.toUInt8 ∨ c = '"'.toUInt8) := not_or.mpr ⟨hc.1.2, hc.2⟩
    rw [quote_cons_other hother, ih fun d hd => h d (List.mem_cons_of_mem c hd)]

/-- A text without special characters is read as it stands. -/
theorem run_plain {s : Str} (h : ∀ c ∈ s, isPlain c = true) (content : List Piece) :
    run ⟨stack, .string isName content .none⟩ s =
      some ⟨stack, .string isName (content ++ s.map .byte) .none⟩ := by
  have hcontrol : s.any isControl = false := by
    rw [List.any_eq_false]
    intro c hc
    have hplain := h c hc
    simp only [isPlain, Bool.and_eq_true, Bool.not_eq_true'] at hplain
    rw [hplain.1.1]
    exact Bool.false_ne_true
  conv_lhs => rw [← quote_eq_self h]
  rw [run_quote, hcontrol, if_neg Bool.false_ne_true]

theorem decode_bytes (s : Str) : decode (s.map .byte) = some s := by
  induction s with
  | nil => rfl
  | cons c s ih =>
    rw [List.map_cons, decode, ih]
    rfl

/-- A string as a value. -/
theorem run_string (s : Str) :
    run ⟨stack, .value⟩ ('"'.toUInt8 :: quote s ++ ['"'.toUInt8]) =
      if s.any isControl then none else complete (.string (s.map .byte)) stack := by
  rw [List.cons_append, run_cons]
  show run ⟨stack, .string false [] .none⟩ (quote s ++ ['"'.toUInt8]) = _
  rw [run_append, run_quote]
  cases s.any isControl with
  | true => rfl
  | false => exact (run_cons _ _ _).trans (Option.bind_fun_some _)

/-! ### Members -/

/-- A name and its colon. -/
def nameText (name : Str) : Str := '"'.toUInt8 :: name ++ ['"'.toUInt8, ':'.toUInt8]

/-- The name of a member, where one is expected. -/
theorem run_name {name : Str} (h : ∀ c ∈ name, isPlain c = true) {members : List Member}
    {mode : Mode} (hmode : mode = .firstName ∨ mode = .name) :
    run ⟨.object members :: stack, mode⟩ (nameText name) =
      some ⟨.member members (name.map .byte) :: stack, .value⟩ := by
  have hopen : run ⟨.object members :: stack, mode⟩ (nameText name) =
      run ⟨.object members :: stack, .string true [] .none⟩
        (name ++ ['"'.toUInt8, ':'.toUInt8]) := by
    obtain rfl | rfl := hmode <;> rfl
  rw [hopen, run_append, run_plain h]
  rfl

/-- After a value a comma and a name go on only in an object. -/
theorem complete_nextName {name : Str} (h : ∀ c ∈ name, isPlain c = true) (v : Value)
    (stack : List Frame) :
    ((complete v stack).bind fun st => run st (','.toUInt8 :: nameText name)) =
      match stack with
      | .member members k :: stack =>
        some ⟨.member (members ++ [(k, v)]) (name.map .byte) :: stack, .value⟩
      | _ => none := by
  match stack with
  | [] => rfl
  | .object members :: stack => rfl
  | .array items :: stack =>
    show run ⟨.array (items ++ [v]) :: stack, .string false [] .none⟩
      (name ++ ['"'.toUInt8, ':'.toUInt8]) = none
    rw [run_append, run_plain h]
    rfl
  | .member members k :: stack => exact run_name h (.inr rfl)

/-! ### The end of a string -/

/-- A small letter. -/
def isLetter (c : UInt8) : Bool := 'a'.toUInt8 ≤ c && c ≤ 'z'.toUInt8

/-- A byte of a class is none that the class leaves out. -/
theorem ne_of_class {p : UInt8 → Bool} {b c : UInt8} (hb : p b = true) (hc : p c = false) :
    b ≠ c := by
  rintro rfl
  rw [hb] at hc
  cases hc

theorem not_white_of_class {p : UInt8 → Bool} (hp : ∀ c, isWhite c = true → p c = false)
    {b : UInt8} (hb : p b = true) : isWhite b = false := by
  refine Bool.eq_false_iff.mpr fun hwhite => ?_
  rw [hp b hwhite] at hb
  cases hb

theorem isLetter_of_isWhite (c : UInt8) : isWhite c = true → isLetter c = false :=
  forall_uint8 (by decide +kernel) c

theorem close_letter {c : UInt8} (hc : isLetter c = true) (stack : List Frame) :
    close stack c = none := by
  match stack with
  | [] | .member _ _ :: _ => rfl
  | .array _ :: _ => exact if_neg (ne_of_class hc rfl)
  | .object _ :: _ => exact if_neg (ne_of_class hc rfl)

/-- No letter follows a name or a value. -/
theorem run_letter {c : UInt8} (hc : isLetter c = true) {mode : Mode}
    (hmode : (∃ name, mode = .colon name) ∨ mode = .after ∨ ∃ v, mode = .done v) (s : Str) :
    run ⟨stack, mode⟩ (c :: s) = none := by
  have hwhite : isWhite c = false := not_white_of_class isLetter_of_isWhite hc
  have htoken : stepToken ⟨stack, mode⟩ c = none := by
    rw [stepToken, hwhite, if_neg Bool.false_ne_true]
    obtain ⟨name, rfl⟩ | rfl | ⟨v, rfl⟩ := hmode
    · match stack with
      | [] | .member _ _ :: _ | .array _ :: _ => rfl
      | .object _ :: _ => exact if_neg (ne_of_class hc rfl)
    · exact (if_neg (ne_of_class hc rfl)).trans (close_letter hc stack)
    · rfl
  have hstep : step ⟨stack, mode⟩ c = stepToken ⟨stack, mode⟩ c := by
    obtain ⟨name, rfl⟩ | rfl | ⟨v, rfl⟩ := hmode
    all_goals rfl
  rw [run_cons, hstep, htoken]
  rfl

/-- No letter follows the end of a string. -/
theorem run_quote_letter {c : UInt8} (hc : isLetter c = true) (s : Str) :
    run ⟨stack, .string isName content .none⟩ ('"'.toUInt8 :: c :: s) = none := by
  rw [run_cons]
  cases isName with
  | true => exact run_letter hc (.inl ⟨content, rfl⟩) s
  | false =>
    show ((complete (.string content) stack).bind fun st => run st (c :: s)) = none
    match stack with
    | [] => exact run_letter hc (.inr (.inr ⟨_, rfl⟩)) s
    | .array _ :: _ | .member _ _ :: _ => exact run_letter hc (.inr (.inl rfl)) s
    | .object _ :: _ => rfl

/-- A quotation mark and a comma, in a place that is not the end of a string. -/
theorem run_comma_of_not_string {st : State}
    (h : ∀ isName content, st.mode ≠ .string isName content .none) :
    run st ['"'.toUInt8, ','.toUInt8] = none ∨ ∃ stack isName content,
      run st ['"'.toUInt8, ','.toUInt8] = some ⟨stack, .string isName content .none⟩ := by
  obtain ⟨stack, mode⟩ := st
  cases mode with
  | value | firstItem => exact .inr ⟨stack, false, [.byte ','.toUInt8], rfl⟩
  | firstName | name => exact .inr ⟨stack, true, [.byte ','.toUInt8], rfl⟩
  | colon name =>
    match stack with
    | [] | .member _ _ :: _ | .array _ :: _ | .object _ :: _ => exact .inl rfl
  | after =>
    match stack with
    | [] | .member _ _ :: _ | .array _ :: _ | .object _ :: _ => exact .inl rfl
  | string isName content escape =>
    cases escape with
    | none => exact absurd rfl (h isName content)
    | backslash =>
      exact .inr ⟨stack, isName, content ++ [.byte '"'.toUInt8] ++ [.byte ','.toUInt8], rfl⟩
    | hex digits => exact .inl rfl
  | number text part =>
    match stack with
    | [] | .member _ _ :: _ | .array _ :: _ | .object _ :: _ =>
      cases part
      all_goals exact .inl rfl
  | word word length =>
    have hquote : word.text[length]? ≠ some '"'.toUInt8 := by
      intro hsome
      have hmem : '"'.toUInt8 ∈ word.text := List.mem_of_getElem? hsome
      revert hmem
      cases word
      all_goals decide
    have hstep : step ⟨stack, .word word length⟩ '"'.toUInt8 = none := if_pos hquote
    rw [run_cons, hstep]
    exact .inl rfl
  | done v => exact .inl rfl

/-- **The end of a string.** A quotation mark, a comma and a name can only be read
behind the string of a member, in the object it belongs to. -/
theorem run_endString {c : UInt8} {name : Str} (hc : isLetter c = true)
    (hname : ∀ d ∈ c :: name, isPlain d = true) (st : State) :
    run st ('"'.toUInt8 :: ','.toUInt8 :: nameText (c :: name)) =
      match st with
      | ⟨.member members k :: stack, .string false content .none⟩ =>
        some ⟨.member (members ++ [(k, .string content)]) ((c :: name).map .byte) :: stack, .value⟩
      | _ => none := by
  obtain ⟨stack, mode⟩ := st
  by_cases h : ∃ isName content, mode = .string isName content .none
  · obtain ⟨isName, content, rfl⟩ := h
    cases isName with
    | true =>
      match stack with
      | [] | .array _ :: _ | .object _ :: _ | .member _ _ :: _ => rfl
    | false =>
      rw [run_cons]
      refine (complete_nextName hname (.string content) stack).trans ?_
      match stack with
      | [] | .array _ :: _ | .object _ :: _ | .member _ _ :: _ => rfl
  · have hmode : ∀ isName content,
        (State.mk stack mode).mode ≠ .string isName content .none :=
      fun isName content hm => h ⟨isName, content, hm⟩
    have hnone : run ⟨stack, mode⟩ (['"'.toUInt8, ','.toUInt8] ++
        '"'.toUInt8 :: c :: (name ++ ['"'.toUInt8, ':'.toUInt8])) = none := by
      rw [run_append]
      obtain hrun | ⟨stack, isName, content, hrun⟩ := run_comma_of_not_string hmode
      · rw [hrun]
        rfl
      · rw [hrun]
        exact run_quote_letter hc _
    refine hnone.trans ?_
    split
    · rename_i heq
      cases heq
      exact absurd ⟨_, _, rfl⟩ h
    · rfl

/-! ### Integers -/

theorem isDigit_of_isWhite (c : UInt8) : isWhite c = true → isDigit c = false :=
  forall_uint8 (by decide +kernel) c

theorem beginValue_digit {d : UInt8} (hd : isDigit d = true) (hzero : d ≠ '0'.toUInt8) :
    step ⟨stack, .value⟩ d = some ⟨stack, .number [d] .integer⟩ := by
  have hwhite : isWhite d = false := not_white_of_class isDigit_of_isWhite hd
  show stepToken ⟨stack, .value⟩ d = _
  rw [stepToken, hwhite, if_neg Bool.false_ne_true]
  show beginValue stack d = _
  rw [beginValue, if_neg (ne_of_class hd rfl), if_neg (ne_of_class hd rfl),
    if_neg (ne_of_class hd rfl), if_neg (ne_of_class hd rfl), if_neg hzero, if_pos hd]

/-- A number goes on. -/
theorem step_number {part next : NumberPart} {d : UInt8} (h : part.next d = some next)
    (text : Str) :
    step ⟨stack, .number text part⟩ d = some ⟨stack, .number (text ++ [d]) next⟩ := by
  show stepNumber stack text part d = _
  rw [stepNumber, h]

/-- A positive number, where the first digit of one may stand: it has no leading
zero. Induction on the number, by its last digit. -/
theorem run_positive {n : Nat} (hn : 0 < n) {st : State} {text : Str}
    (hstart : ∀ d, isDigit d = true → d ≠ '0'.toUInt8 →
      step st d = some ⟨stack, .number (text ++ [d]) .integer⟩) :
    run st (toDecimal n) = some ⟨stack, .number (text ++ toDecimal n) .integer⟩ := by
  have hinteger : ∀ d, isDigit d = true → NumberPart.integer.next d = some .integer :=
    fun d hd => if_pos hd
  induction n using Nat.strong_induction_on with
  | _ n ih =>
    have hdigit : ∀ d ∈ toDecimal n, isDigit d = true := fun d => isDigit_of_mem_toDecimal
    by_cases h : n < 10
    · have hzero : ∀ m < 10, 0 < m → m.digitChar.toUInt8 ≠ '0'.toUInt8 := by decide
      rw [toDecimal_of_lt h] at hdigit ⊢
      rw [run_cons, hstart _ (hdigit _ List.mem_cons_self) (hzero n h hn)]
      rfl
    · rw [Nat.not_lt] at h
      rw [toDecimal_of_le h] at hdigit ⊢
      have hlast := hinteger _ (hdigit _ (List.mem_append_right _ List.mem_cons_self))
      rw [run_append, ih (n / 10) (by omega) (by omega), ← List.append_assoc]
      show run _ [_] = _
      rw [run_cons, step_number hlast]
      rfl

/-- **An integer** as a value. -/
theorem run_integer (i : Int) :
    ∃ part : NumberPart, (part = .zero ∨ part = .integer) ∧
      run ⟨stack, .value⟩ (toDecimalInt i) = some ⟨stack, .number (toDecimalInt i) part⟩ := by
  obtain hneg | rfl | hpos := lt_trichotomy i 0
  · have hstart : ∀ d, isDigit d = true → d ≠ '0'.toUInt8 →
        step ⟨stack, .number ['-'.toUInt8] .minus⟩ d =
          some ⟨stack, .number (['-'.toUInt8] ++ [d]) .integer⟩ := by
      intro d hd hzero
      refine step_number ?_ _
      rw [NumberPart.next, if_neg hzero, if_pos hd]
    refine ⟨.integer, .inr rfl, ?_⟩
    rw [toDecimalInt, if_pos hneg]
    exact run_positive (Int.natAbs_pos.mpr hneg.ne) hstart
  · exact ⟨.zero, .inl rfl, rfl⟩
  · have hstart : ∀ d, isDigit d = true → d ≠ '0'.toUInt8 →
        step ⟨stack, .value⟩ d = some ⟨stack, .number ([] ++ [d]) .integer⟩ :=
      fun d hd hzero => beginValue_digit hd hzero
    refine ⟨.integer, .inr rfl, ?_⟩
    rw [toDecimalInt, if_neg (not_lt.mpr hpos.le)]
    exact run_positive (Int.natAbs_pos.mpr hpos.ne') hstart

/-! ### The last member -/

/-- A value that is all of the text. -/
theorem finish_complete (v : Value) (stack : List Frame) :
    (complete v stack).bind finish = if stack.isEmpty then some v else none := by
  match stack with
  | [] => rfl
  | .array _ :: _ => rfl
  | .object _ :: _ => rfl
  | .member _ _ :: _ => rfl

/-- An integer as the last member of an object. -/
theorem run_lastInteger (i : Int) (members : List Member) (name : List Piece) :
    run ⟨.member members name :: stack, .value⟩ (toDecimalInt i ++ ['\x7d'.toUInt8]) =
      complete (.object (members ++ [(name, .scalar (toDecimalInt i))])) stack := by
  obtain ⟨part, hpart, hrun⟩ := @run_integer (.member members name :: stack) i
  rw [run_append, hrun]
  show run ⟨_, .number _ part⟩ _ = _
  rw [run_cons]
  obtain rfl | rfl := hpart
  all_goals exact Option.bind_fun_some _

/-- A string as the last member of an object. -/
theorem run_lastString (s : Str) (members : List Member) (name : List Piece) :
    run ⟨.member members name :: stack, .value⟩
        ('"'.toUInt8 :: quote s ++ ['"'.toUInt8] ++ ['\x7d'.toUInt8]) =
      if s.any isControl then none
      else complete (.object (members ++ [(name, .string (s.map .byte))])) stack := by
  rw [run_append, run_string]
  cases s.any isControl with
  | true => rfl
  | false => exact (run_cons _ _ _).trans (Option.bind_fun_some _)

/-! ### What is open already -/

/-- Members in front of those of an object. -/
def Value.prepend (pre : List Member) : Value → Value
  | .object members => .object (pre ++ members)
  | v => v

def Frame.prepend (pre : List Member) : Frame → Frame
  | .array items => .array items
  | .object members => .object (pre ++ members)
  | .member members name => .member (pre ++ members) name

def Mode.prepend (pre : List Member) : Mode → Mode
  | .done v => .done (v.prepend pre)
  | mode => mode

/-- Members in front of those of the outermost object. -/
def prependLast (pre : List Member) : List Frame → List Frame
  | [] => []
  | [f] => [f.prepend pre]
  | f :: g :: stack => f :: prependLast pre (g :: stack)

def State.prepend (pre : List Member) (st : State) : State :=
  ⟨prependLast pre st.stack, st.mode.prepend pre⟩

theorem length_prependLast (pre : List Member) (stack : List Frame) :
    (prependLast pre stack).length = stack.length := by
  fun_induction prependLast pre stack with
  | case1 => rfl
  | case2 f => rfl
  | case3 f g stack ih => rw [List.length_cons, List.length_cons, ih]

/-- Something is open, or the text is over. -/
def State.Begun (st : State) : Prop := st.stack = [] → ∃ v, st.mode = .done v

theorem State.Begun.ne_nil {mode : Mode} (h : State.Begun ⟨stack, mode⟩)
    (hmode : ∀ v, mode ≠ .done v) : stack ≠ [] := by
  intro hnil
  obtain ⟨v, hv⟩ := h hnil
  exact hmode v hv

theorem begun_of_ne_nil {mode : Mode} (h : stack ≠ []) : State.Begun ⟨stack, mode⟩ :=
  fun hnil => absurd hnil h

theorem begun_cons {f : Frame} {mode : Mode} : State.Begun ⟨f :: stack, mode⟩ :=
  begun_of_ne_nil (List.cons_ne_nil f stack)

/-- Two readers refuse alike, or the second has the members in front of what the first
has. -/
inductive Alike (pre : List Member) : Option State → Option State → Prop
  | none : Alike pre none none
  | some {st : State} (h : st.Begun) : Alike pre (some st) (some (st.prepend pre))

variable {pre : List Member} {st : State} {b : UInt8}

theorem Alike.ite {p : Prop} [Decidable p] {x y z w : Option State} (hx : Alike pre x y)
    (hz : Alike pre z w) : Alike pre (if p then x else z) (if p then y else w) := by
  by_cases hp : p
  · rwa [if_pos hp, if_pos hp]
  · rwa [if_neg hp, if_neg hp]

theorem complete_alike {v : Value} (hv : stack ≠ [] ∨ v.prepend pre = v) :
    Alike pre (complete v stack) (complete v (prependLast pre stack)) := by
  match stack with
  | [] =>
    have h : Alike pre (some ⟨[], .done v⟩) (some ⟨[], .done (v.prepend pre)⟩) :=
      .some fun _ => ⟨v, rfl⟩
    rwa [hv.resolve_left fun hne => hne rfl] at h
  | [.member members name] =>
    have h : Alike pre (some ⟨[.object (members ++ [(name, v)])], .after⟩)
        (some ⟨[.object (pre ++ (members ++ [(name, v)]))], .after⟩) := .some begun_cons
    rwa [← List.append_assoc] at h
  | [.array _] => exact .some begun_cons
  | [.object _] => exact .none
  | .array _ :: _ :: _ => exact .some begun_cons
  | .object _ :: _ :: _ => exact .none
  | .member _ _ :: _ :: _ => exact .some begun_cons

theorem close_alike (stack : List Frame) (b : UInt8) :
    Alike pre (close stack b) (close (prependLast pre stack) b) := by
  match stack with
  | [] => exact .none
  | [.array items] => exact .ite (.some fun _ => ⟨.array items, rfl⟩) .none
  | [.object members] => exact .ite (.some fun _ => ⟨.object members, rfl⟩) .none
  | [.member _ _] => exact .none
  | .array _ :: g :: stack => exact .ite (complete_alike (.inl (List.cons_ne_nil g stack))) .none
  | .object _ :: g :: stack => exact .ite (complete_alike (.inl (List.cons_ne_nil g stack))) .none
  | .member _ _ :: _ :: _ => exact .none

theorem beginValue_alike (hstack : stack ≠ []) (b : UInt8) :
    Alike pre (beginValue stack b) (beginValue (prependLast pre stack) b) := by
  obtain ⟨f, stack, rfl⟩ := List.exists_cons_of_ne_nil hstack
  unfold beginValue
  have hopen : ∀ mode, Alike pre (some ⟨f :: stack, mode⟩)
      (some (State.prepend pre ⟨f :: stack, mode⟩)) := fun _ => .some begun_cons
  refine .ite (hopen _) (.ite (.some begun_cons) (.ite (.some begun_cons) ?_))
  refine .ite (hopen _) (.ite (hopen _) (.ite (hopen _) ?_))
  exact .ite (hopen _) (.ite (hopen _) (.ite (hopen _) .none))

theorem beginName_alike (hstack : stack ≠ []) (b : UInt8) :
    Alike pre (beginName stack b) (beginName (prependLast pre stack) b) := by
  exact .ite (.some (begun_of_ne_nil hstack)) .none

theorem stepString_alike (hstack : stack ≠ []) (escape : Escape) (b : UInt8) :
    Alike pre (stepString stack isName content escape b)
      (stepString (prependLast pre stack) isName content escape b) := by
  have hopen : ∀ mode, Alike pre (some ⟨stack, mode⟩) (some (State.prepend pre ⟨stack, mode⟩)) :=
    fun _ => .some (begun_of_ne_nil hstack)
  cases escape with
  | none =>
    refine .ite (.ite (hopen (.colon content)) (complete_alike (.inr rfl))) ?_
    refine .ite (hopen (.string isName content .backslash)) (.ite .none ?_)
    exact hopen (.string isName _ .none)
  | backslash =>
    refine .ite (hopen (.string isName content (.hex []))) ?_
    cases escaped b with
    | none => exact .none
    | some c => exact hopen (.string isName _ .none)
  | hex digits =>
    show Alike pre (Option.map _ (hexDigit b)) (Option.map _ (hexDigit b))
    cases hexDigit b with
    | none => exact .none
    | some d =>
      show Alike pre (some (ite _ _ _)) (some (ite _ _ _))
      by_cases hlength : digits.length = 3
      · rw [if_pos hlength, if_pos hlength]
        exact hopen (.string isName _ .none)
      · rw [if_neg hlength, if_neg hlength]
        exact hopen (.string isName content (.hex _))

theorem stepWord_alike (hstack : stack ≠ []) (word : Word) (length : Nat) (b : UInt8) :
    Alike pre (stepWord stack word length b)
      (stepWord (prependLast pre stack) word length b) := by
  have hopen : Alike pre (some ⟨stack, .word word (length + 1)⟩)
      (some (State.prepend pre ⟨stack, .word word (length + 1)⟩)) :=
    .some (begun_of_ne_nil hstack)
  exact .ite .none (.ite (complete_alike (.inr rfl)) hopen)

theorem readColon_alike (stack : List Frame) (name : List Piece) (b : UInt8) :
    Alike pre (readColon stack name b) (readColon (prependLast pre stack) name b) := by
  match stack with
  | [] | [.array _] | [.member _ _] | .array _ :: _ :: _ | .member _ _ :: _ :: _ => exact .none
  | [.object _] | .object _ :: _ :: _ => exact .ite (.some begun_cons) .none

theorem readComma_alike (stack : List Frame) :
    Alike pre (readComma stack) (readComma (prependLast pre stack)) := by
  match stack with
  | [] | [.member _ _] | .member _ _ :: _ :: _ => exact .none
  | [.array _] | [.object _] | .array _ :: _ :: _ | .object _ :: _ :: _ => exact .some begun_cons

theorem stepToken_alike (hst : st.Begun) (b : UInt8) :
    Alike pre (stepToken st b) (stepToken (st.prepend pre) b) := by
  obtain ⟨stack, mode⟩ := st
  by_cases hwhite : isWhite b = true
  · rw [stepToken, stepToken, if_pos hwhite, if_pos hwhite]
    exact .some hst
  rw [stepToken, stepToken, if_neg hwhite, if_neg hwhite]
  cases mode with
  | value => exact beginValue_alike (hst.ne_nil nofun) b
  | firstItem => exact .ite (close_alike stack b) (beginValue_alike (hst.ne_nil nofun) b)
  | firstName => exact .ite (close_alike stack b) (beginName_alike (hst.ne_nil nofun) b)
  | name => exact beginName_alike (hst.ne_nil nofun) b
  | colon name => exact readColon_alike stack name b
  | after => exact .ite (readComma_alike stack) (close_alike stack b)
  | string _ _ _ | number _ _ | word _ _ | done _ => exact .none

/-- Steps one after the other. -/
theorem Alike.bind {x y : Option State} (h : Alike pre x y) {f g : State → Option State}
    (hstep : ∀ st : State, st.Begun → Alike pre (f st) (g (st.prepend pre))) :
    Alike pre (x.bind f) (y.bind g) := by
  cases h with
  | none => exact .none
  | some hst => exact hstep _ hst

theorem stepNumber_alike (hstack : stack ≠ []) (text : Str) (part : NumberPart) (b : UInt8) :
    Alike pre (stepNumber stack text part b)
      (stepNumber (prependLast pre stack) text part b) := by
  unfold stepNumber
  cases part.next b with
  | some next => exact .some (begun_of_ne_nil hstack)
  | none =>
    exact .ite ((complete_alike (.inr rfl)).bind fun st hst => stepToken_alike hst b) .none

theorem step_alike (hst : st.Begun) (b : UInt8) :
    Alike pre (step st b) (step (st.prepend pre) b) := by
  obtain ⟨stack, mode⟩ := st
  cases mode with
  | string _ _ escape => exact stepString_alike (hst.ne_nil nofun) escape b
  | number text part => exact stepNumber_alike (hst.ne_nil nofun) text part b
  | word word length => exact stepWord_alike (hst.ne_nil nofun) word length b
  | _ => exact stepToken_alike hst b

theorem run_alike (hst : st.Begun) (s : Str) : Alike pre (run st s) (run (st.prepend pre) s) := by
  induction s generalizing st with
  | nil => exact .some hst
  | cons b s ih =>
    rw [run_cons, run_cons]
    exact (step_alike hst b).bind fun st hst => ih hst

theorem Alike.eq_map {x y : Option State} (h : Alike pre x y) : y = x.map (State.prepend pre) := by
  cases h with
  | none => rfl
  | some _ => rfl

/-- **What is open already** does not change how the rest is read. -/
theorem run_prepend (pre : List Member) (hst : st.Begun) (s : Str) :
    run (st.prepend pre) s = (run st s).map (State.prepend pre) :=
  (run_alike hst s).eq_map

end Json
