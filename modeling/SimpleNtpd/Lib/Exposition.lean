import SimpleNtpd.Lib.CppString

/-!
# Metrics in text

A text of metrics is made of lines: `# HELP name text`, `# TYPE name kind` and `name value`.
The lines of a metric stand together, its help first, then its kind, then its samples,
whose names begin with that of the metric (`Family`).

A reader takes the lines one by one (`readLine`) and puts them together from the end
(`gather`); a text that is not of this form is refused. What is written for some
well-formed families is read as just these (`parse_render`), and so the text determines
them.
-/

namespace Exposition

open Cpp

/-! ## Lines -/

inductive Line where
  | help (name text : Str)
  | type (name kind : Str)
  | sample (name value : Str)
  deriving DecidableEq, Repr

def helpMark : Str := lit "# HELP "

def typeMark : Str := lit "# TYPE "

def space : UInt8 := 32

def newline : UInt8 := 10

/-- A line without its end. -/
def Line.text : Line → Str
  | help name text => helpMark ++ (name ++ space :: text)
  | type name kind => typeMark ++ (name ++ space :: kind)
  | sample name value => name ++ space :: value

/-- A character of a name. -/
def isNameChar (c : UInt8) : Bool :=
  ('a'.toUInt8 ≤ c && c ≤ 'z'.toUInt8) || ('A'.toUInt8 ≤ c && c ≤ 'Z'.toUInt8) || isDigit c
    || c == '_'.toUInt8 || c == ':'.toUInt8

def isName (name : Str) : Bool := !name.isEmpty && name.all isNameChar

/-- A value is one word. -/
def isValue (value : Str) : Bool := !value.isEmpty && value.all fun c => !isSpace c

/-- A text of one line. -/
def isText (text : Str) : Bool := text.all fun c => c != newline

/-- What stands in a line is of the right form. -/
def Line.wellFormed : Line → Bool
  | help name text => isName name && isText text
  | type name kind => isName name && isValue kind
  | sample name value => isName name && isValue value

/-- A name, and what follows it behind a space. -/
def splitName (s : Str) : Option (Str × Str) :=
  match s.dropWhile (· != space) with
  | [] => none
  | _ :: rest => some (s.takeWhile (· != space), rest)

/-- What follows a mark. -/
def afterMark (mark s : Str) : Option Str :=
  if mark.isPrefixOf s then some (s.drop mark.length) else none

/-- Read a line. -/
def readLine (s : Str) : Option Line :=
  let line : Option Line :=
    match afterMark helpMark s with
    | some rest => (splitName rest).map fun p => .help p.1 p.2
    | none =>
      match afterMark typeMark s with
      | some rest => (splitName rest).map fun p => .type p.1 p.2
      | none => (splitName s).map fun p => .sample p.1 p.2
  line.filter Line.wellFormed

theorem isNameChar_ne {c : UInt8} (h : isNameChar c = true) :
    c ≠ space ∧ c ≠ newline ∧ c ≠ '#'.toUInt8 := by
  revert h
  exact forall_uint8 (by decide) c

theorem splitName_append {name : Str} (h : isName name = true) (rest : Str) :
    splitName (name ++ space :: rest) = some (name, rest) := by
  rw [isName, Bool.and_eq_true, List.all_eq_true] at h
  have hname : ∀ c ∈ name, (c != space) = true := fun c hc =>
    bne_iff_ne.mpr (isNameChar_ne (h.2 c hc)).1
  have hdrop : (name ++ space :: rest).dropWhile (· != space) = space :: rest := by
    rw [List.dropWhile_append_of_pos hname]
    rfl
  have htake : (name ++ space :: rest).takeWhile (· != space) = name := by
    rw [List.takeWhile_append_of_pos hname]
    exact List.append_nil name
  rw [splitName, hdrop, htake]

theorem afterMark_append (mark s : Str) : afterMark mark (mark ++ s) = some s := by
  rw [afterMark, if_pos (List.isPrefixOf_iff_prefix.mpr (List.prefix_append mark s)),
    List.drop_left]

/-- A mark begins with a character that is in no name. -/
theorem afterMark_name (mark : Str) {name rest : Str} (hmark : mark.head? = some '#'.toUInt8)
    (h : isName name = true) : afterMark mark (name ++ rest) = none := by
  rw [isName, Bool.and_eq_true, List.all_eq_true] at h
  cases name with
  | nil => cases h.1
  | cons c name =>
    cases mark with
    | nil => cases hmark
    | cons m mark =>
      rw [List.head?_cons, Option.some.injEq] at hmark
      subst hmark
      have hne := (isNameChar_ne (h.2 c List.mem_cons_self)).2.2
      refine if_neg fun hprefix => ?_
      rw [List.cons_append, List.isPrefixOf_cons_cons, Bool.and_eq_true, beq_iff_eq] at hprefix
      exact hne hprefix.1.symm

/-- A line that is written is read. -/
theorem readLine_text {line : Line} (h : line.wellFormed = true) : readLine line.text = some line := by
  have hword := h
  cases line with
  | help name text =>
    rw [Line.wellFormed, Bool.and_eq_true] at hword
    simp only [readLine, Line.text, afterMark_append, splitName_append hword.1, Option.map_some,
      Option.filter_some, h, if_true]
  | type name kind =>
    rw [Line.wellFormed, Bool.and_eq_true] at hword
    have hhelp : afterMark helpMark (typeMark ++ (name ++ space :: kind)) = none :=
      if_neg fun hprefix => by
        have htake := List.prefix_iff_eq_take.mp (List.isPrefixOf_iff_prefix.mp hprefix)
        rw [List.take_append_of_le_length (by decide)] at htake
        revert htake
        decide
    simp only [readLine, Line.text, hhelp, afterMark_append, splitName_append hword.1,
      Option.map_some, Option.filter_some, h, if_true]
  | sample name value =>
    rw [Line.wellFormed, Bool.and_eq_true] at hword
    simp only [readLine, Line.text, afterMark_name helpMark (by decide) hword.1,
      afterMark_name typeMark (by decide) hword.1, splitName_append hword.1,
      Option.map_some, Option.filter_some, h, if_true]

/-! ## Texts -/

/-- A metric with its samples. -/
structure Family where
  name : Str
  help : Str
  kind : Str
  samples : List (Str × Str)
  deriving DecidableEq, Repr

def Family.lines (f : Family) : List Line :=
  .help f.name f.help :: .type f.name f.kind :: f.samples.map fun s => .sample s.1 s.2

def Family.wellFormed (f : Family) : Bool :=
  f.lines.all Line.wellFormed && f.samples.all fun s => f.name.isPrefixOf s.1

def render (families : List Family) : Str :=
  (families.flatMap Family.lines).flatMap fun line => line.text ++ [newline]

theorem render_append (fs gs : List Family) : render (fs ++ gs) = render fs ++ render gs := by
  simp only [render, List.flatMap_append]

/-- The families behind a line, the kind that waits for its help, and the samples that
wait for their kind. -/
abbrev Gathered := List Family × Option (Str × Str) × List (Str × Str)

def gatherLine : Line → Option Gathered → Option Gathered
  | .sample name value, some (families, none, samples) =>
    some (families, none, (name, value) :: samples)
  | .type name kind, some (families, none, samples) => some (families, some (name, kind), samples)
  | .help name text, some (families, some (name', kind), samples) =>
    if name = name' ∧ samples.all (fun s => name.isPrefixOf s.1) = true then
      some (⟨name, text, kind, samples⟩ :: families, none, [])
    else none
  | _, _ => none

/-- Put lines together, from the last one. -/
def gather (lines : List Line) : Option (List Family) :=
  match lines.foldr gatherLine (some ([], none, [])) with
  | some (families, none, []) => some families
  | _ => none

/-- Read a text. -/
def parse (s : Str) : Option (List Family) := ((getlines newline s).mapM readLine).bind gather

theorem gather_samples (families : List Family) (samples : List (Str × Str)) :
    (samples.map fun s => Line.sample s.1 s.2).foldr gatherLine (some (families, none, []))
      = some (families, none, samples) := by
  induction samples with
  | nil => rfl
  | cons s samples ih => rw [List.map_cons, List.foldr_cons, ih]; rfl

/-- The lines of some families are put together to these. -/
theorem gather_lines {families : List Family} (h : ∀ f ∈ families, f.wellFormed = true) :
    (families.flatMap Family.lines).foldr gatherLine (some ([], none, []))
      = some (families, none, []) := by
  induction families with
  | nil => rfl
  | cons f families ih =>
    have hf := h f List.mem_cons_self
    rw [Family.wellFormed, Bool.and_eq_true] at hf
    rw [List.flatMap_cons, List.foldr_append, ih fun g hg => h g (List.mem_cons_of_mem f hg),
      Family.lines, List.foldr_cons, List.foldr_cons, gather_samples]
    exact if_pos ⟨rfl, hf.2⟩

theorem newline_notMem_of_all {p : UInt8 → Bool} (hp : p newline = false) {s : Str}
    (h : s.all p = true) : newline ∉ s := fun hmem => by
  rw [List.all_eq_true] at h
  rw [h newline hmem] at hp
  cases hp

/-- A line is one line. -/
theorem newline_notMem_text {line : Line} (h : line.wellFormed = true) : newline ∉ line.text := by
  have hname : ∀ {name}, isName name = true → newline ∉ name := fun hn =>
    newline_notMem_of_all (by decide) (Bool.and_eq_true_iff.mp hn).2
  have hvalue : ∀ {value}, isValue value = true → newline ∉ value := fun hv =>
    newline_notMem_of_all (by decide) (Bool.and_eq_true_iff.mp hv).2
  have htext : ∀ {text}, isText text = true → newline ∉ text := fun ht =>
    newline_notMem_of_all (by decide) ht
  have hspace : newline ≠ space := by decide
  have hhelp : newline ∉ helpMark := by decide
  have htype : newline ∉ typeMark := by decide
  cases line with
  | help name text =>
    rw [Line.wellFormed, Bool.and_eq_true] at h
    simp [Line.text, hhelp, hname h.1, hspace, htext h.2]
  | type name kind =>
    rw [Line.wellFormed, Bool.and_eq_true] at h
    simp [Line.text, htype, hname h.1, hspace, hvalue h.2]
  | sample name value =>
    rw [Line.wellFormed, Bool.and_eq_true] at h
    simp [Line.text, hname h.1, hspace, hvalue h.2]

theorem mapM_readLine {lines : List Line} (h : ∀ line ∈ lines, line.wellFormed = true) :
    (lines.map Line.text).mapM readLine = some lines := by
  induction lines with
  | nil => rfl
  | cons line lines ih =>
    rw [List.map_cons, List.mapM_cons, readLine_text (h line List.mem_cons_self),
      ih fun l hl => h l (List.mem_cons_of_mem line hl)]
    rfl

/-- **What is written for well-formed families is read as these.** -/
theorem parse_render {families : List Family} (h : ∀ f ∈ families, f.wellFormed = true) :
    parse (render families) = some families := by
  have hlines : ∀ line ∈ families.flatMap Family.lines, line.wellFormed = true := by
    intro line hline
    obtain ⟨f, hf, hmem⟩ := List.mem_flatMap.mp hline
    exact List.all_eq_true.mp (Bool.and_eq_true_iff.mp (h f hf)).1 line hmem
  have hread : getlines newline (render families) = (families.flatMap Family.lines).map Line.text := by
    have hnewline : ∀ l ∈ (families.flatMap Family.lines).map Line.text, newline ∉ l := by
      intro l hl
      obtain ⟨line, hline, rfl⟩ := List.mem_map.mp hl
      exact newline_notMem_text (hlines line hline)
    rw [← getlines_flatMap hnewline, List.flatMap_map]
    rfl
  rw [parse, hread, mapM_readLine hlines, Option.bind_some, gather, gather_lines h]

/-! ## Values -/

/-- All samples of a text. -/
def samples (families : List Family) : List (Str × Str) := families.flatMap Family.samples

/-- What a text tells under a name. -/
def value (families : List Family) (name : Str) : Option Str := (samples families).lookup name

/-- Under different names every sample can be found. -/
theorem value_of_mem {families : List Family} (hnodup : ((samples families).map Prod.fst).Nodup)
    {name v : Str} (h : (name, v) ∈ samples families) : value families name = some v := by
  obtain ⟨pre, post, hsplit⟩ := List.append_of_mem h
  refine List.lookup_eq_some_iff.mpr ⟨pre, post, hsplit, fun p hp => ?_⟩
  rw [hsplit, List.map_append, List.nodup_append] at hnodup
  exact bne_iff_ne.mpr (hnodup.2.2 p.1 (List.mem_map_of_mem hp) name List.mem_cons_self).symm

end Exposition
