import SimpleNtpd.Lib.CppString

/-!
# Reports in text

A report is made of lines. A line `key: value` is an entry, and any other line is a
heading. A reader cuts the text at the ends of the lines and each line at its first
colon (`read`); what is written for some lines with plain texts is read as their entries
(`read_render`).
-/

namespace Report

open Cpp

def newline : UInt8 := 10

def colon : UInt8 := 58

inductive Line where
  | heading (text : Str)
  | entry (key value : Str)
  deriving DecidableEq, Repr

namespace Line

def text : Line → Str
  | heading text => text
  | entry key value => key ++ colon :: 32 :: value

/-- What the line tells. -/
def field : Line → Option (Str × Str)
  | heading _ => none
  | entry key value => some (key, value)

/-- What the line is about. -/
def key : Line → Str
  | heading text => text
  | entry key _ => key

/-- The texts do not run over: a heading and a key have no colon, and nothing has an
end of line. -/
def plain : Line → Bool
  | heading text => text.all fun c => c != colon && c != newline
  | entry key value => (key.all fun c => c != colon && c != newline) && value.all (· != newline)

end Line

/-- The text of some lines. -/
def render (ls : List Line) : Str := ls.flatMap fun l => l.text ++ [newline]

/-- What a line tells. -/
def readLine (s : Str) : Option (Str × Str) :=
  match s.dropWhile (· != colon) with
  | _ :: 32 :: value => some (s.takeWhile (· != colon), value)
  | _ => none

/-- What a text tells. -/
def read (text : Str) : List (Str × Str) := (getlines newline text).filterMap readLine

@[simp] theorem render_nil : render [] = [] := rfl

theorem render_append (ls ms : List Line) : render (ls ++ ms) = render ls ++ render ms := by
  simp only [render, List.flatMap_append]

theorem all_ne_colon {s : Str} (h : (s.all fun c => c != colon && c != newline) = true) :
    (∀ c ∈ s, (c != colon) = true) ∧ newline ∉ s := by
  simp only [List.all_eq_true, Bool.and_eq_true] at h
  exact ⟨fun c hc => (h c hc).1, fun hmem => bne_iff_ne.mp (h newline hmem).2 rfl⟩

/-- A line that is written is read. -/
theorem readLine_text {l : Line} (h : l.plain = true) : readLine l.text = l.field := by
  cases l with
  | heading text =>
    have hdrop : text.dropWhile (· != colon) = [] := List.dropWhile_eq_nil_iff.mpr (all_ne_colon h).1
    rw [readLine, Line.text, hdrop]
    rfl
  | entry key value =>
    rw [Line.plain, Bool.and_eq_true] at h
    have hkey := (all_ne_colon h.1).1
    have hdrop : (key ++ colon :: 32 :: value).dropWhile (· != colon) = colon :: 32 :: value := by
      rw [List.dropWhile_append_of_pos hkey]
      rfl
    have htake : (key ++ colon :: 32 :: value).takeWhile (· != colon) = key := by
      rw [List.takeWhile_append_of_pos hkey]
      exact List.append_nil key
    rw [readLine, Line.text, hdrop, htake]
    rfl

theorem newline_notMem_text {l : Line} (h : l.plain = true) : newline ∉ l.text := by
  cases l with
  | heading text => exact (all_ne_colon h).2
  | entry key value =>
    rw [Line.plain, Bool.and_eq_true] at h
    have hvalue : newline ∉ value := fun hmem =>
      bne_iff_ne.mp (List.all_eq_true.mp h.2 newline hmem) rfl
    simp only [Line.text, List.mem_append, List.mem_cons, not_or]
    exact ⟨(all_ne_colon h.1).2, by decide, by decide, hvalue⟩

/-- **What is written is read.** -/
theorem read_render {ls : List Line} (h : ∀ l ∈ ls, l.plain = true) :
    read (render ls) = ls.filterMap Line.field := by
  have hlines : getlines newline ((ls.map Line.text).flatMap (· ++ [newline]))
      = ls.map Line.text := by
    refine getlines_flatMap fun s hs => ?_
    obtain ⟨l, hl, rfl⟩ := List.mem_map.mp hs
    exact newline_notMem_text (h l hl)
  rw [List.flatMap_map] at hlines
  rw [read, render, hlines, List.filterMap_map]
  refine List.filterMap_congr fun l hl => ?_
  exact readLine_text (h l hl)

/-- What is told is what an entry says. -/
theorem mem_read_render {ls : List Line} (h : ∀ l ∈ ls, l.plain = true) {key value : Str} :
    (key, value) ∈ read (render ls) ↔ Line.entry key value ∈ ls := by
  rw [read_render h, List.mem_filterMap]
  constructor
  · rintro ⟨l, hl, hfield⟩
    cases l with
    | heading text => cases hfield
    | entry k v =>
      cases hfield
      exact hl
  · exact fun hl => ⟨_, hl, rfl⟩

end Report
