import TypedTemplate.Text.Basic
/-!
# Places in a source

A source is divided into lines, each keeping its end of line, and an offset in characters lies in one of
them. A label is a range of offsets; `Place` is the line its start lies in.
-/

namespace TypedTemplate.Report

/-- Whether a character ends a line, given what follows it: a carriage return before a line feed leaves
that to the line feed. -/
def endsLine (c : Char) (t : Text) : Bool :=
  c == '\n' || c == '\x0B' || c == '\x0C' || (c == '\r' && t.head? != some '\n') || c == '\x85'
    || c == '\u2028' || c == '\u2029'

/-- The lines of a source, each with its end of line. -/
def lines : Text → List Text
  | [] => []
  | c :: t =>
    if endsLine c t then [c] :: lines t
    else
      match lines t with
      | [] => [[c]]
      | line :: rest => (c :: line) :: rest

theorem flatten_lines (t : Text) : (lines t).flatten = t := by
  induction t with
  | nil => rfl
  | cons c t ih =>
    simp only [lines]
    split
    · simp [ih]
    · cases h : lines t with
      | nil => simp_all
      | cons line rest => simp_all

/-- A line of a source: its number, counted from one, the offset of its first character, and its text. -/
structure Place where
  number : Nat
  start : Nat
  line : Text
deriving DecidableEq, Repr

namespace Place

def stop (p : Place) : Nat :=
  p.start + p.line.length

/-- The column of an offset, counted from one. -/
def column (p : Place) (offset : Nat) : Nat :=
  offset - p.start + 1

/-- The line of an offset among lines of which the first has the given number and start; an offset behind
the source lies in the last line. -/
def find? (number start offset : Nat) : List Text → Option Place
  | [] => none
  | [line] => some ⟨number, start, line⟩
  | line :: rest =>
    if offset < start + line.length then some ⟨number, start, line⟩
    else find? (number + 1) (start + line.length) offset rest

end Place

/-- The line of a source that an offset lies in. -/
def place? (source : Text) (offset : Nat) : Option Place :=
  Place.find? 1 0 offset (lines source)

end TypedTemplate.Report
