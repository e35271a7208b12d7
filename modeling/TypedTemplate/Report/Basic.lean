import TypedTemplate.Node.ValidationError
import TypedTemplate.Report.Place
import TypedTemplate.Text.Columns
/-!
# Reports

A report shows an error in its template: the message, the place, the line with the offending part in red,
and the code under an arrow. Of a part that goes over several lines the first line and the last are shown. A
report is written for a terminal, with ANSI colours. The offsets of a label are those of the error; the report
counts them in characters, whatever they were counted in.
-/

namespace TypedTemplate.Report

/-! ### Colours -/

inductive Colour where
  | red
  | margin
  | dimMargin
  | plain
deriving DecidableEq, Repr

def Colour.parameter : Colour → String
  | red => "31"
  | margin => "38;5;246"
  | dimMargin => "38;5;240"
  | plain => "38;5;249"

def paint (colour : Colour) (s : String) : String :=
  "\x1b[" ++ colour.parameter ++ "m" ++ s ++ "\x1b[0m"

def blanks (n : Nat) : String :=
  String.ofList (List.replicate n ' ')

def repeated (n : Nat) (s : String) : String :=
  String.join (List.replicate n s)

/-! ### The line of the source -/

/-- A character of the source as it is drawn, and how many columns it takes. A tab runs to the next
multiple of four columns, and every other blank is drawn as one blank. -/
def drawn (column : Nat) (c : Char) : Char × Nat :=
  if c = '\t' then (' ', 4 - column % 4)
  else if isBlank c then (' ', 1)
  else (c, columnsOf c)

/-- The characters of a line that are shown: all but the blanks at its end. -/
def shownLine (p : Place) : Text :=
  Text.trimEnd p.line

/-- Characters with their offsets, and whether these lie inside a label. -/
def markFrom (label : Span) (offset : Nat) : Text → List (Char × Bool)
  | [] => []
  | c :: t =>
    (c, decide (label.start ≤ offset ∧ offset < label.stop)) :: markFrom label (offset + 1) t

/-- The characters of a line, and which of them are inside the label. -/
def marked (p : Place) (label : Span) : List (Char × Bool) :=
  markFrom label p.start (shownLine p)

/-- The characters of a line, each painted on its own, from a column on. -/
def paintFrom (column : Nat) : List (Char × Bool) → String
  | [] => ""
  | (c, isMarked) :: rest =>
    let (shown, width) := drawn column c
    let painted := paint (if isMarked then .red else .plain) (String.singleton shown)
    (if isBlank c then repeated width painted else painted) ++ paintFrom (column + 1) rest

/-! ### The rows under it -/

/-- How many columns each character of a line takes, as far as a row under it reaches; behind the line
every column is one wide. -/
def widths (p : Place) (count : Nat) : List Nat :=
  (List.range count).map fun column =>
    match (shownLine p)[column]? with
    | some c => (drawn column c).2
    | none => 1

/-- A row under the line: for each column a first piece, and what fills the rest of a wide column. -/
def row (ws : List Nat) (piece : Nat → String × String) : String :=
  String.join (ws.zipIdx.map fun (width, column) =>
    let (first, filler) := piece column
    if width = 0 then "" else first ++ repeated (width - 1) filler)

def stroke (s : String) : String :=
  paint .red s

/-- The underline of a label that is the columns from `start` to `stop`, with the head of the arrow at
`middle`. -/
def underlinePiece (start stop middle column : Nat) : String × String :=
  if column = middle then (stroke "┬", stroke "─")
  else if start ≤ column ∧ column < stop then (stroke "─", stroke "─")
  else (" ", " ")

/-- The arrow from `middle` to the end of the row. -/
def arrowPiece (middle column : Nat) : String × String :=
  if column = middle then (stroke "╰", stroke "─")
  else if middle < column then (stroke "─", stroke "─")
  else (" ", " ")

/-! ### The report -/

/-- What a report points at: a range of offsets in a source, with a note. -/
structure Label where
  span : Span
  note : String
deriving DecidableEq, Repr

/-- The last offset of a label; of an empty label, the one it starts at. -/
def Label.lastOffset (label : Label) : Nat :=
  max label.span.start (label.span.stop - 1)

def numberWidth (p : Place) : Nat :=
  (toString p.number).length

/-- The margin of a row without a line of the source, for line numbers of the given width. -/
def unnumberedMargin (bar : String) (width : Nat) : String :=
  " " ++ paint .dimMargin (blanks (width + 1) ++ bar) ++ " "

def emptyMargin (width : Nat) : String :=
  unnumberedMargin "│" width

/-- The margin of a row that stands for lines that are left out. -/
def gapMargin (width : Nat) : String :=
  unnumberedMargin "┆" width

def numberedMargin (width : Nat) (p : Place) : String :=
  " " ++ paint .margin (blanks (width - numberWidth p) ++ toString p.number ++ " │") ++ " "

/-- A line of the source behind its number and what stands beside it. -/
def sourceRow (width : Nat) (side : String) (p : Place) (label : Label) : String :=
  numberedMargin width p ++ side ++ paintFrom 0 (marked p label.span)

def heading (width : Nat) (p : Place) (offset : Nat) (fileName : String) : List String :=
  let indent := blanks (width + 2)
  [indent ++ paint .margin "╭" ++ paint .margin "─" ++ paint .margin "[" ++ fileName ++ ":"
      ++ toString p.number ++ ":" ++ toString (p.column offset) ++ paint .margin "]",
   indent ++ paint .margin "│"]

/-- The rows of a label in one line: the line and an arrow under it; only a margin when the label ends behind
the source. -/
def inlineRows (p : Place) (label : Label) : List String :=
  let width := numberWidth p
  let start := label.span.start - p.start
  let stop := label.span.stop - p.start
  let middle := (label.span.start + label.span.stop) / 2 - p.start
  if p.stop < label.span.stop then [emptyMargin width]
  else
    let ws := widths p (stop + 2)
    [sourceRow width "" p label,
     emptyMargin width ++ row ws (underlinePiece start stop middle),
     emptyMargin width ++ row ws (arrowPiece middle) ++ " " ++ label.note]

/-- The arrow that leads into a line from the stroke beside it. -/
def sideArrow (corner : String) : String :=
  stroke corner ++ stroke "─" ++ stroke "▶" ++ stroke " "

/-- The rows of a label over several lines: its first line and its last with a stroke beside them, and an arrow
under the last line. Whatever lies between the two is one gap, and so are the lines behind the first when the
label ends behind the source. -/
def spanningRows (first last : Place) (label : Label) : List String :=
  let width := numberWidth last
  let gap := gapMargin width ++ stroke "┆" ++ blanks 3
  let firstRow := sourceRow width (sideArrow "╭") first label
  if last.stop < label.span.stop then [firstRow, gap]
  else
    let ws := widths last (last.line.length + 2)
    [firstRow] ++ (if first.number + 1 < last.number then [gap] else []) ++
      [sourceRow width (sideArrow "├") last label,
       emptyMargin width ++ stroke "│" ++ blanks 3 ++ row ws (fun _ => (" ", " ")),
       emptyMargin width ++ stroke "╰" ++ stroke "─" ++ stroke "─" ++ stroke "─"
         ++ row ws (fun _ => (stroke "─", stroke "─")) ++ " " ++ label.note]

/-- The rows of a label whose first and last offset lie in the given lines. -/
def excerpt (first last : Place) (label : Label) : List String :=
  if first.number = last.number then inlineRows first label else spanningRows first last label

def footing (width : Nat) : String :=
  paint .margin (repeated (width + 2) "─" ++ "╯")

def inSource (source : Text) (span : Span) : Bool :=
  !source.isEmpty && span.start ≤ source.length &&
    !(span.start < span.stop && source.length < span.stop - 1)

/-- The rows of a report below its title. -/
def body (source : Text) (fileName : String) (label : Label) : List String :=
  if inSource source label.span then
    match place? source label.span.start, place? source label.lastOffset with
    | some first, some last =>
      let width := numberWidth last
      heading width first label.span.start fileName ++ excerpt first last label ++ [footing width]
    | _, _ => []
  else []

/-- What the report of an error points at; errors that belong to no template point at nothing. -/
def label? (source : Text) : ValidationError → Option Label
  | .template _ code => some ⟨⟨0, Text.utf8Size source⟩, code.name⟩
  | .placeholder _ e => some ⟨e.span, e.code.name⟩
  | _ => none

end Report

/-- The report of an error in its template, or the bare message of an error that belongs to none. -/
def ValidationError.report (e : ValidationError) (source : Text) (fileName : String) : String :=
  match Report.label? source e with
  | none => e.message
  | some label =>
    let title := Report.paint .red "Error:" ++ " " ++ e.message
    String.join ((title :: Report.body source fileName label).map (· ++ "\n"))

end TypedTemplate
