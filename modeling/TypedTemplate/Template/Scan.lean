import TypedTemplate.Text.Basic
/-!
# Scanning templates

A template is split at its placeholders. A placeholder is an innermost pair of braces: an opening one, no
brace, a closing one. Every other brace is text. `pieces` does the splitting from the end of the template
to its front, so that each opening brace only has to look for the first brace behind it; `scan` then lays
the pieces out with the positions of the placeholders, in bytes.
-/

namespace TypedTemplate

structure Span where
  start : Nat
  stop : Nat
deriving DecidableEq, Repr

/-- A part of a template: constant text, or the body of a placeholder and where it stands. -/
inductive Segment where
  | text (t : Text)
  | placeholder (body : Text) (span : Span)
deriving DecidableEq, Repr

namespace Template

/-- The text before the first brace and the text after it, when that brace is a closing one. -/
def closing? : Text → Option (Text × Text)
  | [] => none
  | c :: t =>
    if c = '}' then some ([], t)
    else if c = '{' then none
    else (closing? t).map fun (body, rest) => (c :: body, rest)

/-- The text before the first placeholder, and for each placeholder its body and the text that follows
it. -/
def pieces : Text → Text × List (Text × Text)
  | [] => ([], [])
  | c :: t =>
    let (lead, rest) := pieces t
    match if c = '{' then closing? lead else none with
    | some (body, after) => ([], (body, after) :: rest)
    | none => (c :: lead, rest)

/-- The segments of the placeholders and of the texts behind them, the first placeholder standing at
`offset`. -/
def layOut (offset : Nat) : List (Text × Text) → List Segment
  | [] => []
  | (body, after) :: rest =>
    let stop := offset + Text.utf8Size body + 2
    .placeholder body ⟨offset, stop⟩ :: .text after :: layOut (stop + Text.utf8Size after) rest

/-- Splits a template into texts and placeholders. The first and the last segment are texts, and so is
every second one; a text may be empty. -/
def scan (template : Text) : List Segment :=
  let (lead, rest) := pieces template
  .text lead :: layOut (Text.utf8Size lead) rest

end Template

end TypedTemplate
