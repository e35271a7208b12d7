import TypedTemplate.Number.Decimal
/-!
# Reading numbers

Numbers as people type them into templates and inputs: blanks around are ignored, the decimal separator is
configured, and groups, infinities and words are refused. What is wrong with a text is one of three causes.
-/

namespace TypedTemplate

/-- Why a text is not a number. -/
inductive NumberError where
  | empty
  | malformed
  | notFinite
deriving DecidableEq, Repr

/-- The wording of a number error. -/
def NumberError.message : NumberError → String
  | .empty => "empty number"
  | .malformed => "malformed number"
  | .notFinite => "number out of range"

/-- Writes the decimal separator as a point. -/
def pointed (decimal : Char) (t : Text) : Text :=
  t.map fun c => if c = decimal then '.' else c

/-- Reads a finite number written with the given decimal separator. A point is part of a number only
when it is that separator. -/
def readNumber (decimal : Char) (t : Text) : Except NumberError Binary64 :=
  let t := t.trim
  if t.isEmpty then .error .empty
  else if decimal ≠ '.' ∧ '.' ∈ t then .error .malformed
  else
    match Decimal.read? (pointed decimal t) with
    | none => .error .malformed
    | some d =>
      let x := Binary64.ofDecimal d
      if x.isFinite then .ok x else .error .notFinite

/-- Reads a whole number of 64 bits with an optional sign. -/
def readInteger (t : Text) : Except NumberError Int64 :=
  let t := t.trim
  if t.isEmpty then .error .empty
  else
    let (negative, digits) := Decimal.takeSign t
    if digits.isEmpty || !digits.all Char.isDigit then .error .malformed
    else
      let n := Nat.ofDigitChars 10 digits 0
      let value : Int := if negative then -n else n
      if Int64.minValue.toInt ≤ value ∧ value ≤ Int64.maxValue.toInt then .ok (Int64.ofInt value)
      else .error .malformed

end TypedTemplate
