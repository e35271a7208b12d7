import TypedTemplate.Text.Basic
import TypedTemplate.Number.Binary64
/-!
# Decimal numerals

A `Decimal` is a signed coefficient times a power of ten: what a numeral such as `-12.5e3` says before
it is rounded. This module reads one from text, rounds it to a `Binary64`, and goes the other way with
`Binary64.shortest`, the numeral with the fewest digits that rounds to a given number. The candidates of
`shortest` are tested by rounding them again, so that reading a shortest numeral gives the number back.
-/

namespace TypedTemplate

/-- The number `± coefficient · 10 ^ exponent`. -/
structure Decimal where
  negative : Bool
  coefficient : Nat
  exponent : Int
deriving DecidableEq, Repr

namespace Decimal

/-- Takes an optional sign off the front; the flag says whether it was a minus. -/
def takeSign : Text → Bool × Text
  | '-' :: t => (true, t)
  | '+' :: t => (false, t)
  | t => (false, t)

/-- Reads what follows the digits of a numeral: nothing, or `e` and a signed whole number. -/
def readExponent? : Text → Option Int
  | [] => some 0
  | c :: t =>
    if c = 'e' ∨ c = 'E' then
      let (negative, digits) := takeSign t
      if digits.isEmpty || !digits.all Char.isDigit then none
      else
        let n := Nat.ofDigitChars 10 digits 0
        some (if negative then -n else n)
    else none

/-- Takes the digits after a decimal point off the front, if there is a point. -/
def takeFraction : Text → Text × Text
  | '.' :: t => t.span Char.isDigit
  | t => ([], t)

/-- Reads a numeral: an optional sign, digits with at most one point among or around them, and an
optional exponent. -/
def read? (t : Text) : Option Decimal :=
  let (negative, unsigned) := takeSign t
  let (whole, afterWhole) := unsigned.span Char.isDigit
  let (fraction, afterFraction) := takeFraction afterWhole
  if whole.isEmpty && fraction.isEmpty then none
  else
    (readExponent? afterFraction).map fun exponent =>
      { negative
        coefficient := Nat.ofDigitChars 10 (whole ++ fraction) 0
        exponent := exponent - fraction.length }

end Decimal

namespace Binary64

/-- The number nearest to a decimal. Coefficients from `10³¹⁰` on are too large and quotients below
`10⁻⁴⁰⁰` are zero, so that no power of ten larger than needed is ever formed. -/
def ofDecimal (d : Decimal) : Binary64 :=
  if d.coefficient = 0 then zero d.negative
  else
    match d.exponent with
    | .ofNat e =>
      if 310 ≤ e then .infinite d.negative
      else nearest d.negative (d.coefficient * 10 ^ e * one) 1
    | .negSucc e =>
      if d.coefficient.log2 + 400 ≤ e then zero d.negative
      else nearest d.negative (d.coefficient * one) (10 ^ (e + 1))

/-- The decimal place below which no positive number starts: the smallest is above `10⁻³²⁴`. -/
def lastPlace : Nat := 324

/-- The exponent of the leading decimal digit of a positive count of units. -/
def leadingExponent (units : Nat) : Int :=
  ((Nat.toDigits 10 (units * 10 ^ lastPlace / one)).length : Int) - lastPlace - 1

/-- Whether a decimal rounds to the given count of units. -/
def roundsTo (units : Nat) (d : Decimal) : Bool :=
  match ofDecimal d with
  | .finite _ found _ => found == units
  | _ => false

/-- The two decimals around a count of units whose last digit stands at `exponent`, the nearer one
first, and of two equally near ones the larger first. -/
def neighbours (units : Nat) (exponent : Int) : List Decimal :=
  let num := units * 10 ^ (-exponent).toNat
  let den := one * 10 ^ exponent.toNat
  let below : Decimal := ⟨false, num / den, exponent⟩
  let above : Decimal := ⟨false, num / den + 1, exponent⟩
  if 2 * (num % den) < den then [below, above] else [above, below]

/-- All digits of a count of units. -/
def exactDecimal (units : Nat) : Decimal :=
  ⟨false, units * 5 ^ unitBits, -unitBits⟩

/-- The decimal with the fewest digits that rounds to a positive count of units, and of those the
nearest one. Seventeen digits always suffice. -/
def shortestUnits (units : Nat) : Decimal :=
  let leading := leadingExponent units
  ((List.range 17).findSome? fun (places : Nat) =>
    (neighbours units (leading - places)).find? (roundsTo units)).getD (exactDecimal units)

end Binary64

end TypedTemplate
