import TypedTemplate.Number.Numeral
import TypedTemplate.Number.Separators
/-!
# Number formats

A number format is a letter and an optional digit: `F` fixed point, `N` fixed point with groups, `P`
percent, `G` general, and `D` for a rounded whole number; the digit is the count of decimals, for `G` the
count of significant digits. `formatReal` writes a number in a format with the configured separators.
-/

namespace TypedTemplate

/-- How a number is laid out. -/
inductive NumberStyle where
  | fixed
  | grouped
  | percent
  | whole
  | general
deriving DecidableEq, Repr

/-- A style with the digit written after its letter. -/
structure NumberFormat where
  style : NumberStyle
  precision : Option Nat
deriving DecidableEq, Repr

namespace NumberFormat

/-- The style a letter stands for, in either case; any other character stands for the general one. -/
def styleOf (letter : Char) : NumberStyle :=
  match asciiUpper letter with
  | 'F' => .fixed
  | 'N' => .grouped
  | 'P' => .percent
  | 'D' => .whole
  | _ => .general

/-- Reads a format: the first character is the letter, the second the precision if it is a digit. -/
def ofText : Text → NumberFormat
  | [] => ⟨.general, none⟩
  | [letter] => ⟨styleOf letter, none⟩
  | letter :: digit :: _ =>
    ⟨styleOf letter, if digit.isDigit then some (digit.toNat - '0'.toNat) else none⟩

end NumberFormat

/-- The decimals written when a format gives no precision. -/
def defaultDecimals : Nat := 2

namespace Binary64

/-- The denominator of `lnTen`. -/
def lnTenUnit : Nat := 1000000000000000000

/-- The natural logarithm of ten, in units of `10⁻¹⁸`. -/
def lnTen : Nat := 2302585092994045684

/-- Whether a count of units below `10 ^ power` is so close to it that its decimal logarithm, rounded to
the nearest 64-bit number, is `power`: half the distance from `power` to the number below it is
`2 ^ (log₂ |2 power - 1| - 54)`, and no number lies close below zero. The standard library leaves the
precision of this logarithm open, and here it is taken as correctly rounded; where it is not, the answer
may differ for a few numbers just below powers of ten. -/
def reachesPower (units : Nat) (power : Int) : Bool :=
  if power = 0 then false
  else
    let above := 10 ^ power.toNat * one
    let found := units * 10 ^ (-power).toNat
    (above - found) * 2 ^ (significantBits + 1) * lnTenUnit
      ≤ above * lnTen * 2 ^ (2 * power - 1).natAbs.log2

/-- The floor of the decimal logarithm of a positive count of units, the logarithm correctly rounded to a
64-bit number first, though the standard library promises no such precision (see `reachesPower`). -/
def magnitude (units : Nat) : Int :=
  let leading := leadingExponent units
  if reachesPower units (leading + 1) then leading + 1 else leading

/-- The number with at most `digits` significant digits and no zeros at the end of the decimals. Digits
before the decimal point are cut by dividing by a power of ten, rounding and multiplying again, each
step in 64 bits. -/
def significant (digits : Nat) : Binary64 → Numeral
  | .finite s u h =>
    if u = 0 then ⟨false, ['0'], []⟩
    else
      let x : Binary64 := .finite s u h
      let decimals := digits - 1 - magnitude u
      if 0 < decimals then (x.fixed decimals.toNat).trimFraction
      else
        let scale := powTen (-decimals).toNat
        ((x / scale).round * scale).fixed 0
  | x => x.fixed 0

end Binary64

/-- The general style: the shortest digits, or the given count of significant ones. -/
def generalNumeral (precision : Option Nat) (x : Binary64) : Numeral :=
  match precision with
  | some (digits + 1) => x.significant (digits + 1)
  | _ => x.shortest

/-- Writes a finite number in a format. -/
def NumberFormat.write (format : NumberFormat) (separators : Separators) (x : Binary64) : Text :=
  let decimals := format.precision.getD defaultDecimals
  match format.style with
  | .fixed => (x.fixed decimals).write [] separators.decimal
  | .grouped => (x.fixed decimals).write separators.group separators.decimal
  | .percent =>
    ((x * Binary64.ofNat 100).fixed decimals).write separators.group separators.decimal ++ [' ', '%']
  | .whole => (x.round.fixed 0).write [] separators.decimal
  | .general => (generalNumeral format.precision x).write [] separators.decimal

/-- Writes a number in the format a text gives. -/
def formatReal (x : Binary64) (format : Text) (separators : Separators) : Text :=
  match x with
  | .nan => Binary64.nanDigits
  | .infinite negative => if negative then ['-', '∞'] else ['∞']
  | .finite .. => (NumberFormat.ofText format).write separators x

/-- Writes an integer: its digits, with a minus when it is negative. -/
def formatInteger (n : Int64) : Text :=
  (Numeral.ofInt n.toInt).plain

end TypedTemplate
