import TypedTemplate.Number.Decimal
/-!
# Numerals

A number written out in digits: a sign, the digits before the decimals, and the decimals. `Binary64.fixed`
writes a number with a given count of decimals, rounding its exact value half to even;
`Binary64.shortest` writes the fewest digits that read back. `Numeral.write` then puts the separators in.
-/

namespace TypedTemplate

/-- A number in digits. -/
structure Numeral where
  negative : Bool
  whole : Text
  fraction : Text
deriving DecidableEq, Repr

/-- The last `width` decimal digits of a number, zeros included. -/
def fixedDigits : (width n : Nat) → Text
  | 0, _ => []
  | width + 1, n => fixedDigits width (n / 10) ++ [Nat.digitChar (n % 10)]

theorem length_fixedDigits (width n : Nat) : (fixedDigits width n).length = width := by
  induction width generalizing n with
  | zero => rfl
  | succ width ih => simp [fixedDigits, ih]

namespace Numeral

/-- Digits with `separator` before every third one, counted from the end. -/
def groupDigits (separator : Text) : Text → Text
  | [] => []
  | d :: rest =>
    if rest.length % 3 = 0 ∧ rest ≠ [] then d :: (separator ++ groupDigits separator rest)
    else d :: groupDigits separator rest

/-- The numeral with a group separator between the digits and a decimal separator before the
decimals. -/
def write (group decimal : Text) (n : Numeral) : Text :=
  (if n.negative then ['-'] else []) ++ groupDigits group n.whole ++
    (if n.fraction.isEmpty then [] else decimal ++ n.fraction)

/-- The numeral as programs write it: no groups, and a point. -/
def plain (n : Numeral) : Text :=
  n.write [] ['.']

/-- Drops the zeros at the end of the decimals. -/
def trimFraction (n : Numeral) : Numeral :=
  { n with fraction := (n.fraction.reverse.dropWhile (· == '0')).reverse }

/-- An integer in digits. -/
def ofInt (n : Int) : Numeral :=
  ⟨n < 0, Nat.toDigits 10 n.natAbs, []⟩

end Numeral

/-- A decimal written without an exponent. -/
def Decimal.toNumeral (d : Decimal) : Numeral :=
  match d.exponent with
  | .ofNat e =>
    ⟨d.negative, Nat.toDigits 10 d.coefficient ++ List.replicate e '0', []⟩
  | .negSucc e =>
    ⟨d.negative, Nat.toDigits 10 (d.coefficient / 10 ^ (e + 1)),
      fixedDigits (e + 1) (d.coefficient % 10 ^ (e + 1))⟩

namespace Binary64

/-- What is written for an infinity that a computation left behind. -/
def overflowDigits : Text := ['i', 'n', 'f']

/-- What is written for a value that is no number. -/
def nanDigits : Text := ['N', 'a', 'N']

/-- The number with exactly `places` decimals, the exact value rounded half to even. -/
def fixed (places : Nat) : Binary64 → Numeral
  | .nan => ⟨false, nanDigits, []⟩
  | .infinite s => ⟨s, overflowDigits, []⟩
  | .finite s u _ =>
    let scaled := roundDiv (u * 10 ^ places) one
    ⟨s, Nat.toDigits 10 (scaled / 10 ^ places), fixedDigits places (scaled % 10 ^ places)⟩

/-- The number with the fewest digits that read back, and never an exponent. A number just below a power
of ten may have been carried up to it, so zeros at the end of the decimals are dropped. -/
def shortest : Binary64 → Numeral
  | .nan => ⟨false, nanDigits, []⟩
  | .infinite s => ⟨s, overflowDigits, []⟩
  | .finite s u _ =>
    if u = 0 then ⟨s, ['0'], []⟩
    else { (shortestUnits u).toNumeral.trimFraction with negative := s }

end Binary64

end TypedTemplate
