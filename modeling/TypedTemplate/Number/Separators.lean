import TypedTemplate.ErrorCode
import TypedTemplate.Text.Basic
/-!
# Number separators

The two separators numbers are written with: one between groups of three digits, which may be empty, and
one before the decimals. Both are kept as they were configured; `validate` says whether they can be used.
-/

namespace TypedTemplate

/-- The separators between digit groups and before the decimals. -/
structure Separators where
  group : Text := ['.']
  decimal : Text := [',']
deriving DecidableEq, Repr

namespace Separators

/-- Checks the lengths and then that the two separators differ. -/
def validate (s : Separators) : Except ErrorCode Unit :=
  if 1 < s.group.length then .error .separatorGroupTooLong
  else if 1 < s.decimal.length then .error .separatorDecimalTooLong
  else if s.decimal.length = 0 then .error .separatorDecimalTooShort
  else if s.group = s.decimal then .error .separatorsIdentical
  else .ok ()

/-- The decimal separator, when it is a single character. -/
def decimalChar? (s : Separators) : Option Char :=
  match s.decimal with
  | [c] => some c
  | _ => none

end Separators

end TypedTemplate
