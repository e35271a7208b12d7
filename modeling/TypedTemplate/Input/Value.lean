import TypedTemplate.Kind
import TypedTemplate.Number.Numeral
import TypedTemplate.Number.Read
/-!
# Values

What an input holds: a value of one of the four kinds. A value is read from text by the rules of its kind
and written back in the plainest form.
-/

namespace TypedTemplate

inductive Value where
  | bool (flag : Bool)
  | integer (n : Int64)
  | number (x : Binary64)
  | text (t : Text)
deriving DecidableEq

namespace Value

def kind : Value → Kind
  | bool _ => .bool
  | integer _ => .integer
  | number _ => .number
  | text _ => .text

def ofContent : (kind : Kind) → kind.Content → Value
  | .bool, flag => .bool flag
  | .integer, n => .integer n
  | .number, x => .number x
  | .text, t => .text t

/-- What the value holds, if it is of the given kind. -/
def content? : (kind : Kind) → Value → Option kind.Content
  | .bool, bool flag => some flag
  | .integer, integer n => some n
  | .number, number x => some x
  | .text, text t => some t
  | _, _ => none

@[simp] theorem kind_ofContent (kind : Kind) (c : kind.Content) : (ofContent kind c).kind = kind := by
  cases kind <;> rfl

@[simp] theorem content?_ofContent (kind : Kind) (c : kind.Content) :
    (ofContent kind c).content? kind = some c := by
  cases kind <;> rfl

theorem content?_eq_some_iff {kind : Kind} {v : Value} {c : kind.Content} :
    v.content? kind = some c ↔ v = ofContent kind c := by
  constructor
  · intro h
    cases kind <;> cases v <;> simp_all [content?, ofContent]
  · rintro rfl
    exact content?_ofContent kind c

/-- Reads a truth value: `true` or `1`, `false` or `0`, in either case. -/
def readBool (t : Text) : Except NumberError Bool :=
  let word := t.trim.map asciiLower
  if word = ['t', 'r', 'u', 'e'] ∨ word = ['1'] then .ok true
  else if word = ['f', 'a', 'l', 's', 'e'] ∨ word = ['0'] then .ok false
  else if word = [] then .error .empty
  else .error .malformed

/-- Reads a value of a kind; a text is taken as it is. -/
def read (kind : Kind) (decimal : Char) (t : Text) : Except NumberError Value :=
  match kind with
  | .bool => (readBool t).map .bool
  | .integer => (readInteger t).map .integer
  | .number => (readNumber decimal t).map .number
  | .text => .ok (.text t)

/-- The value written plainly: numbers with a point and the fewest digits. -/
def plain : Value → Text
  | bool flag => if flag then ['t', 'r', 'u', 'e'] else ['f', 'a', 'l', 's', 'e']
  | integer n => (Numeral.ofInt n.toInt).plain
  | number x => x.shortest.plain
  | text t => t

end Value

end TypedTemplate
