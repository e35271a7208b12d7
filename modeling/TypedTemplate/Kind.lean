import TypedTemplate.Number.Binary64
import TypedTemplate.Text.Basic
/-!
# Kinds

A placeholder variable has one of four kinds, chosen by the first letter of its format. `PerKind` is a
value of some type for each kind: the tallies of a session and the slots of an input bank are read and
changed through it, one kind at a time.
-/

namespace TypedTemplate

/-- The type of value a variable stands for. -/
inductive Kind where
  | bool
  | integer
  | number
  | text
deriving DecidableEq, Repr

namespace Kind

/-- The kinds in the order inputs are listed. -/
def all : List Kind := [bool, integer, number, text]

theorem mem_all (kind : Kind) : kind ∈ all := by
  cases kind <;> decide

/-- The position of a kind in the order of `all`. -/
def index : Kind → Nat
  | bool => 0
  | integer => 1
  | number => 2
  | text => 3

/-- The kind a format letter selects, in either case. -/
def ofLetter? (letter : Char) : Option Kind :=
  match asciiUpper letter with
  | 'B' => some bool
  | 'I' => some integer
  | 'F' => some number
  | 'G' => some number
  | 'N' => some number
  | 'P' => some number
  | 'S' => some text
  | _ => none

/-- The word for a kind in messages and listings. -/
def name : Kind → String
  | bool => "bool"
  | integer => "integer"
  | number => "number"
  | text => "text"

/-- The word that generated names of this kind start with. -/
def generatedWord : Kind → String
  | bool => "Bool"
  | integer => "Integer"
  | number => "Number"
  | text => "Text"

/-- What a value of this kind holds. -/
@[reducible] def Content : Kind → Type
  | bool => Bool
  | integer => Int64
  | number => Binary64
  | text => Text

end Kind

/-- A value for each kind. -/
structure PerKind (α : Kind → Type) where
  bool : α .bool
  integer : α .integer
  number : α .number
  text : α .text

namespace PerKind

variable {α : Kind → Type}

def get (p : PerKind α) : (kind : Kind) → α kind
  | .bool => p.bool
  | .integer => p.integer
  | .number => p.number
  | .text => p.text

def set (p : PerKind α) : (kind : Kind) → α kind → PerKind α
  | .bool, a => { p with bool := a }
  | .integer, a => { p with integer := a }
  | .number, a => { p with number := a }
  | .text, a => { p with text := a }

def ofFn (f : (kind : Kind) → α kind) : PerKind α :=
  ⟨f .bool, f .integer, f .number, f .text⟩

@[simp] theorem get_set_self (p : PerKind α) (kind : Kind) (a : α kind) :
    (p.set kind a).get kind = a := by
  cases kind <;> rfl

theorem get_set_of_ne (p : PerKind α) {kind other : Kind} (a : α kind) (h : other ≠ kind) :
    (p.set kind a).get other = p.get other := by
  cases kind <;> cases other <;> simp_all [get, set]

@[simp] theorem get_ofFn (f : (kind : Kind) → α kind) (kind : Kind) : (ofFn f).get kind = f kind := by
  cases kind <;> rfl

theorem ext_get {p q : PerKind α} (h : ∀ kind, p.get kind = q.get kind) : p = q := by
  cases p
  cases q
  have hb := h .bool
  have hi := h .integer
  have hn := h .number
  have ht := h .text
  simp only [get] at hb hi hn ht
  rw [hb, hi, hn, ht]

end PerKind

/-- A count for each kind. -/
abbrev Tally := PerKind fun _ => Nat

namespace Tally

def zero : Tally := ⟨0, 0, 0, 0⟩

def bump (t : Tally) (kind : Kind) : Tally :=
  t.set kind (t.get kind + 1)

def ofKinds (kinds : List Kind) : Tally :=
  PerKind.ofFn fun kind => kinds.count kind

def total (t : Tally) : Nat :=
  t.bool + t.integer + t.number + t.text

@[simp] theorem get_zero (kind : Kind) : zero.get kind = 0 := by
  cases kind <;> rfl

@[simp] theorem get_bump_self (t : Tally) (kind : Kind) : (t.bump kind).get kind = t.get kind + 1 := by
  simp [bump]

theorem get_bump_of_ne (t : Tally) {kind other : Kind} (hne : other ≠ kind) :
    (t.bump kind).get other = t.get other := by
  simp [bump, PerKind.get_set_of_ne _ _ hne]

@[simp] theorem get_ofKinds (kinds : List Kind) (kind : Kind) :
    (ofKinds kinds).get kind = kinds.count kind :=
  PerKind.get_ofFn _ kind

theorem ofKinds_concat (kinds : List Kind) (kind : Kind) :
    ofKinds (kinds ++ [kind]) = (ofKinds kinds).bump kind := by
  apply PerKind.ext_get
  intro other
  rw [get_ofKinds, List.count_append]
  by_cases hother : other = kind
  · rw [hother, get_bump_self, get_ofKinds, List.count_singleton_self]
  · rw [get_bump_of_ne _ hother, get_ofKinds, List.count_singleton, if_neg (by simpa using Ne.symm hother)]
    rfl

instance : DecidableEq Tally := fun t u =>
  if h : t.bool = u.bool ∧ t.integer = u.integer ∧ t.number = u.number ∧ t.text = u.text then
    .isTrue (by cases t; cases u; simp_all)
  else .isFalse (by intro e; subst e; simp at h)

end Tally

end TypedTemplate
