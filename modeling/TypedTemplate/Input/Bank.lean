import TypedTemplate.Input.Value
/-!
# The input bank

A node keeps one slot for every variable of its templates, in a list for each kind. A handle is a kind and
a position; resizing keeps the slots that survive, values included. Every operation works on the list of
one kind, so a handle of another kind never sees it.
-/

namespace TypedTemplate

structure Handle where
  kind : Kind
  index : Nat
deriving DecidableEq, Repr

/-- A named place for a value. -/
structure Slot (α : Type) where
  name : Text
  value : Option α
deriving DecidableEq

/-- A slot as it is created: no name and no value. -/
def Slot.fresh {α : Type} : Slot α :=
  ⟨[], none⟩

/-- The slots of all inputs, by kind. -/
abbrev InputBank := PerKind fun kind => List (Slot kind.Content)

namespace InputBank

def empty : InputBank := ⟨[], [], [], []⟩

def counts (b : InputBank) : Tally :=
  PerKind.ofFn fun kind => (b.get kind).length

/-- Keeps the first `size` slots and adds fresh ones up to that size. -/
def resizeSlots {α : Type} (size : Nat) (slots : List (Slot α)) : List (Slot α) :=
  slots.take size ++ List.replicate (size - slots.length) .fresh

/-- Brings every kind to the given number of slots. -/
def resize (b : InputBank) (sizes : Tally) : InputBank :=
  PerKind.ofFn fun kind => resizeSlots (sizes.get kind) (b.get kind)

def slot? (b : InputBank) (h : Handle) : Option (Slot h.kind.Content) :=
  (b.get h.kind)[h.index]?

/-- Changes the slot at a handle, if there is one. -/
def modify (b : InputBank) (h : Handle) (f : Slot h.kind.Content → Slot h.kind.Content) :
    InputBank :=
  b.set h.kind ((b.get h.kind).modify h.index f)

/-- The value at a handle, if the slot exists and holds one. -/
def value (b : InputBank) (h : Handle) : Option Value :=
  (b.slot? h).bind fun slot => slot.value.map (Value.ofContent h.kind)

def name (b : InputBank) (h : Handle) : Option Text :=
  (b.slot? h).map Slot.name

/-- Stores a value; nothing is stored when the slot is missing or the value is of another kind. -/
def put? (b : InputBank) (h : Handle) (v : Value) : Option InputBank :=
  match v.content? h.kind, b.slot? h with
  | some c, some _ => some (b.modify h fun slot => { slot with value := some c })
  | _, _ => none

def clear (b : InputBank) (h : Handle) : InputBank :=
  b.modify h fun slot => { slot with value := none }

def rename (b : InputBank) (h : Handle) (name : Text) : InputBank :=
  b.modify h fun slot => { slot with name }

/-- The first slot with the given name, in the order of the kinds. -/
def find? (b : InputBank) (name : Text) : Option Handle :=
  Kind.all.findSome? fun kind =>
    ((b.get kind).findIdx? fun slot => slot.name = name).map fun index => ⟨kind, index⟩

/-- The handles of all slots, by kind and then by position. -/
def handles (b : InputBank) : List Handle :=
  Kind.all.flatMap fun kind => (List.range (b.get kind).length).map fun index => ⟨kind, index⟩

end InputBank

end TypedTemplate
