import TypedTemplate.Number.Binary64
import TypedTemplate.Text.Basic
/-!
# TOML values

The values of a TOML document, and the rules by which a document may add to its tables. A table remembers
how it came about: a table written in braces is closed, one that has a header gets no second header, and
one made by a dotted key is extended by dotted keys only.
-/

namespace TypedTemplate.Toml

/-- How a table came about. -/
inductive Origin where
  /-- It has a header of its own. -/
  | header
  /-- A header names a table inside it. -/
  | implied
  /-- A dotted key names a value inside it. -/
  | dotted
  /-- It is written in braces. -/
  | closed
deriving DecidableEq, Repr

/-- A value; `ofTables` marks an array whose elements have headers. A date or a time is kept as it is
written canonically. -/
inductive Value where
  | string (t : Text)
  | integer (n : Int)
  | float (x : Binary64)
  | boolean (flag : Bool)
  | dateTime (written : Text)
  | array (ofTables : Bool) (elements : List Value)
  | table (origin : Origin) (entries : List (Text × Value))

abbrev Entries := List (Text × Value)

namespace Entries

def find? (es : Entries) (key : Text) : Option Value :=
  (List.find? (fun e => e.1 = key) es).map Prod.snd

/-- Gives a key a value, in its place when it has one already. -/
def put (es : Entries) (key : Text) (v : Value) : Entries :=
  if (es.find? key).isSome then es.map fun e => if e.1 = key then (key, v) else e
  else es ++ [(key, v)]

/-- Changes the table at the end of a path. Missing tables are made with the given origin; on the way,
an array of tables stands for its last element, and a path of dotted keys does not enter a table with a
header. -/
def descend (made : Origin) (change : Origin → Entries → Option Entries) :
    List Text → Origin → Entries → Option Entries
  | [], origin, es => change origin es
  | key :: path, _, es =>
    match es.find? key with
    | none => (descend made change path made []).map fun sub => es.put key (.table made sub)
    | some (.table origin sub) =>
      if origin = .closed ∨ (made = .dotted ∧ origin = .header) then none
      else (descend made change path origin sub).map fun sub => es.put key (.table origin sub)
    | some (.array true elements) =>
      match elements.getLast? with
      | some (.table origin sub) =>
        (descend made change path origin sub).map fun sub =>
          es.put key (.array true (elements.dropLast ++ [.table origin sub]))
      | _ => none
    | some _ => none

/-- Adds a key of a path of dotted keys. The table it goes to must be the one at hand, or one that
dotted keys made. -/
def addDotted (path : List Text) (key : Text) (v : Value) (es : Entries) : Option Entries :=
  let add := fun (origin : Origin) (es : Entries) =>
    if (origin == .dotted) == path.isEmpty || (es.find? key).isSome then none
    else some (es ++ [(key, v)])
  descend .dotted add path .header es

/-- Opens the table of a header. -/
def openTable (path : List Text) (key : Text) (es : Entries) : Option Entries :=
  let start := fun (_ : Origin) (es : Entries) =>
    match es.find? key with
    | none => some (es.put key (.table .header []))
    | some (.table .implied sub) => some (es.put key (.table .header sub))
    | some _ => none
  descend .implied start path .header es

/-- Opens a new table at the end of an array of tables. -/
def openElement (path : List Text) (key : Text) (es : Entries) : Option Entries :=
  let start := fun (_ : Origin) (es : Entries) =>
    match es.find? key with
    | none => some (es.put key (.array true [.table .header []]))
    | some (.array true elements) =>
      some (es.put key (.array true (elements ++ [.table .header []])))
    | some _ => none
  descend .implied start path .header es

/-- Adds a key with a value to the table of the last header. -/
def addUnder (header path : List Text) (key : Text) (v : Value) (es : Entries) : Option Entries :=
  descend .implied (fun _ es => es.addDotted path key v) header .header es

end Entries

end TypedTemplate.Toml
