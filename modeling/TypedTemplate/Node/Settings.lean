import TypedTemplate.Number.Separators
import TypedTemplate.Toml.Document
/-!
# Settings

What a node is configured with: the number separators, whether every template needs a placeholder, and the
language of its messages. Settings are read from a TOML document, where every key may be missing and no
other key may stand.
-/

namespace TypedTemplate

structure Settings where
  separators : Separators := {}
  requirePlaceholders : Bool := true
  language : String := "en"
deriving DecidableEq, Repr

namespace Settings

/-- The keys a settings document may hold. -/
def keys : List Text :=
  ["language".toList, "require_placeholders".toList, "format".toList]

/-- The keys the table of separators may hold. -/
def separatorKeys : List Text :=
  ["group".toList, "decimal".toList]

/-- Whether a table holds no keys but the given ones. -/
def hasOnly (allowed : List Text) (es : Toml.Entries) : Bool :=
  es.all fun e => allowed.contains e.1

/-- The text of a key that may be missing. -/
def text? (es : Toml.Entries) (key : String) (default : Text) : Option Text :=
  match es.find? key.toList with
  | none => some default
  | some (.string t) => some t
  | some _ => none

/-- The truth value of a key that may be missing. -/
def flag? (es : Toml.Entries) (key : String) (default : Bool) : Option Bool :=
  match es.find? key.toList with
  | none => some default
  | some (.boolean flag) => some flag
  | some _ => none

/-- Reads separators: a table with a group and a decimal separator, or an array that starts with the
two. -/
def separators? : Option Toml.Value → Option Separators
  | none => some {}
  | some (.table _ es) =>
    if hasOnly separatorKeys es then do
      let default : Separators := {}
      let group ← text? es "group" default.group
      let decimal ← text? es "decimal" default.decimal
      some { group, decimal }
    else none
  | some (.array _ (.string group :: .string decimal :: _)) => some { group, decimal }
  | some _ => none

def ofEntries? (es : Toml.Entries) : Option Settings :=
  if hasOnly keys es then do
    let default : Settings := {}
    let language ← text? es "language" default.language.toList
    let requirePlaceholders ← flag? es "require_placeholders" default.requirePlaceholders
    let separators ← separators? (es.find? "format".toList)
    some { separators, requirePlaceholders, language := String.ofList language }
  else none

def ofToml? (document : Text) : Option Settings :=
  (Toml.document? document).bind ofEntries?

end Settings

end TypedTemplate
