import TypedTemplate.Toml.Document
/-!
# Message catalogs

A catalog holds messages by language and key. A message missing in a language is looked for in English,
and failing that the key stands for itself. One catalog laid over another hides the messages they share and
keeps the others: table by table, and in a table message by message, what is on top takes the place of what
it covers.
-/

namespace TypedTemplate

/-- Messages by key, in tables by language; of two messages for one key the first counts. -/
abbrev Catalog := List (String × List (String × String))

namespace Catalog

/-- The language whose messages stand in for missing ones. -/
def fallbackLanguage : String := "en"

def message? (c : Catalog) (language key : String) : Option String :=
  c.findSome? fun table => if table.1 = language then table.2.lookup key else none

/-- The message of a key in a language, in the fallback language, or the key itself. -/
def localize (c : Catalog) (language key : String) : String :=
  match c.message? language key with
  | some message => message
  | none => (c.message? fallbackLanguage key).getD key

/-- Changes what is found under a key; a new key gets its place behind the others. -/
def alter {α : Type} (key : String) (change : Option α → α) : List (String × α) → List (String × α)
  | [] => [(key, change none)]
  | entry :: entries =>
    if entry.1 = key then (key, change (some entry.2)) :: entries
    else entry :: alter key change entries

/-- Adds messages to a table; each takes the place of the one that has its key. -/
def addMessages (table messages : List (String × String)) : List (String × String) :=
  messages.foldr (fun message => alter message.1 fun _ => message.2) table

/-- Adds messages to the table of their language, which is made when there is none. -/
def addTable (table : String × List (String × String)) (c : Catalog) : Catalog :=
  alter table.1 (fun messages => addMessages (messages.getD []) table.2) c

/-- Lays another catalog over this one. Of two of its tables for one language the first counts, and so the
tables are added from the last to the first. -/
def overlay (c top : Catalog) : Catalog :=
  top.foldr addTable c

/-- Adds an element to a sorted list, unless it is there already. -/
def insertSorted (s : String) : List String → List String
  | [] => [s]
  | t :: ts => if s = t then t :: ts else if s < t then s :: t :: ts else t :: insertSorted s ts

def languages (c : Catalog) : List String :=
  c.foldr (fun table sorted => insertSorted table.1 sorted) []

/-! ### Reading -/

/-- The key under which the text of a date or a time is found when one stands in the place of a table. -/
def dateTimeKey : Text :=
  "$__toml_private_datetime".toList

/-- The entries of a value read as a table. -/
def tableEntries? : Toml.Value → Option Toml.Entries
  | .table _ es => some es
  | .dateTime written => some [(dateTimeKey, .string written)]
  | _ => none

/-- Reads an entry whose value is a message. -/
def readMessage? : Text × Toml.Value → Option (String × String)
  | (key, .string t) => some (String.ofList key, String.ofList t)
  | _ => none

/-- Reads an entry whose value is the table of a language. -/
def readLanguage? (entry : Text × Toml.Value) : Option (String × List (String × String)) := do
  let es ← tableEntries? entry.2
  let messages ← es.mapM readMessage?
  some (String.ofList entry.1, messages)

/-- Reads a catalog from a document: a table `messages` of tables of texts, beside which anything else may
stand. -/
def ofToml? (document : Text) : Option Catalog := do
  let es ← Toml.document? document
  let tables ← (es.find? "messages".toList).bind tableEntries?
  tables.mapM readLanguage?

end Catalog

end TypedTemplate
