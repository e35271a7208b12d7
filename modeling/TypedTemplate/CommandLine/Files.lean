import TypedTemplate.Messages.Catalog
import TypedTemplate.Node.Settings
/-!
# Reading files

What can go wrong when a file of settings or messages is loaded, and how it is worded. The reading itself
is left to the program; here a file is the outcome of the attempt, bytes or an error.
-/

namespace TypedTemplate

/-- Why bytes cannot be read as text. -/
inductive FileError where
  | notFound
  | isDirectory
  | notDirectory
  | permissionDenied
  | invalidText
  | other (description : String)
deriving DecidableEq, Repr

def FileError.message : FileError → String
  | notFound => "No such file or directory (os error 2)"
  | isDirectory => "Is a directory (os error 21)"
  | notDirectory => "Not a directory (os error 20)"
  | permissionDenied => "Permission denied (os error 13)"
  | invalidText => "stream did not contain valid UTF-8"
  | other description => description

def decodeBytes (bytes : ByteArray) : Except FileError Text :=
  match String.fromUTF8? bytes with
  | some s => .ok s.toList
  | none => .error .invalidText

/-- Why a document cannot be loaded. -/
inductive LoadError where
  | unreadable (e : FileError)
  | malformed
deriving DecidableEq, Repr

def LoadError.message (sort : String) : LoadError → String
  | unreadable e => "Failed to read " ++ sort ++ " file: " ++ e.message
  | malformed => "Failed to parse " ++ sort ++ " TOML: TOML parse error"

/-- Loads a document from the outcome of reading its file. -/
def loadDocument {α : Type} (read? : Text → Option α) (file : Except FileError ByteArray) :
    Except LoadError α :=
  match file >>= decodeBytes with
  | .error e => .error (.unreadable e)
  | .ok document =>
    match read? document with
    | some a => .ok a
    | none => .error .malformed

def Settings.load (file : Except FileError ByteArray) : Except LoadError Settings :=
  loadDocument Settings.ofToml? file

def Settings.sort : String := "config"

def Catalog.load (file : Except FileError ByteArray) : Except LoadError Catalog :=
  loadDocument Catalog.ofToml? file

def Catalog.sort : String := "catalog"

end TypedTemplate
