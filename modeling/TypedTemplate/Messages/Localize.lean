import TypedTemplate.Messages.Default
import TypedTemplate.Node.Basic
/-!
# Localized results

What the host of a node is told about the last edit: whether it was refused, and why, in the language of
the node. Errors with a code are worded by the catalog, the others word themselves.
-/

namespace TypedTemplate

/-- The outcome of an edit as its host sees it. -/
structure ValidationResult where
  isError : Bool
  message : String
deriving DecidableEq, Repr

namespace ValidationResult

def accepted : ValidationResult := ⟨false, ""⟩

end ValidationResult

/-- The word for a template in a language, with the number of the template. -/
def Catalog.templateLabel (c : Catalog) (language : String) (index : Nat) : String :=
  c.localize language "Template" ++ " " ++ ValidationError.ordinal index ++ ": "

/-- The message of an error in a language. -/
def ValidationError.localized (c : Catalog) (language : String) : ValidationError → String
  | .separator code => c.localize language code.name
  | .template index code => c.templateLabel language index ++ c.localize language code.name
  | .placeholder index e =>
    c.templateLabel language index ++ c.localize language e.code.name ++ " \x7b"
      ++ String.ofList e.body ++ "\x7d"
  | e => e.message

/-- The outcome that an error is reported as. -/
def ValidationError.toResult (e : ValidationError) (c : Catalog) (language : String) :
    ValidationResult :=
  ⟨true, e.localized c language⟩

def Node.validationResult (n : Node) (c : Catalog) : ValidationResult :=
  match n.lastError with
  | some e => e.toResult c n.settings.language
  | none => .accepted

end TypedTemplate
