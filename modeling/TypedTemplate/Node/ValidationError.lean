import TypedTemplate.Template.Rendering
/-!
# Validation errors

What can be wrong with the templates of a node, its separators, or a value given to one of its inputs. The
errors of templates and separators carry a code; the others speak for themselves.
-/

namespace TypedTemplate

/-- Why an edit or an assignment is refused. -/
inductive ValidationError where
  | separator (code : ErrorCode)
  | template (index : Nat) (code : ErrorCode)
  | placeholder (index : Nat) (e : PlaceholderError)
  | invalidIndex (index count : Nat)
  | unknownInput (name : Text)
  | invalidValue (name : Text) (kind : Kind) (value : Text)
deriving DecidableEq, Repr

namespace ValidationError

def code? : ValidationError → Option ErrorCode
  | separator code => some code
  | template _ code => some code
  | placeholder _ e => some e.code
  | _ => none

/-- The index of the template an error belongs to. -/
def template? : ValidationError → Option Nat
  | template index _ => some index
  | placeholder index _ => some index
  | _ => none

/-- Where in its template an error stands. -/
def span? : ValidationError → Option Span
  | placeholder _ e => some e.span
  | _ => none

/-- How a template is called in messages: the first one has number one. -/
def ordinal (index : Nat) : String :=
  toString (index + 1)

def message : ValidationError → String
  | separator code => "invalid number separators: " ++ code.name
  | template index code => "template " ++ ordinal index ++ ": " ++ code.name
  | placeholder index e => "template " ++ ordinal index ++ ": " ++ e.message
  | invalidIndex index count => indexMessage index count
  | unknownInput name => "no input named '" ++ String.ofList name ++ "'"
  | invalidValue name kind value =>
    "invalid " ++ kind.name ++ " value '" ++ String.ofList value ++ "' for input '"
      ++ String.ofList name ++ "'"

end ValidationError

/-- The code for too many variables of a kind. -/
def ErrorCode.tooMany : Kind → ErrorCode
  | .bool => .tooManyBinPlaceholders
  | .integer => .tooManyIntPlaceholders
  | .number => .tooManyNumPlaceholders
  | .text => .tooManyStrPlaceholders

end TypedTemplate
