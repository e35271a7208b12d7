import TypedTemplate.ErrorCode
import TypedTemplate.Input.Bank
import TypedTemplate.Template.Presentation
import TypedTemplate.Template.Scan
/-!
# Tokens

What a template is made of once its placeholders are parsed: constant text, declared variables,
references to variables declared before, and placeholders that could not be parsed. A variable knows the
input slot it is bound to, once a node has bound it.
-/

namespace TypedTemplate

/-- A variable declared by a placeholder. -/
structure Variable where
  kind : Kind
  name : Text
  /-- The author left the name out and it was generated. -/
  isGenerated : Bool
  presentation : Presentation
  binding : Option Handle := none
deriving DecidableEq

/-- A placeholder that shows a variable declared before, in its own way. -/
structure Reference where
  name : Text
  presentation : Presentation
  target : Variable
deriving DecidableEq

/-- A placeholder that could not be parsed: its body, what is wrong, and where it stands. -/
structure PlaceholderError where
  body : Text
  code : ErrorCode
  span : Span
deriving DecidableEq, Repr

def PlaceholderError.message (e : PlaceholderError) : String :=
  e.code.name ++ " in placeholder '\x7b" ++ String.ofList e.body ++ "\x7d'"

/-- A parsed part of a template. -/
inductive Token where
  | text (t : Text)
  | error (e : PlaceholderError)
  | declared (v : Variable)
  | reference (r : Reference)
deriving DecidableEq

namespace Token

/-- Whether the part was written in braces. -/
def isPlaceholder : Token → Bool
  | text _ => false
  | _ => true

def error? : Token → Option PlaceholderError
  | error e => some e
  | _ => none

def shown? : Token → Option Variable
  | declared v => some v
  | reference r => some r.target
  | _ => none

def name? : Token → Option Text
  | declared v => some v.name
  | reference r => some r.name
  | _ => none

def presentation? : Token → Option Presentation
  | declared v => some v.presentation
  | reference r => some r.presentation
  | _ => none

/-- The kind of the value a placeholder shows. -/
def kind? (token : Token) : Option Kind :=
  token.shown?.map Variable.kind

def bind (binding : Variable → Option Handle) : Token → Token
  | declared v => declared { v with binding := binding v }
  | reference r => reference { r with target := { r.target with binding := binding r.target } }
  | token => token

@[simp] theorem shown?_bind (binding : Variable → Option Handle) (token : Token) :
    (token.bind binding).shown? = token.shown?.map fun v => { v with binding := binding v } := by
  cases token <;> rfl

@[simp] theorem name?_bind (binding : Variable → Option Handle) (token : Token) :
    (token.bind binding).name? = token.name? := by
  cases token <;> rfl

@[simp] theorem presentation?_bind (binding : Variable → Option Handle) (token : Token) :
    (token.bind binding).presentation? = token.presentation? := by
  cases token <;> rfl

@[simp] theorem error?_bind (binding : Variable → Option Handle) (token : Token) :
    (token.bind binding).error? = token.error? := by
  cases token <;> rfl

end Token

end TypedTemplate
