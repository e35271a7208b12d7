import TypedTemplate.Number.Format
import TypedTemplate.Template.Token
/-!
# Rendering

The text of a token, given the values of the inputs and the number separators: constant text as it is, a
value through the mappings and the format of its placeholder, and a question mark where there is no value.
Only an error token cannot be rendered.
-/

namespace TypedTemplate

/-- Why templates cannot be rendered. -/
inductive RenderError where
  | invalidPlaceholder (e : PlaceholderError)
  | missingTemplate (index count : Nat)
deriving DecidableEq, Repr

def indexMessage (index count : Nat) : String :=
  "template index " ++ toString index ++ " out of range (" ++ toString count ++ " templates)"

def RenderError.message : RenderError → String
  | .invalidPlaceholder e => "cannot render invalid placeholder: " ++ e.message
  | .missingTemplate index count => indexMessage index count

def unboundText : Text := ['?']

def flagNumber (flag : Bool) : Binary64 :=
  .ofNat (if flag then 1 else 0)

def renderContent (p : Presentation) (separators : Separators) : Value → Text
  | .bool flag => (p.mapped? (flagNumber flag)).getD (if flag then ['1'] else ['0'])
  | .integer n => (p.mapped? (.ofInt n.toInt)).getD (formatInteger n)
  | .number x => (p.mapped? x).getD (formatReal x p.format separators)
  | .text t => p.mapText t

/-- The text of a value that may be missing. -/
def renderValue (p : Presentation) (separators : Separators) : Option Value → Text
  | none => unboundText
  | some v => renderContent p separators v

def renderToken (inputs : InputBank) (separators : Separators) : Token → Except RenderError Text
  | .text t => .ok t
  | .error e => .error (.invalidPlaceholder e)
  | .declared v => .ok (renderValue v.presentation separators (v.binding.bind inputs.value))
  | .reference r => .ok (renderValue r.presentation separators (r.target.binding.bind inputs.value))

theorem renderToken_of_shown? {inputs : InputBank} {separators : Separators} {token : Token}
    {v : Variable} (hshown : token.shown? = some v) {p : Presentation} (hp : token.presentation? = some p) :
    renderToken inputs separators token = .ok (renderValue p separators (v.binding.bind inputs.value)) := by
  cases token with
  | text | error => exact absurd hshown (by simp [Token.shown?])
  | declared w =>
      obtain rfl := Option.some.inj hshown
      obtain rfl := Option.some.inj hp
      rfl
  | reference r =>
      obtain rfl := Option.some.inj hshown
      obtain rfl := Option.some.inj hp
      rfl

def render (inputs : InputBank) (separators : Separators) : List Token → Except RenderError Text
  | [] => .ok []
  | token :: tokens => do
    let t ← renderToken inputs separators token
    let rest ← render inputs separators tokens
    .ok (t ++ rest)

end TypedTemplate
