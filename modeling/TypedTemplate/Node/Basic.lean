import TypedTemplate.Node.Parse
/-!
# Nodes

A node owns a list of templates and one input for every variable they declare. Every edit stores the new
texts or settings and parses all templates again. When that succeeds the node takes over the new tokens,
variables and separators as a whole, and the inputs keep their values by position; when it fails the node
keeps what it had, and remembers the error until the next success.
-/

namespace TypedTemplate

/-- A template: its text, and the tokens of the last time the templates could be parsed. -/
structure Template where
  text : Text
  tokens : List Token
deriving DecidableEq

def Template.blank : Template := ⟨[], []⟩

/-- Whether the tokens of a node are those of its texts. -/
inductive NodeState where
  | idle
  | stale
deriving DecidableEq, Repr

structure Node where
  settings : Settings
  /-- The separators of the last time the templates could be parsed. -/
  separators : Separators
  templates : List Template := []
  declared : List Variable := []
  inputs : InputBank := .empty
  lastError : Option ValidationError := none
  revision : Nat := 0

def bindVariables (next : Tally) : List Variable → List Variable
  | [] => []
  | v :: vs =>
    { v with binding := some ⟨v.kind, next.get v.kind⟩ } :: bindVariables (next.bump v.kind) vs

/-- Names the input of a bound variable after it. -/
def InputBank.nameAfter (b : InputBank) (v : Variable) : InputBank :=
  match v.binding with
  | some h => b.rename h v.name
  | none => b

namespace Node

/-- A node without templates. Separators that cannot be used are replaced by the default ones until the
first edit. -/
def ofSettings (settings : Settings) : Node :=
  { settings
    separators := match settings.separators.validate with
      | .ok () => settings.separators
      | .error _ => {} }

def state (n : Node) : NodeState :=
  if n.lastError.isSome then .stale else .idle

def tokens? (n : Node) (index : Nat) : Option (List Token) :=
  n.templates[index]?.map Template.tokens

/-! ### Edits -/

/-- Gives each template its tokens. -/
def retoken : List Template → List (List Token) → List Template
  | t :: ts, tokens :: rest => { t with tokens } :: retoken ts rest
  | ts, _ => ts

/-- Takes over templates that were parsed. -/
def adopt (n : Node) (parsed : ParsedTemplates) : Node :=
  let declared := bindVariables .zero parsed.declared
  let binding := fun (v : Variable) =>
    (declared.find? fun bound => bound.name = v.name).bind Variable.binding
  { n with
    separators := n.settings.separators
    templates := retoken n.templates (parsed.tokens.map fun tokens => tokens.map (Token.bind binding))
    declared
    inputs := declared.foldl InputBank.nameAfter
      (n.inputs.resize (Tally.ofKinds (declared.map Variable.kind)))
    lastError := none
    revision := n.revision + 1 }

def reparse (n : Node) : Except ValidationError Unit × Node :=
  match ParsedTemplates.parse n.settings (n.templates.map Template.text) with
  | .ok parsed => (.ok (), n.adopt parsed)
  | .error e => (.error e, { n with lastError := some e })

/-- Gives templates new texts; where there are more texts than templates, templates are added. -/
def retext : List Template → List Text → List Template
  | _, [] => []
  | [], text :: texts => { Template.blank with text } :: retext [] texts
  | t :: ts, text :: texts => { t with text } :: retext ts texts

def setTemplates (n : Node) (texts : List Text) : Except ValidationError Unit × Node :=
  { n with templates := retext n.templates texts }.reparse

/-- Replaces the text of one template; an index that no template has changes nothing. -/
def setTemplate (n : Node) (index : Nat) (text : Text) : Except ValidationError Unit × Node :=
  if index < n.templates.length then
    { n with templates := n.templates.modify index fun t => { t with text } }.reparse
  else (.error (.invalidIndex index n.templates.length), n)

/-- Adds blank templates at the end or drops templates there. -/
def setTemplateCount (n : Node) (count : Nat) : Except ValidationError Unit × Node :=
  { n with
    templates := n.templates.take count ++ List.replicate (count - n.templates.length) Template.blank
  }.reparse

def setSeparators (n : Node) (separators : Separators) : Except ValidationError Unit × Node :=
  { n with settings := { n.settings with separators } }.reparse

def setRequirePlaceholders (n : Node) (requirePlaceholders : Bool) :
    Except ValidationError Unit × Node :=
  { n with settings := { n.settings with requirePlaceholders } }.reparse

/-- A node with templates, when they can be parsed. -/
def withTemplates (settings : Settings) (texts : List Text) : Except ValidationError Node :=
  match (ofSettings settings).setTemplates texts with
  | (.ok (), n) => .ok n
  | (.error e, _) => .error e

/-! ### Inputs -/

/-- The names of all inputs, by kind. -/
def inputNames (n : Node) : List (Handle × Text) :=
  n.inputs.handles.filterMap fun h => (n.inputs.name h).map fun name => (h, name)

def findInput (n : Node) (name : Text) : Except ValidationError Handle :=
  match n.inputs.find? name with
  | some h => .ok h
  | none => .error (.unknownInput name)

/-- Stores a value in a slot that is known to take it. -/
def store (n : Node) (h : Handle) (v : Value) : Node :=
  { n with inputs := (n.inputs.put? h v).getD n.inputs }

def setValue (n : Node) (name : Text) (v : Value) : Except ValidationError Unit × Node :=
  match n.findInput name with
  | .error e => (.error e, n)
  | .ok h =>
    if h.kind ≠ v.kind then (.error (.invalidValue name h.kind v.plain), n)
    else (.ok (), n.store h v)

/-- The decimal separator values are read with. -/
def decimal (n : Node) : Char :=
  n.separators.decimalChar?.getD ','

/-- Reads a value for an input and stores it. -/
def setInput (n : Node) (name raw : Text) : Except ValidationError Unit × Node :=
  match n.findInput name with
  | .error e => (.error e, n)
  | .ok h =>
    match Value.read h.kind n.decimal raw with
    | .error _ => (.error (.invalidValue name h.kind raw), n)
    | .ok v => (.ok (), n.store h v)

def clearInput (n : Node) (name : Text) : Except ValidationError Unit × Node :=
  match n.findInput name with
  | .error e => (.error e, n)
  | .ok h => (.ok (), { n with inputs := n.inputs.clear h })

/-! ### Rendering -/

def render (n : Node) (index : Nat) : Except RenderError Text :=
  match n.templates[index]? with
  | none => .error (.missingTemplate index n.templates.length)
  | some t => TypedTemplate.render n.inputs n.separators t.tokens

def renderAll (n : Node) : Except RenderError (List Text) :=
  (List.range n.templates.length).mapM n.render

end Node

/-! ### Rendering once -/

/-- Why a single template cannot be rendered. -/
inductive OnceError where
  | validation (e : ValidationError)
  | render (e : RenderError)
deriving DecidableEq, Repr

def OnceError.message : OnceError → String
  | .validation e => "validation error: " ++ e.message
  | .render e => "render error: " ++ e.message

/-- Assigns inputs one after the other, up to the first that is refused. -/
def Node.assignAll (n : Node) : List (Text × Text) → Except ValidationError Node
  | [] => .ok n
  | (name, raw) :: rest =>
    match n.setInput name raw with
    | (.ok (), n) => n.assignAll rest
    | (.error e, _) => .error e

/-- Renders one template with the given assignments. -/
def renderOnce (settings : Settings) (template : Text) (assignments : List (Text × Text)) :
    Except OnceError Text :=
  match Node.withTemplates settings [template] with
  | .error e => .error (.validation e)
  | .ok n =>
    match n.assignAll assignments with
    | .error e => .error (.validation e)
    | .ok n => (n.render 0).mapError .render

end TypedTemplate
