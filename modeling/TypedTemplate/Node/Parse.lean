import TypedTemplate.Node.Settings
import TypedTemplate.Node.ValidationError
import TypedTemplate.Template.Session
/-!
# Parsing the templates of a node

All templates are parsed in one session and under the policies of the node: how many parts a template may
have, how many variables of a kind there may be, and whether a template may do without placeholders. The
first violation in reading order is reported, and then there is no result at all.
-/

namespace TypedTemplate

/-- How many variables of one kind may be declared. -/
def maxVariablesPerKind : Nat := 50

/-- How many texts and placeholders one template may have. -/
def maxSegments : Nat := 6 * maxVariablesPerKind + 1

/-- The tokens of every template, and the variables they declare. -/
structure ParsedTemplates where
  tokens : List (List Token)
  declared : List Variable

namespace ParsedTemplates

/-- Parses segments up to the first that cannot be parsed. -/
def placeSegments (index : Nat) (s : Session) :
    List Segment → Except ValidationError (List Token × Session)
  | [] => .ok ([], s)
  | segment :: segments =>
    let (token, s) := s.placeSegment segment
    match token.error? with
    | some e => .error (.placeholder index e)
    | none => do
      let (tokens, s) ← placeSegments index s segments
      .ok (token :: tokens, s)

/-- The first kind with too many variables. -/
def overLimit? (counts : Tally) : Option Kind :=
  Kind.all.find? fun kind => maxVariablesPerKind < counts.get kind

def parseTemplate (required : Bool) (index : Nat) (template : Text) (s : Session) :
    Except ValidationError (List Token × Session) :=
  if required && template.isEmpty then .error (.template index .emptyTemplate)
  else
    let segments := Template.scan template
    if maxSegments < segments.length then .error (.template index .tooManyPlaceholders)
    else do
      let (tokens, s) ← placeSegments index s segments
      match overLimit? s.counts with
      | some kind => .error (.template index (.tooMany kind))
      | none =>
        if required && !tokens.any Token.isPlaceholder then
          .error (.template index .noPlaceholder)
        else .ok (tokens, s)

/-- Parses templates one after the other, the first one having the given index. -/
def parseFrom (required : Bool) (index : Nat) (s : Session) :
    List Text → Except ValidationError (List (List Token) × Session)
  | [] => .ok ([], s)
  | template :: templates => do
    let (tokens, s) ← parseTemplate required index template s
    let (rest, s) ← parseFrom required (index + 1) s templates
    .ok (tokens :: rest, s)

end ParsedTemplates

def ParsedTemplates.parse (settings : Settings) (templates : List Text) :
    Except ValidationError ParsedTemplates :=
  match Session.ofSeparators settings.separators with
  | .error code => .error (.separator code)
  | .ok s => do
    let (tokens, s) ← parseFrom settings.requirePlaceholders 0 s templates
    .ok ⟨tokens, s.declared⟩

end TypedTemplate
