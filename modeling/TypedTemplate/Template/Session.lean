import TypedTemplate.Number.Separators
import TypedTemplate.Template.PresentationGrammar
import TypedTemplate.Template.Token
import TypedTemplate.Text.CharacterClass
/-!
# Parse sessions

The placeholders of all templates of a node are parsed in one session, which remembers the variables
declared so far. A name declares a variable the first time it is seen and refers to it afterwards; a blank
name is generated. `Session.read` decides what a placeholder says without changing the session, and
`Session.place` records the one case that changes it, a declaration.
-/

namespace TypedTemplate

/-- Whether a character may stand in a name, behind the first. -/
def isNameChar (c : Char) : Bool :=
  c != ':' && c != '{' && c != '}' && (isAlphanumeric c || isAsciiPunctuation c || c == ' ')

/-- Whether a text is a name: a letter, and then letters, numerals, punctuation and spaces. -/
def isName : Text → Bool
  | [] => false
  | c :: t => isAlphabetic c && t.all isNameChar

/-- The name generated for a kind with a number. -/
def generatedName (kind : Kind) (number : Nat) : Text :=
  kind.generatedWord.toList ++ ' ' :: Nat.toDigits 10 number

/-- What was declared so far: the variable registered under each name, all variables in order, how many
there are of each kind, and the numbers used for generated names. -/
structure Session where
  decimal : Char
  registry : List (Text × Variable) := []
  declared : List Variable := []
  counts : Tally := .zero
  generated : Tally := .zero

/-- What a placeholder says: it declares a variable, whose name may be left out, or it refers to one. -/
inductive Reading where
  | declaration (kind : Kind) (name : Option Text) (presentation : Presentation)
  | reuse (r : Reference)
deriving DecidableEq

namespace Session

/-- A session for the decimal separator of a configuration that can be used. -/
def ofSeparators (s : Separators) : Except ErrorCode Session :=
  match s.validate with
  | .error code => .error code
  | .ok () =>
    match s.decimalChar? with
    | some decimal => .ok { decimal }
    | none => .error .separatorDecimalTooShort

/-- Forgets everything that was declared. -/
def restart (s : Session) : Session :=
  { decimal := s.decimal }

def lookup (s : Session) (name : Text) : Option Variable :=
  s.registry.lookup name

/-- The first number from `number` on whose generated name is not registered; of one more number than
there are registered names, one is always free. -/
def freeNumber (s : Session) (kind : Kind) : (fuel number : Nat) → Nat
  | 0, number => number
  | fuel + 1, number =>
    if (s.lookup (generatedName kind number)).isSome then s.freeNumber kind fuel (number + 1)
    else number

def nextNumber (s : Session) (kind : Kind) : Nat :=
  s.freeNumber kind s.registry.length (s.generated.get kind + 1)

def register (s : Session) (v : Variable) : Session :=
  { s with
    registry := (v.name, v) :: s.registry
    declared := s.declared ++ [v]
    counts := s.counts.bump v.kind }

/-- Declares a variable, under its name or a generated one. -/
def declare (s : Session) (kind : Kind) (name : Option Text) (presentation : Presentation) :
    Variable × Session :=
  match name with
  | some name =>
    let v : Variable := { kind, name, isGenerated := false, presentation }
    (v, s.register v)
  | none =>
    let number := s.nextNumber kind
    let v : Variable :=
      { kind, name := generatedName kind number, isGenerated := true, presentation }
    (v, { s with generated := s.generated.set kind number }.register v)

/-- Reads a placeholder that gives a format, for a name that is already declared or not. -/
def readFormat (s : Session) (name : Text) (target : Option Variable) (format : Text) :
    Except ErrorCode Reading := do
  let (head, items) := format.split '|'
  let some kind := head.head?.bind Kind.ofLetter? | .error .placeholderTypeInvalid
  match target with
  | some target =>
    if target.kind ≠ kind then .error .placeholderReuseWrongType
    else
      let presentation ← Presentation.read kind s.decimal head items
      .ok (.reuse { name, presentation, target })
  | none =>
    let presentation ← Presentation.read kind s.decimal head items
    .ok (.declaration kind (if name.isEmpty then none else some name) presentation)

/-- Reads the body of a placeholder: a name, and behind a colon a format with mappings. Without a format
it can only refer to a declared variable, and then shows it in the same way. -/
def read (s : Session) (body : Text) : Except ErrorCode Reading :=
  if body.isEmpty then .error .emptyPlaceholder
  else
    let (rawName, format) := body.cut ':'
    if ':' ∈ format.getD [] then .error .placeholderMultipleColon
    else
      let name := rawName.trim
      if !name.isEmpty && !isName name then .error .placeholderNameInvalid
      else
        let target := if name.isEmpty then none else s.lookup name
        match format, target with
        | some (c :: rest), _ => s.readFormat name target (c :: rest)
        | _, some target =>
          .ok (.reuse { name, presentation := target.presentation, target })
        | some [], none => .error .placeholderTypeInvalid
        | none, none => .error .placeholderNameNotFound

/-- Parses a placeholder into a token; only a declaration changes the session. -/
def place (s : Session) (body : Text) (span : Span) : Token × Session :=
  match s.read body with
  | .error code => (.error ⟨body, code, span⟩, s)
  | .ok (.reuse r) => (.reference r, s)
  | .ok (.declaration kind name presentation) =>
    let (v, s) := s.declare kind name presentation
    (.declared v, s)

def placeSegment (s : Session) : Segment → Token × Session
  | .text t => (.text t, s)
  | .placeholder body span => s.place body span

def placeAll (s : Session) : List Segment → List Token × Session
  | [] => ([], s)
  | segment :: segments =>
    let (token, s) := s.placeSegment segment
    let (tokens, s) := s.placeAll segments
    (token :: tokens, s)

/-- Parses a whole template; what cannot be parsed becomes an error token. -/
def tokenize (s : Session) (template : Text) : List Token × Session :=
  s.placeAll (Template.scan template)

end Session

end TypedTemplate
