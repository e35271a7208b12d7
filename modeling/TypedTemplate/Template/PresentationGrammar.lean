import TypedTemplate.ErrorCode
import TypedTemplate.Number.Read
import TypedTemplate.Template.Presentation
/-!
# The grammar of presentations

What follows the colon of a placeholder: a head, whose first letter is the kind, and mappings behind bars.
Each kind has its own rules for the head and the mappings, and every rule that is broken has its own code.
-/

namespace TypedTemplate

namespace PresentationGrammar

/-- The format stored for integers. -/
def integerFormat : Text := ['D']

/-- How the mappings of a number are written: as bare texts numbered from zero, or each with the values
it stands for. The first mapping decides. -/
inductive Flavour where
  | implicit
  | explicit
deriving DecidableEq, Repr

/-- The text before the first `..` and the text after it. -/
def cutRange? : Text → Option (Text × Text)
  | '.' :: '.' :: t => some ([], t)
  | c :: t => (cutRange? t).map fun (low, high) => (c :: low, high)
  | [] => none

/-- Takes the mark of an excluded bound off the front. -/
def takeExclusion : Text → Bool × Text
  | '>' :: t => (true, t)
  | '<' :: t => (true, t)
  | t => (false, t)

/-- Reads a bound of a range: a number, or nothing for an open side, behind an optional exclusion mark. -/
def bound (decimal : Char) (whenOpen : Binary64) (t : Text) : Except ErrorCode (Binary64 × Bool) :=
  let (excluded, number) := takeExclusion t.trim
  let number := number.trim
  if number.isEmpty then .ok (whenOpen, excluded)
  else
    match readNumber decimal number with
    | .ok x => .ok (x, excluded)
    | .error _ => .error .explicitMappingInvRngVal

/-- Reads a range from the texts before and after its dots. -/
def range (decimal : Char) (low high text : Text) : Except ErrorCode NumericMapping := do
  let (min, minExcluded) ← bound decimal (.infinite true) low
  let (max, maxExcluded) ← bound decimal (.infinite false) high
  if max.lt min then .error .explicitMappingInvertedRange
  else .ok { min, max, minExcluded, maxExcluded, text }

/-- Reads what an explicit mapping stands for: a number, or a range with exactly two dots in a row. -/
def valueSpec (decimal : Char) (spec text : Text) : Except ErrorCode NumericMapping :=
  let spec := spec.trim
  match cutRange? spec with
  | none =>
    match readNumber decimal spec with
    | .ok x => .ok (.exact x text)
    | .error _ => .error .explicitMappingInvalidValue
  | some (low, high) =>
    if (cutRange? high).isSome || high.head? == some '.' then .error .explicitMappingInvalidRange
    else range decimal low high text

/-- The number that an implicit mapping at a position stands for. Positions are counted with 32 bits. -/
def implicitNumber (index : Nat) : Binary64 :=
  .ofNat (index % 2 ^ (32 : Nat))

/-- Reads one mapping of a number, given what the mappings before it have decided and how many they are. -/
def numericMapping (allowImplicit : Bool) (decimal : Char) (decided : Option Flavour) (index : Nat)
    (item : Text) : Except ErrorCode (Flavour × NumericMapping) :=
  match item.split '=' with
  | (text, []) =>
    if !allowImplicit || decided == some .explicit then .error .mappingNoImplicitValues
    else if text.isEmpty then .error .mappingEmptyImplicitValue
    else .ok (.implicit, .exact (implicitNumber index) text)
  | (spec, [text]) =>
    if decided == some .implicit then .error .mappingNoExplicitValues
    else (valueSpec decimal spec text).map fun m => (.explicit, m)
  | _ => .error .mappingWrongAssignment

/-- Reads the mappings of a number from the given position on. -/
def numericMappingsFrom (allowImplicit : Bool) (decimal : Char) :
    (decided : Option Flavour) → (index : Nat) → List Text → Except ErrorCode (List NumericMapping)
  | _, _, [] => .ok []
  | decided, index, item :: items => do
    let (flavour, m) ← numericMapping allowImplicit decimal decided index item
    let ms ← numericMappingsFrom allowImplicit decimal (some flavour) (index + 1) items
    .ok (m :: ms)

/-- Reads the mappings of a number; without any the list is absent. -/
def numericMappings (allowImplicit : Bool) (decimal : Char) (items : List Text) :
    Except ErrorCode (Option (List NumericMapping)) :=
  if items.isEmpty then .ok none
  else (numericMappingsFrom allowImplicit decimal none 0 items).map some

/-- Reads one mapping of a text: what is replaced, and by what. -/
def textMapping (item : Text) : Except ErrorCode TextMapping :=
  match item.split '=' with
  | (_, []) => .error .mappingNoImplicitTextValues
  | (pattern, [replacement]) =>
    if pattern.isEmpty then .error .mappingNoTextPattern else .ok ⟨pattern, replacement⟩
  | _ => .error .mappingWrongTextAssignment

/-- Reads the mappings of a text; without any the list is absent. -/
def textMappings (items : List Text) : Except ErrorCode (Option (List TextMapping)) :=
  if items.isEmpty then .ok none else (items.mapM textMapping).map some

/-- The texts of a truth value, `off` and `on`, as mappings of the numbers zero and one. -/
def boolTexts (off on : Text) : Except ErrorCode Presentation :=
  if '=' ∈ off ∨ '=' ∈ on then .error .placeholderBinInvalidAssign
  else if off = on then .error .placeholderBinSameText
  else
    .ok { numericMappings := some [.exact (.ofNat 0) off, .exact (.ofNat 1) on] }

/-- The presentation of a truth value: plain, with two characters in the head, or with two texts. -/
def boolPresentation (head : Text) (items : List Text) : Except ErrorCode Presentation :=
  match head, items with
  | [_], [] => .ok {}
  | [_, off, on], [] => boolTexts [off] [on]
  | [_], [off, on] => boolTexts off on
  | _, _ => .error .placeholderBinLengthInvalid

/-- The presentation of an integer: a bare letter, and mappings of either flavour. -/
def integerPresentation (decimal : Char) (head : Text) (items : List Text) :
    Except ErrorCode Presentation :=
  if head.length ≠ 1 then .error .placeholderIntLengthInvalid
  else
    (numericMappings true decimal items).map fun ms =>
      { format := integerFormat, numericMappings := ms }

/-- Whether the head of a number is a letter with at most one digit behind it. -/
def isNumberHead : Text → Bool
  | [_] => true
  | [_, digit] => digit.isDigit
  | _ => false

/-- The presentation of a number: a letter and an optional digit, and explicit mappings. -/
def numberPresentation (decimal : Char) (head : Text) (items : List Text) :
    Except ErrorCode Presentation :=
  if !isNumberHead head then .error .placeholderNumFormatInvalid
  else
    (numericMappings false decimal items).map fun ms => { format := head, numericMappings := ms }

/-- The presentation of a text: a bare letter, and replacements. -/
def textPresentation (head : Text) (items : List Text) : Except ErrorCode Presentation :=
  if 1 < head.length then .error .placeholderStrLengthInvalid
  else (textMappings items).map fun ms => { textMappings := ms }

end PresentationGrammar

open PresentationGrammar in
/-- Reads the presentation of a placeholder of a given kind from its head and its mappings. -/
def Presentation.read (kind : Kind) (decimal : Char) (head : Text) (items : List Text) :
    Except ErrorCode Presentation :=
  match kind with
  | .bool => boolPresentation head items
  | .integer => integerPresentation decimal head items
  | .number => numberPresentation decimal head items
  | .text => textPresentation head items

end TypedTemplate
