import TypedTemplate.Kind
/-!
# Presentations

How a placeholder shows its value: a number format, texts shown instead of certain numbers, and
replacements made inside texts. Numeric mappings are tried in order and the first match wins; text mappings
are all applied, each to what the one before it made.
-/

namespace TypedTemplate

/-- A text shown for the numbers of a range; a single number is a range from itself to itself. -/
structure NumericMapping where
  min : Binary64
  max : Binary64
  minExcluded : Bool := false
  maxExcluded : Bool := false
  text : Text
deriving DecidableEq

namespace NumericMapping

def exact (x : Binary64) (text : Text) : NumericMapping :=
  { min := x, max := x, text }

def matches? (m : NumericMapping) (x : Binary64) : Bool :=
  (if m.minExcluded then m.min.lt x else m.min.le x) &&
    (if m.maxExcluded then x.lt m.max else x.le m.max)

end NumericMapping

/-- A replacement made inside a text. -/
structure TextMapping where
  pattern : Text
  replacement : Text
deriving DecidableEq, Repr

/-- Makes the replacement at every occurrence. -/
def TextMapping.apply (m : TextMapping) (t : Text) : Text :=
  t.replace m.pattern m.replacement

/-- The format and the mappings of a placeholder; a list of mappings is absent when none was written. -/
structure Presentation where
  format : Text := []
  numericMappings : Option (List NumericMapping) := none
  textMappings : Option (List TextMapping) := none
deriving DecidableEq

namespace Presentation

/-- Whether the presentation says more than a bare format letter. -/
def isFormatted (p : Presentation) : Bool :=
  1 < p.format.length || !(p.numericMappings.getD []).isEmpty || !(p.textMappings.getD []).isEmpty

def mapped? (p : Presentation) (x : Binary64) : Option Text :=
  ((p.numericMappings.getD []).find? (·.matches? x)).map NumericMapping.text

def mapText (p : Presentation) (t : Text) : Text :=
  (p.textMappings.getD []).foldl (fun t m => m.apply t) t

end Presentation

end TypedTemplate
