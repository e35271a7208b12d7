import TypedTemplate.Messages.Catalog
/-!
# Built-in messages

The messages that are always at hand: English and German, one for every error code and one for the word
that names a template.
-/

namespace TypedTemplate

namespace Catalog

def english : List (String × String) :=
  [("Template", "Template"),
   ("EmptyPlaceholder", "Placeholder is empty."),
   ("PlaceholderNameInvalid",
    "Placeholder name must start with a letter and may not contain ':', '\x7b' or '\x7d'."),
   ("PlaceholderMultipleColon", "Placeholder contains more than one ':'."),
   ("PlaceholderNameNotFound",
    "Placeholder without format must refer to a previously declared name."),
   ("PlaceholderTypeInvalid", "Unknown placeholder type; use B, I, F, G, N, P or S."),
   ("PlaceholderReuseWrongType", "Reused placeholder name has a different type."),
   ("PlaceholderBinLengthInvalid",
    "Boolean format must be B, B followed by two characters, or B|off|on."),
   ("PlaceholderBinInvalidAssign", "Boolean texts may not contain '='."),
   ("PlaceholderBinSameText", "Boolean texts for off and on must differ."),
   ("PlaceholderIntLengthInvalid", "Integer format must be exactly I."),
   ("PlaceholderNumFormatInvalid",
    "Number format must be one letter, optionally followed by one digit."),
   ("PlaceholderStrLengthInvalid", "String format must be exactly S."),
   ("MappingEmptyImplicitValue", "Implicit mapping text is empty."),
   ("MappingNoImplicitValues", "Implicit mappings are not allowed here."),
   ("MappingNoExplicitValues", "Explicit mappings cannot follow implicit ones."),
   ("MappingWrongAssignment", "Mapping contains more than one '='."),
   ("ExplicitMappingInvalidValue", "Mapping value is not a number."),
   ("ExplicitMappingInvRngVal", "Range bound is not a number."),
   ("ExplicitMappingInvalidRange", "Range must have the form LOW..HIGH."),
   ("ExplicitMappingInvertedRange", "Range lower bound is greater than its upper bound."),
   ("MappingNoImplicitTextValues", "Text mapping must have the form original=replacement."),
   ("MappingNoOriginalTextValue", "Text mapping original is empty."),
   ("MappingWrongTextAssignment", "Text mapping contains more than one '='."),
   ("EmptyTemplate", "Template is empty."),
   ("NoPlaceholder", "Template contains no placeholder."),
   ("TooManyPlaceholders", "Template contains too many placeholders."),
   ("TooManyBinPlaceholders", "Too many boolean placeholders."),
   ("TooManyIntPlaceholders", "Too many integer placeholders."),
   ("TooManyNumPlaceholders", "Too many number placeholders."),
   ("TooManyStrPlaceholders", "Too many string placeholders."),
   ("SeparatorGroupTooLong", "Group separator must be at most one character."),
   ("SeparatorDecimalTooLong", "Decimal separator must be exactly one character."),
   ("SeparatorDecimalTooShort", "Decimal separator is missing."),
   ("SeparatorsIdentical", "Group and decimal separator must differ.")]

def german : List (String × String) :=
  [("Template", "Vorlage"),
   ("EmptyPlaceholder", "Platzhalter ist leer."),
   ("PlaceholderNameInvalid",
    "Platzhaltername muss mit einem Buchstaben beginnen und darf kein ':', '\x7b' oder '\x7d' enthalten."),
   ("PlaceholderMultipleColon", "Platzhalter enthält mehr als ein ':'."),
   ("PlaceholderNameNotFound",
    "Platzhalter ohne Format muss sich auf einen zuvor deklarierten Namen beziehen."),
   ("PlaceholderTypeInvalid", "Unbekannter Platzhaltertyp; erlaubt sind B, I, F, G, N, P oder S."),
   ("PlaceholderReuseWrongType", "Wiederverwendeter Platzhaltername hat einen anderen Typ."),
   ("PlaceholderBinLengthInvalid", "Binärformat muss B, B mit zwei Zeichen oder B|aus|ein lauten."),
   ("PlaceholderBinInvalidAssign", "Binärtexte dürfen kein '=' enthalten."),
   ("PlaceholderBinSameText", "Binärtexte für aus und ein müssen sich unterscheiden."),
   ("PlaceholderIntLengthInvalid", "Ganzzahlformat muss genau I lauten."),
   ("PlaceholderNumFormatInvalid",
    "Zahlenformat muss ein Buchstabe sein, optional gefolgt von einer Ziffer."),
   ("PlaceholderStrLengthInvalid", "Textformat muss genau S lauten."),
   ("MappingEmptyImplicitValue", "Text einer impliziten Zuordnung ist leer."),
   ("MappingNoImplicitValues", "Implizite Zuordnungen sind hier nicht erlaubt."),
   ("MappingNoExplicitValues", "Explizite Zuordnungen dürfen nicht auf implizite folgen."),
   ("MappingWrongAssignment", "Zuordnung enthält mehr als ein '='."),
   ("ExplicitMappingInvalidValue", "Zuordnungswert ist keine Zahl."),
   ("ExplicitMappingInvRngVal", "Bereichsgrenze ist keine Zahl."),
   ("ExplicitMappingInvalidRange", "Bereich muss die Form VON..BIS haben."),
   ("ExplicitMappingInvertedRange", "Untere Bereichsgrenze ist größer als die obere."),
   ("MappingNoImplicitTextValues", "Textzuordnung muss die Form original=ersatz haben."),
   ("MappingNoOriginalTextValue", "Original einer Textzuordnung ist leer."),
   ("MappingWrongTextAssignment", "Textzuordnung enthält mehr als ein '='."),
   ("EmptyTemplate", "Vorlage ist leer."),
   ("NoPlaceholder", "Vorlage enthält keinen Platzhalter."),
   ("TooManyPlaceholders", "Vorlage enthält zu viele Platzhalter."),
   ("TooManyBinPlaceholders", "Zu viele binäre Platzhalter."),
   ("TooManyIntPlaceholders", "Zu viele Ganzzahl-Platzhalter."),
   ("TooManyNumPlaceholders", "Zu viele Zahlen-Platzhalter."),
   ("TooManyStrPlaceholders", "Zu viele Text-Platzhalter."),
   ("SeparatorGroupTooLong", "Tausendertrennzeichen darf höchstens ein Zeichen lang sein."),
   ("SeparatorDecimalTooLong", "Dezimaltrennzeichen muss genau ein Zeichen lang sein."),
   ("SeparatorDecimalTooShort", "Dezimaltrennzeichen fehlt."),
   ("SeparatorsIdentical", "Tausender- und Dezimaltrennzeichen müssen sich unterscheiden.")]

/-- The catalog of the built-in languages. -/
def default : Catalog :=
  [("en", english), ("de", german)]

end Catalog

end TypedTemplate
