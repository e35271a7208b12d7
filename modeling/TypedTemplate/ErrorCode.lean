/-!
# Error codes

Every way a placeholder, a template or a separator configuration can be wrong has one stable code. The
codes double as the keys of the message catalogs, so their names never change.
-/

namespace TypedTemplate

/-- The stable identifiers of errors. -/
inductive ErrorCode where
  | emptyPlaceholder
  | placeholderNameInvalid
  | placeholderMultipleColon
  | placeholderNameNotFound
  | placeholderTypeInvalid
  | placeholderReuseWrongType
  | placeholderBinLengthInvalid
  | placeholderBinInvalidAssign
  | placeholderBinSameText
  | placeholderIntLengthInvalid
  | placeholderNumFormatInvalid
  | placeholderStrLengthInvalid
  | mappingEmptyImplicitValue
  | mappingNoImplicitValues
  | mappingNoExplicitValues
  | mappingWrongAssignment
  | explicitMappingInvalidValue
  | explicitMappingInvRngVal
  | explicitMappingInvalidRange
  | explicitMappingInvertedRange
  | mappingNoImplicitTextValues
  | mappingNoTextPattern
  | mappingWrongTextAssignment
  | emptyTemplate
  | noPlaceholder
  | tooManyPlaceholders
  | tooManyBinPlaceholders
  | tooManyIntPlaceholders
  | tooManyNumPlaceholders
  | tooManyStrPlaceholders
  | separatorGroupTooLong
  | separatorDecimalTooLong
  | separatorDecimalTooShort
  | separatorsIdentical
deriving DecidableEq, Repr

namespace ErrorCode

/-- The codes in the order they are listed to the user. -/
def all : List ErrorCode :=
  [emptyPlaceholder, placeholderNameInvalid, placeholderMultipleColon, placeholderNameNotFound,
   placeholderTypeInvalid, placeholderReuseWrongType, placeholderBinLengthInvalid,
   placeholderBinInvalidAssign, placeholderBinSameText, placeholderIntLengthInvalid,
   placeholderNumFormatInvalid, placeholderStrLengthInvalid, mappingEmptyImplicitValue,
   mappingNoImplicitValues, mappingNoExplicitValues, mappingWrongAssignment,
   explicitMappingInvalidValue, explicitMappingInvRngVal, explicitMappingInvalidRange,
   explicitMappingInvertedRange, mappingNoImplicitTextValues, mappingNoTextPattern,
   mappingWrongTextAssignment, emptyTemplate, noPlaceholder, tooManyPlaceholders,
   tooManyBinPlaceholders, tooManyIntPlaceholders, tooManyNumPlaceholders, tooManyStrPlaceholders,
   separatorGroupTooLong, separatorDecimalTooLong, separatorDecimalTooShort, separatorsIdentical]

/-- The name of a code, which is also its key in a message catalog. -/
def name : ErrorCode → String
  | emptyPlaceholder => "EmptyPlaceholder"
  | placeholderNameInvalid => "PlaceholderNameInvalid"
  | placeholderMultipleColon => "PlaceholderMultipleColon"
  | placeholderNameNotFound => "PlaceholderNameNotFound"
  | placeholderTypeInvalid => "PlaceholderTypeInvalid"
  | placeholderReuseWrongType => "PlaceholderReuseWrongType"
  | placeholderBinLengthInvalid => "PlaceholderBinLengthInvalid"
  | placeholderBinInvalidAssign => "PlaceholderBinInvalidAssign"
  | placeholderBinSameText => "PlaceholderBinSameText"
  | placeholderIntLengthInvalid => "PlaceholderIntLengthInvalid"
  | placeholderNumFormatInvalid => "PlaceholderNumFormatInvalid"
  | placeholderStrLengthInvalid => "PlaceholderStrLengthInvalid"
  | mappingEmptyImplicitValue => "MappingEmptyImplicitValue"
  | mappingNoImplicitValues => "MappingNoImplicitValues"
  | mappingNoExplicitValues => "MappingNoExplicitValues"
  | mappingWrongAssignment => "MappingWrongAssignment"
  | explicitMappingInvalidValue => "ExplicitMappingInvalidValue"
  | explicitMappingInvRngVal => "ExplicitMappingInvRngVal"
  | explicitMappingInvalidRange => "ExplicitMappingInvalidRange"
  | explicitMappingInvertedRange => "ExplicitMappingInvertedRange"
  | mappingNoImplicitTextValues => "MappingNoImplicitTextValues"
  | mappingNoTextPattern => "MappingNoOriginalTextValue"
  | mappingWrongTextAssignment => "MappingWrongTextAssignment"
  | emptyTemplate => "EmptyTemplate"
  | noPlaceholder => "NoPlaceholder"
  | tooManyPlaceholders => "TooManyPlaceholders"
  | tooManyBinPlaceholders => "TooManyBinPlaceholders"
  | tooManyIntPlaceholders => "TooManyIntPlaceholders"
  | tooManyNumPlaceholders => "TooManyNumPlaceholders"
  | tooManyStrPlaceholders => "TooManyStrPlaceholders"
  | separatorGroupTooLong => "SeparatorGroupTooLong"
  | separatorDecimalTooLong => "SeparatorDecimalTooLong"
  | separatorDecimalTooShort => "SeparatorDecimalTooShort"
  | separatorsIdentical => "SeparatorsIdentical"

theorem mem_all (code : ErrorCode) : code ∈ all := by
  cases code <;> decide

end ErrorCode

end TypedTemplate
