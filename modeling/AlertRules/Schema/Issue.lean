import AlertRules.Value.Display

/-!
Issues: what a check finds wrong with a document.

A check against a schema does not stop at the first fault. It lists
every field that is wrong, each by the way it is wrong and the path that
leads to it, and a document is rejected with the whole list.
-/

namespace AlertRules

namespace Schema

/-- One step of the path to a field: a name, or the index of an item. -/
inductive Step where
  | name (s : String)
  | index (i : Nat)
  deriving DecidableEq, Repr

def Step.text : Step → String
  | .name s => s
  | .index i => Value.intText i

def pathText (path : List Step) : String := Value.joined "." (path.map Step.text)

/-- The ways in which a field can be wrong. A text in it that nests too deep
to be read is one that no list of issues reports: there is no telling what
else would be wrong. -/
inductive Flaw where
  | missing
  | stringType
  | stringTooShort
  | stringTooLong
  | stringUnicode
  | enumeration
  | floatType
  | floatParsing
  | intType
  | intParsing
  | intParsingSize
  | intFromFloat
  | finiteNumber
  | boolType
  | boolParsing
  | dictType
  | listType
  | modelType
  | extraForbidden
  | invalidKey
  | valueError
  | tooDeep
  | greaterThan
  | greaterThanEqual
  | datetimeType
  | datetimeParsing
  | datetimeFromDateParsing
  deriving DecidableEq, Repr

def Flaw.code : Flaw → String
  | .missing => "missing"
  | .stringType => "string_type"
  | .stringTooShort => "string_too_short"
  | .stringTooLong => "string_too_long"
  | .stringUnicode => "string_unicode"
  | .enumeration => "enum"
  | .floatType => "float_type"
  | .floatParsing => "float_parsing"
  | .intType => "int_type"
  | .intParsing => "int_parsing"
  | .intParsingSize => "int_parsing_size"
  | .intFromFloat => "int_from_float"
  | .finiteNumber => "finite_number"
  | .boolType => "bool_type"
  | .boolParsing => "bool_parsing"
  | .dictType => "dict_type"
  | .listType => "list_type"
  | .modelType => "model_type"
  | .extraForbidden => "extra_forbidden"
  | .invalidKey => "invalid_key"
  | .valueError => "value_error"
  | .tooDeep => "too_deep"
  | .greaterThan => "greater_than"
  | .greaterThanEqual => "greater_than_equal"
  | .datetimeType => "datetime_type"
  | .datetimeParsing => "datetime_parsing"
  | .datetimeFromDateParsing => "datetime_from_date_parsing"

structure Issue where
  flaw : Flaw
  path : List Step
  deriving DecidableEq, Repr

def Issue.text (i : Issue) : String := i.flaw.code ++ "@" ++ pathText i.path

/-- The text of a rejection: all issues, in order. -/
def rejection (issues : List Issue) : String :=
  "ValidationError[" ++ Value.joined "; " (issues.map Issue.text) ++ "]"

end Schema

end AlertRules
