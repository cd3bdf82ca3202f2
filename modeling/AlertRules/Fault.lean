import AlertRules.Json.Reader
import AlertRules.Schema.Issue

/-!
Faults: why an operation failed.

A fault is a cause, not a text. `Fault.message` words it, and whoever
reports a fault to another system decides from the constructor what kind
of failure to call it. The causes that have no words of their own, an
operation on a value of a kind that does not have it, are all
`unsupported`.
-/

namespace AlertRules

inductive Connective where
  | and
  | or
  deriving DecidableEq, Repr

def Connective.key : Connective → String
  | .and => "AND"
  | .or => "OR"

/-- Why a document is not a condition. -/
inductive ConditionError where
  | notAnObject (kind : String)
  | mixedConnectives
  | empty (connective : Connective)
  | extraKeys (connective : Connective) (keys : List String)
  | leaf (path : List Schema.Step) (flaw : Schema.Flaw)
  deriving DecidableEq, Repr

/-- Why a condition is refused before it is evaluated. The limits are
what the settings hold. -/
inductive ComplexityError where
  | tooDeep (limit : String)
  | mixedConnectives
  | empty (connective : Connective)
  | tooWide (limit : String)
  deriving DecidableEq, Repr

/-- The services whose failures are told apart. -/
inductive Service where
  | databaseConnection
  | databaseStatement
  | stream
  | streamReply
  | http
  | system
  | other
  deriving DecidableEq, Repr

inductive Fault where
  | condition (error : ConditionError)
  | complexity (error : ComplexityError)
  | ruleKind (kind : String)
  | noOrganization
  | rejected (issues : List Schema.Issue)
  | json (error : Json.ReadError)
  | notANumber (text : String)
  | notAnInteger (text : String)
  | tooManyDigits (count : Nat)
  | unwritable
  | pairLength (index length : Nat)
  | zeroByte
  | variableName
  | undefinedTime
  | noWorkers
  | unsupportedMethod (method : String)
  | unimplementedConsumer
  | service (service : Service) (message : String)
  | unsupported
  deriving DecidableEq, Repr

def Fault.ofIssues (issues : List Schema.Issue) : Fault :=
  if issues.any (·.flaw == .tooDeep) then .json .tooDeep else .rejected issues

def Schema.Flaw.sentence : Schema.Flaw → String
  | .missing => "Field required"
  | .stringType => "Input should be a valid string"
  | .stringTooShort => "String should have at least 1 character"
  | .enumeration => "Input should be '>', '<', '>=', '<=', '=', '!=', 'between' or 'in'"
  | .floatType => "Input should be a valid number"
  | .floatParsing => "Input should be a valid number, unable to parse string as a number"
  | .extraForbidden => "Extra inputs are not permitted"
  | .stringUnicode => "Input should be a valid string, unable to parse raw data as a unicode string"
  | flaw => flaw.code

def ConditionError.message : ConditionError → String
  | .notAnObject kind => "Condition must be an object, got " ++ kind
  | .mixedConnectives => "Only one logical operator (AND/OR) allowed per level"
  | .empty connective => "Empty " ++ connective.key ++ " condition"
  | .extraKeys connective keys =>
    "Unexpected keys next to " ++ connective.key ++ ": " ++
      (Value.list (keys.map Value.text)).inspectText
  | .leaf path flaw =>
    "Invalid condition (" ++ Schema.pathText path ++ "): " ++ flaw.sentence

def ComplexityError.message : ComplexityError → String
  | .tooDeep limit => "Rule complexity exceeds max nesting depth (" ++ limit ++ ")"
  | .mixedConnectives => "Only one logical operator (AND/OR) allowed per level"
  | .empty connective => "Empty " ++ connective.key ++ " condition"
  | .tooWide limit => "Max " ++ limit ++ " conditions per level exceeded"

/-- The refusal of an integer with too many digits; `found` says how many,
where they were counted. -/
def digitLimitMessage (found : String) : String :=
  "Exceeds the limit (" ++ Value.intText Numeral.digitLimit ++
    " digits) for integer string conversion" ++ found ++
    "; use sys.set_int_max_str_digits() to increase the limit"

def digitsFound (count : Nat) : String := ": value has " ++ Value.intText count ++ " digits"

def Json.ReadError.message : Json.ReadError → String
  | .malformed defect line column offset =>
    defect.phrase ++ ": line " ++ Value.intText line ++ " column " ++ Value.intText column ++
      " (char " ++ Value.intText offset ++ ")"
  | .tooManyDigits count => digitLimitMessage (digitsFound count)
  | .tooDeep => "<internal error>"

/-- The start of a text in quotes, which is cut where it gets long, even if
that leaves it without its closing quote. -/
def excerpt (s : String) : String := String.ofList ((Text.quoted s).toList.take 200)

def Fault.message : Fault → String
  | .condition error => error.message
  | .complexity error => error.message
  | .ruleKind kind => "Unsupported rule type: " ++ kind
  | .noOrganization => "RuleEngine: organization_id is required"
  | .rejected issues => Schema.rejection issues
  | .json error => error.message
  | .notANumber text => "could not convert string to float: " ++ Text.quoted text
  | .notAnInteger text => "invalid literal for int() with base 10: " ++ excerpt text
  | .tooManyDigits count => digitLimitMessage (digitsFound count)
  | .unwritable => digitLimitMessage ""
  | .pairLength index length =>
    "dictionary update sequence element #" ++ Value.intText index ++ " has length " ++
      Value.intText length ++ "; 2 is required"
  | .zeroByte => "embedded null byte"
  | .variableName => "illegal environment variable name"
  | .undefinedTime => "cannot convert float NaN to integer"
  | .noWorkers => "max_workers must be greater than 0"
  | .unsupportedMethod method => "Unsupported HTTP method: " ++ method
  | .unimplementedConsumer => "Subclasses must implement process_event"
  | .service _ message => message
  | .unsupported => "<internal error>"

end AlertRules
