import AlertRules.Fault
import AlertRules.Schema.Check

/-!
The environment: variables that hold texts.

The system keeps a variable as bytes, a name and a value with an equals sign
between them and a zero byte at the end, so not every text can be in one. A
variable may say yes or no, write a number, or list several texts. A
number that cannot be read is a fault; what does not say yes says no.
-/

namespace AlertRules

structure Environment where
  bindings : List (String × String)

namespace Environment

/-- A variable, if the system takes it. -/
def readVariable : String × Value → Except Fault (String × String)
  | (name, .text s) =>
    if !(Text.isWritable name && Text.isWritable s) then .error .unsupported
    else if name.contains '\x00' || s.contains '\x00' then .error .zeroByte
    else if name.contains '=' then .error .variableName
    else if name.isEmpty then .error (.service .system "[Errno 22] Invalid argument")
    else .ok (name, s)
  | _ => .error .unsupported

def ofVariables (given : Object) : Except Fault Environment :=
  Environment.mk <$> given.mapM readVariable

def get? (env : Environment) (name : String) : Option String := env.bindings.lookup name

def getD (env : Environment) (name default : String) : String := (env.get? name).getD default

def flag (env : Environment) (name : String) (default : String) : Bool :=
  let said := String.ofList ((env.getD name default).toList.map Char.toLower)
  said == "1" || said == "true" || said == "yes"

/-- The whole number that a text writes, in the digits of any script. Too
many digits are refused before what follows them is looked at. -/
def parseInt (s : String) : Except Fault Int :=
  let (negative, unsigned) := Numeral.spanSign (Text.strip Text.isWhiteSpace s.toList)
  let isPart (c : Char) : Bool := c == '_' || (Text.digitValue? c).isSome
  match Schema.withoutUnderscores? (unsigned.takeWhile isPart) with
  | none => .error (.notAnInteger s)
  | some digits =>
    if Numeral.digitLimit < digits.length then .error (.tooManyDigits digits.length)
    else if (unsigned.dropWhile isPart).isEmpty then
      let n : Int := Numeral.ofDigits (digits.filterMap Text.digitValue?)
      .ok (if negative then -n else n)
    else .error (.notAnInteger s)

/-- A text without its underscores, each of which has to stand between
two digits. `afterDigit` says whether a digit comes before the text. -/
def dropUnderscores? : Bool → List Char → Option (List Char)
  | _, [] => some []
  | afterDigit, '_' :: c :: rest =>
    if afterDigit && (Text.digitValue? c).isSome then
      (dropUnderscores? true rest).map (c :: ·)
    else none
  | _, '_' :: [] => none
  | _, c :: rest => (dropUnderscores? (Text.digitValue? c).isSome rest).map (c :: ·)

/-- The floating-point number that a text writes, in the digits of any
script. -/
def parseDouble (s : String) : Except Fault Double :=
  let trimmed := Text.strip Text.isWhiteSpace s.toList
  let (negative, unsigned) := Numeral.spanSign trimmed
  let name := unsigned.map Char.toLower
  if name == "inf".toList || name == "infinity".toList then .ok (.inf negative)
  else if name == "nan".toList then .ok (.nan false)
  else
    match (dropUnderscores? false trimmed).bind (Numeral.read? Text.digitValue?) with
    | some numeral => .ok numeral.toDouble
    | none => .error (.notANumber s)

/-- The parts of a text between commas, trimmed, without the empty
ones. -/
def commaList (s : String) : List String :=
  let rec parts : List Char → List (List Char)
    | [] => [[]]
    | c :: rest =>
      match parts rest with
      | [] => [[c]]
      | part :: others => if c == ',' then [] :: part :: others else (c :: part) :: others
  ((parts s.toList).map (Text.strip Text.isBlank)).filterMap fun part =>
    if part.isEmpty then none else some (String.ofList part)

end Environment

end AlertRules
