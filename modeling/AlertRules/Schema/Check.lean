import AlertRules.Json.Reader
import AlertRules.Schema.Issue
import AlertRules.Schema.Number
import AlertRules.Time.Reader
import AlertRules.Value.Shown

/-!
Checks: from a value to data of a known shape, or to a list of issues.

`Checked` collects issues: two parts of a document are checked
independently and the issues of both are listed. The checks for single
fields follow. They are lenient where no meaning is lost: a number or a
truth value may be given as text, a whole number as a floating-point
one, and a truth value by one of its usual names.
-/

namespace AlertRules

namespace Schema

inductive Checked (α : Type) where
  | ok (a : α)
  | bad (issues : List Issue)
  deriving Repr

namespace Checked

variable {α β : Type}

def map (f : α → β) : Checked α → Checked β
  | .ok a => .ok (f a)
  | .bad issues => .bad issues

/-- Applies a checked function to a checked argument; the issues of both
are kept, those of the function first. -/
def seq (f : Checked (α → β)) (a : Checked α) : Checked β :=
  match f, a with
  | .ok f, .ok a => .ok (f a)
  | .ok _, .bad issues => .bad issues
  | .bad issues, .ok _ => .bad issues
  | .bad first, .bad second => .bad (first ++ second)

instance : Applicative Checked where
  pure := .ok
  map := map
  seq f a := seq f (a ())

def under (step : Step) : Checked α → Checked α
  | .ok a => .ok a
  | .bad issues => .bad (issues.map fun i => { i with path := step :: i.path })

def flaw (f : Flaw) : Checked α := .bad [⟨f, []⟩]

def toExcept : Checked α → Except (List Issue) α
  | .ok a => .ok a
  | .bad issues => .error issues

end Checked

abbrev Check (α : Type) := Value → Checked α

variable {α : Type}

def any : Check Value := .ok

def text : Check String
  | .text s => .ok s
  | _ => .flaw .stringType

/-- A text that is looked into. A half of a pair of units cannot be looked
at, so there may be none. -/
def legible (read : String → Checked α) (s : String) : Checked α :=
  if Text.hasHalf s then .flaw .stringUnicode else read s

/-- A text that is not empty. -/
def nonEmptyText : Check String
  | .text s => legible (fun s => if s.isEmpty then .flaw .stringTooShort else .ok s) s
  | _ => .flaw .stringType

/-- A text of at most `limit` characters. -/
def boundedText (limit : Nat) : Check String
  | .text s => legible (fun s => if limit < Text.size s then .flaw .stringTooLong else .ok s) s
  | _ => .flaw .stringType

def nullable (c : Check α) : Check (Option α)
  | .null => .ok none
  | v => (c v).map some

/-- The number that a text writes: with blanks around it, or without them
and with underscores in it. -/
def parseDouble (s : String) : Checked Double :=
  match readDouble? (Text.strip Text.isWhiteSpace s.toList) with
  | some x => .ok x
  | none =>
    match (withoutUnderscores? s.toList).bind readDouble? with
    | some x => .ok x
    | none => .flaw .floatParsing

def double : Check Double
  | .bool b => .ok (.ofInt (if b then 1 else 0))
  | .int i =>
    let x := Double.ofInt i
    if x.isFinite then .ok x else .flaw .floatType
  | .float x => .ok x
  | .decimal d =>
    match d.toDouble? with
    | some x => .ok x
    | none => .flaw .floatType
  | .text s => legible parseDouble s
  | _ => .flaw .floatType

def wholeDouble (x : Double) : Checked Int :=
  if x.isFinite then
    match x.toInt? with
    | some i => if i.natAbs < wordLimit then .ok i else .flaw .intParsingSize
    | none => .flaw .intFromFloat
  else .flaw .finiteNumber

/-- The whole number that a text writes, with blanks around it. -/
def parseInt (s : String) : Checked Int :=
  if isOverlong s.toList then .flaw .intParsingSize
  else
    match readInt? (Text.strip Text.isWhiteSpace s.toList) with
    | some i => .ok i
    | none => .flaw .intParsing

def int : Check Int
  | .bool b => .ok (if b then 1 else 0)
  | .int i => .ok i
  | .float x => wholeDouble x
  | .decimal d =>
    match d with
    | .finite .. =>
      match d.toInt? with
      | some i => .ok i
      | none => .flaw .intFromFloat
    | _ => .flaw .finiteNumber
  | .text s => legible parseInt s
  | _ => .flaw .intType

def truthNames : List (String × Bool) :=
  [("0", false), ("off", false), ("f", false), ("false", false), ("n", false), ("no", false),
   ("1", true), ("on", true), ("t", true), ("true", true), ("y", true), ("yes", true)]

def wholeBool (i : Int) : Checked Bool :=
  if i = 0 then .ok false
  else if i = 1 then .ok true
  else if -wordLimit ≤ i ∧ i < wordLimit then .flaw .boolParsing
  else .flaw .boolType

def doubleBool (x : Double) : Checked Bool :=
  match wholeDouble x with
  | .ok i => wholeBool i
  | .bad _ => .flaw .boolType

def parseBool (s : String) : Checked Bool :=
  match truthNames.lookup (String.ofList (s.toList.map Char.toLower)) with
  | some b => .ok b
  | none => .flaw .boolParsing

def bool : Check Bool
  | .bool b => .ok b
  | .int i => wholeBool i
  | .float x => doubleBool x
  | .decimal d =>
    match d.toDouble? with
    | some x => doubleBool x
    | none => .flaw .boolType
  | .text s => legible parseBool s
  | _ => .flaw .boolType

def oneOf (read? : String → Option α) : Check α
  | .text s =>
    s |> legible fun s =>
      match read? s with
      | some a => .ok a
      | none => .flaw .enumeration
  | _ => .flaw .enumeration

def object : Check Object
  | .object fields => .ok fields
  | _ => .flaw .dictType

/-- Items that all pass a check, the first of them at a given index. -/
def itemsFrom (c : Check α) : Nat → List Value → Checked (List α)
  | _, [] => .ok []
  | i, v :: rest => List.cons <$> (c v).under (.index i) <*> itemsFrom c (i + 1) rest

def listOf (c : Check α) : Check (List α)
  | .list items | .tuple items => itemsFrom c 0 items
  | _ => .flaw .listType

/-- A moment of the calendar. A text that gives no moment at all has a flaw
of its own; the year before year one can be written but is not in the
calendar. -/
def dated (m : Option Moment) (otherwise : Flaw) : Checked Moment :=
  match m with
  | some m => if m.year = 0 then .flaw .datetimeParsing else .ok m
  | none => .flaw otherwise

def parseMoment (s : String) : Checked Moment :=
  dated (Moment.ofText? s) .datetimeFromDateParsing

def moment : Check Moment
  | .text s => legible parseMoment s
  | .int i =>
    if (Double.ofInt i).isFinite then dated (Moment.ofStamp? i) .datetimeParsing
    else .flaw .datetimeType
  | .float x => dated (Moment.ofDouble? x) .datetimeParsing
  | .decimal d =>
    match d.toDouble? with
    | some x => dated (Moment.ofDouble? x) .datetimeParsing
    | none => .flaw .datetimeType
  | _ => .flaw .datetimeType

def required (c : Check α) (key : String) (o : Object) : Checked α :=
  match o.get? key with
  | some v => (c v).under (.name key)
  | none => Checked.under (.name key) (.flaw .missing)

/-- A field that has a default, which may be a fault. -/
def givenOr {ε : Type} (c : Check α) (key : String) (o : Object) (default : Except ε α) :
    Except ε (Checked α) :=
  match o.get? key with
  | some v => .ok ((c v).under (.name key))
  | none => default.map .ok

def optional (c : Check α) (key : String) (default : α) (o : Object) : Checked α :=
  match o.get? key with
  | some v => (c v).under (.name key)
  | none => .ok default

/-- The fields that a schema does not know. -/
def extras (known : List String) (o : Object) : Object :=
  o.filter fun (k, _) => !known.contains k

/-- There may be no fields that a schema does not know. -/
def closed (known : List String) (o : Object) : Checked Unit :=
  match extras known o with
  | [] => .ok ()
  | unknown => .bad (unknown.map fun (k, _) => ⟨.extraForbidden, [.name k]⟩)

/-- An object whose fields are compared with those that a schema knows. Their
names have to be looked into for that; if one of them cannot be, nothing else
is said of the object. -/
def legibleNames (o : Object) (c : Checked α) : Checked α :=
  if o.keys.any Text.hasHalf then .flaw .stringUnicode else c

/-- The step of a path that a key is which is no name. -/
def keyStep : Value → Step
  | .bool b => .name (if b then "1" else "0")
  | v =>
    match v.inspect with
    | .ok s => .name s
    | .error _ => .name ("<unprintable " ++ v.kindName ++ " object>")

/-- There may be no keys that are no names. Each is reported at the place
that lies beyond it on the path. -/
def noKeys (flaw : Flaw) (beyond : List Step) (keys : List Value) : Checked Unit :=
  match keys with
  | [] => .ok ()
  | _ => .bad (keys.map fun key => ⟨flaw, keyStep key :: beyond⟩)

/-- A value that must be an object, checked field by field. -/
def model (c : Object → Checked α) : Check α
  | .object fields => c fields
  | _ => .flaw .modelType

/-- A text that counts as an identifier: anything but null is turned into
text first. -/
def identifier : Check String
  | .null => .flaw .stringType
  | v =>
    match v.display with
    | .ok s => .ok s
    | .error _ => .flaw .valueError

/-- An identifier that may not be given as a truth value. -/
def reference : Check String
  | .bool _ => .flaw .stringType
  | v => identifier v

/-- A value that may be given as JSON text and is then checked as what the
text says. -/
def fromJson (c : Check α) : Check α
  | .text s =>
    match Json.read s with
    | .ok v => c v
    | .error .tooDeep => .flaw .tooDeep
    | .error _ => .flaw .valueError
  | v => c v

/-- A value that may be null, which then counts as an empty object. -/
def nullAsEmpty (c : Check α) : Check α
  | .null => c (.object [])
  | v => c v

end Schema

end AlertRules
