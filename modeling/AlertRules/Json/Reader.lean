import AlertRules.Text.Code
import AlertRules.Value.Basic

/-!
Reading JSON text.

The reader takes the text from the left and always knows what is left of
it, so the place of a defect is the length of the text less the length
of the rest. It is more liberal than the standard in the numbers it
knows (`NaN` and the infinities) and in objects that name a field twice,
where the last value stands. Integers and numbers with a fraction or an
exponent stay apart; an integer may have at most `Numeral.digitLimit` digits.
Lists and objects may nest `depthLimit` deep.

The recursion is bounded by a count that the length of the text
determines: of a value and the list that it opens only one need read a
character, so twice the length is enough.
-/

namespace AlertRules.Json

inductive Defect where
  | expectedValue
  | expectedName
  | expectedColon
  | expectedComma
  | extraData
  | unterminatedText
  | controlCharacter
  | invalidEscape
  | invalidUnicodeEscape
  | byteOrderMark
  deriving DecidableEq, Repr

namespace Defect

def phrase : Defect → String
  | .expectedValue => "Expecting value"
  | .expectedName => "Expecting property name enclosed in double quotes"
  | .expectedColon => "Expecting ':' delimiter"
  | .expectedComma => "Expecting ',' delimiter"
  | .extraData => "Extra data"
  | .unterminatedText => "Unterminated string starting at"
  | .controlCharacter => "Invalid control character at"
  | .invalidEscape => "Invalid \\escape"
  | .invalidUnicodeEscape => "Invalid \\uXXXX escape"
  | .byteOrderMark => "Unexpected UTF-8 BOM (decode using utf-8-sig)"

end Defect

def depthLimit : Nat := 985

/-- Why a text could not be read: a defect at a place of the text, an
integer with too many digits, or too many values inside each other. -/
inductive ReadError where
  | malformed (defect : Defect) (line column offset : Nat)
  | tooManyDigits (count : Nat)
  | tooDeep
  deriving DecidableEq, Repr

/-- Where reading stopped: at a defect, with this much of the text left,
or at an integer that is too long or a value that is too deep. -/
inductive Stop where
  | at (defect : Defect) (rest : List Char)
  | digits (count : Nat)
  | depth
  deriving DecidableEq, Repr

def isBlankChar (c : Char) : Bool := c == ' ' || c == '\t' || c == '\n' || c == '\r'

def skipBlanks (cs : List Char) : List Char := cs.dropWhile isBlankChar

def afterLiteral? : List Char → List Char → Option (List Char)
  | [], cs => some cs
  | _, [] => none
  | l :: ls, c :: cs => if l == c then afterLiteral? ls cs else none

def hexDigit? (c : Char) : Option Nat :=
  if '0' ≤ c ∧ c ≤ '9' then some (c.toNat - 48)
  else if 'a' ≤ c ∧ c ≤ 'f' then some (c.toNat - 87)
  else if 'A' ≤ c ∧ c ≤ 'F' then some (c.toNat - 55)
  else none

/-- Four hexadecimal digits, if the text starts with them and goes on
after them. -/
def readUnit? : List Char → Option (Nat × List Char)
  | a :: b :: c :: d :: rest =>
    if rest.isEmpty then none
    else do
      let a ← hexDigit? a
      let b ← hexDigit? b
      let c ← hexDigit? c
      let d ← hexDigit? d
      pure (((a * 16 + b) * 16 + c) * 16 + d, rest)
  | _ => none

def letterEscape? (c : Char) : Option Char :=
  if c == '"' || c == '\\' || c == '/' then some c
  else if c == 'b' then some '\x08'
  else if c == 'f' then some '\x0c'
  else if c == 'n' then some '\n'
  else if c == 'r' then some '\r'
  else if c == 't' then some '\t'
  else none

def isHighUnit (n : Nat) : Bool := 0xd800 ≤ n && n < 0xdc00

def isLowUnit (n : Nat) : Bool := 0xdc00 ≤ n && n < 0xe000

/-- The escape after a `\u`: one unit, or two that make one character.
`start` is the text from the `u` on. A high unit that is followed by an
escape which is not the other half of a pair stands alone; one that is
followed by an escape which is no unit at all is a defect there. -/
def readUnicode (start cs : List Char) : Except Stop (List Char × List Char) :=
  match readUnit? cs with
  | none => .error (.at .invalidUnicodeEscape start)
  | some (high, rest) =>
    match rest with
    | '\\' :: 'u' :: more =>
      -- Five codes never take more than ten characters.
      if isHighUnit high ∧ 4 < (Text.codes (more.take 10)).length then
        match readUnit? more with
        | none => .error (.at .invalidUnicodeEscape ('u' :: more))
        | some (low, rest') =>
          if isLowUnit low then
            .ok (Text.charsOf (0x10000 + (high - 0xd800) * 0x400 + (low - 0xdc00)), rest')
          else .ok (Text.charsOf high, rest)
      else .ok (Text.charsOf high, rest)
    | _ => .ok (Text.charsOf high, rest)

/-- The text up to the closing quote. `start` is the text from the opening
quote on, where an unterminated text is reported. -/
def readText (start : List Char) : Nat → List Char → Except Stop (List Char × List Char)
  | 0, _ => .error (.at .unterminatedText start)
  | _ + 1, [] => .error (.at .unterminatedText start)
  | fuel + 1, c :: cs =>
    if c == '"' then .ok ([], cs)
    else if c == '\\' then
      match cs with
      | [] => .error (.at .unterminatedText start)
      | e :: rest =>
        if e == 'u' then do
          let (character, rest) ← readUnicode cs rest
          let (text, rest) ← readText start fuel rest
          pure (character ++ text, rest)
        else
          match letterEscape? e with
          | some c => do
            let (text, rest) ← readText start fuel rest
            pure (c :: text, rest)
          | none => .error (.at .invalidEscape (c :: cs))
    else if c.toNat < 0x20 then .error (.at .controlCharacter (c :: cs))
    else do
      let (text, rest) ← readText start fuel cs
      pure (c :: text, rest)

def readString (cs : List Char) : Except Stop (String × List Char) := do
  let (text, rest) ← readText cs cs.length (cs.drop 1)
  pure (String.ofList text, rest)

/-- The fraction of a number: a point and at least one digit. -/
def readFraction? (cs : List Char) : Option (List Nat × List Char) :=
  match cs with
  | '.' :: rest =>
    match Numeral.spanDigits Text.asciiDigit? rest with
    | ([], _) => none
    | found => some found
  | _ => none

/-- The exponent of a number: a letter, an optional sign and at least one
digit. -/
def readPower? (cs : List Char) : Option (Int × List Char) :=
  match cs with
  | c :: rest =>
    if c == 'e' || c == 'E' then
      let (negative, unsigned) := Numeral.spanSign rest
      match Numeral.spanDigits Text.asciiDigit? unsigned with
      | ([], _) => none
      | (ds, tail) =>
        let n : Int := Numeral.ofDigits ds
        some (if negative then -n else n, tail)
    else none
  | [] => none

/-- The digits before the point: a single zero, or digits that do not
start with one. -/
def readWhole? (cs : List Char) : Option (List Nat × List Char) :=
  match cs with
  | '0' :: rest => some ([0], rest)
  | _ =>
    match Numeral.spanDigits Text.asciiDigit? cs with
    | ([], _) => none
    | found => some found

/-- A number. What is no number is no value either. -/
def readNumber (cs : List Char) : Except Stop (Value × List Char) :=
  let (negative, unsigned) := match cs with
    | '-' :: rest => (true, rest)
    | _ => (false, cs)
  match readWhole? unsigned with
  | none => .error (.at .expectedValue cs)
  | some (whole, rest) =>
    let fraction := readFraction? rest
    let afterFraction := (fraction.map Prod.snd).getD rest
    let power := readPower? afterFraction
    if fraction.isNone ∧ power.isNone then
      if Numeral.digitLimit < whole.length then .error (.digits whole.length)
      else
        let n : Int := Numeral.ofDigits whole
        .ok (.int (if negative then -n else n), rest)
    else
      let frac := (fraction.map Prod.fst).getD []
      let exponent := (power.map Prod.fst).getD 0
      let number : Numeral :=
        ⟨negative, Numeral.ofDigits (whole ++ frac), exponent - (frac.length : Int)⟩
      .ok (.float number.toDouble, (power.map Prod.snd).getD afterFraction)

def readScalar (cs : List Char) : Except Stop (Value × List Char) :=
  match afterLiteral? "null".toList cs with
  | some rest => .ok (.null, rest)
  | none =>
  match afterLiteral? "true".toList cs with
  | some rest => .ok (.bool true, rest)
  | none =>
  match afterLiteral? "false".toList cs with
  | some rest => .ok (.bool false, rest)
  | none =>
  match afterLiteral? "NaN".toList cs with
  | some rest => .ok (.float (.nan true), rest)
  | none =>
  match afterLiteral? "Infinity".toList cs with
  | some rest => .ok (.float (.inf false), rest)
  | none =>
  match afterLiteral? "-Infinity".toList cs with
  | some rest => .ok (.float (.inf true), rest)
  | none => readNumber cs

mutual

/-- One value, with no blanks before it, inside of which `depth` more may
nest. -/
def readValue : Nat → Nat → List Char → Except Stop (Value × List Char)
  | 0, _, cs => .error (.at .expectedValue cs)
  | fuel + 1, depth, cs =>
    match cs with
    | [] => .error (.at .expectedValue [])
    | '"' :: _ => do
      let (s, rest) ← readString cs
      pure (.text s, rest)
    | '[' :: rest =>
      match depth, skipBlanks rest with
      | 0, _ => .error .depth
      | _ + 1, ']' :: after => .ok (.list [], after)
      | deeper + 1, inside => do
        let (items, after) ← readItems fuel deeper inside
        pure (.list items, after)
    | '\x7b' :: rest =>
      match depth, skipBlanks rest with
      | 0, _ => .error .depth
      | _ + 1, '\x7d' :: after => .ok (.object [], after)
      | deeper + 1, inside => do
        let (fields, after) ← readFields fuel deeper [] inside
        pure (.object fields, after)
    | _ => readScalar cs

def readItems : Nat → Nat → List Char → Except Stop (List Value × List Char)
  | 0, _, cs => .error (.at .expectedValue cs)
  | fuel + 1, depth, cs => do
    let (item, rest) ← readValue fuel depth cs
    match skipBlanks rest with
    | ']' :: after => pure ([item], after)
    | ',' :: after =>
      let (items, after) ← readItems fuel depth (skipBlanks after)
      pure (item :: items, after)
    | other => .error (.at .expectedComma other)

/-- The fields of an object, up to the closing brace, added to those read
so far. -/
def readFields : Nat → Nat → Object → List Char → Except Stop (Object × List Char)
  | 0, _, _, cs => .error (.at .expectedValue cs)
  | fuel + 1, depth, soFar, cs =>
    match cs with
    | '"' :: _ => do
      let (key, rest) ← readString cs
      match skipBlanks rest with
      | ':' :: after =>
        let (item, rest) ← readValue fuel depth (skipBlanks after)
        match skipBlanks rest with
        | '\x7d' :: after => pure (Object.insert soFar key item, after)
        | ',' :: after => readFields fuel depth (Object.insert soFar key item) (skipBlanks after)
        | other => .error (.at .expectedComma other)
      | other => .error (.at .expectedColon other)
    | other => .error (.at .expectedName other)

end

/-- A whole text: one value with nothing but blanks around it. -/
def readAll (cs : List Char) : Except Stop Value :=
  match cs with
  | '\ufeff' :: _ => .error (.at .byteOrderMark cs)
  | _ => do
    let (v, rest) ← readValue (2 * cs.length + 2) depthLimit (skipBlanks cs)
    match skipBlanks rest with
    | [] => pure v
    | extra => .error (.at .extraData extra)

/-- The error of a text at which reading stopped: its line and column
count from one, its offset from zero, and what they count is codes. -/
def Stop.toError (cs : List Char) : Stop → ReadError
  | .digits count => .tooManyDigits count
  | .depth => .tooDeep
  | .at defect rest =>
    let before := Text.codes (cs.take (cs.length - rest.length))
    let column := (before.reverse.takeWhile (· != '\n'.toNat)).length + 1
    .malformed defect (before.count '\n'.toNat + 1) column before.length

def read (s : String) : Except ReadError Value :=
  (readAll s.toList).mapError (Stop.toError s.toList)

end AlertRules.Json
