import AlertRules.Json.Reader
import AlertRules.Number.Numeral

/-!
Numbers that the fields of a document give as text.

A number may have underscores among its characters, which count for
nothing. A whole number may have zeros in front and a fraction of zeros
behind, and both are taken off before the number is read, the fraction
first. In what is left an underscore stands between two digits, so none
follows the sign, and the length is bounded unless the value is small.
Only a number in its plainest form is told apart when it is too long; any
other is one that cannot be read.
-/

namespace AlertRules.Schema

/-- A text without underscores, if none of them is at an end or beside
another. -/
def withoutUnderscores? (cs : List Char) : Option (List Char) :=
  let rec go : Bool → List Char → Option (List Char)
    | afterMark, [] => if afterMark then none else some []
    | afterMark, c :: rest =>
      if c == '_' then (if afterMark then none else go true rest)
      else (go false rest).map (c :: ·)
  go true cs

/-- The names of the infinities and of the undefined number, or a
numeral. -/
def readDouble? (cs : List Char) : Option Double :=
  let (negative, unsigned) := Numeral.spanSign cs
  let name := unsigned.map Char.toLower
  if name == "inf".toList || name == "infinity".toList then some (.inf negative)
  else if name == "nan".toList then some (.nan false)
  else (Numeral.read? Text.asciiDigit? cs).map Numeral.toDouble

/-- Where the whole numbers of 64 bits with a sign end: two to the 63rd. -/
def wordLimit : Nat := 9223372036854775808

/-- A text without a fraction, if it has one of zeros only. -/
def withoutFraction (cs : List Char) : List Char :=
  match cs.dropWhile (· != '.') with
  | '.' :: '0' :: zeros => if zeros.all (· == '0') then cs.takeWhile (· != '.') else cs
  | _ => cs

/-- A text without a plus before it, which no minus may follow. -/
def withoutPlus? : List Char → Option (List Char)
  | '+' :: '-' :: _ => none
  | '+' :: rest => some rest
  | cs => some cs

/-- What follows zeros, with underscores among them, at the start of a
number: its first other digit, or a minus. Of nothing but zeros the last
character is left. -/
def afterZeros? (last : Char) : List Char → Option (List Char)
  | [] => some [last]
  | c :: rest =>
    if c == '0' || c == '_' then afterZeros? c rest
    else if c == '-' || (Text.asciiDigit? c).isSome then some (c :: rest)
    else none

/-- A number without the zeros at its start. -/
def withoutZeros? : List Char → Option (List Char)
  | '0' :: rest => afterZeros? '0' rest
  | c :: rest => if c == '-' || (Text.asciiDigit? c).isSome then some (c :: rest) else none
  | [] => none

/-- Whether a text begins as a whole number in its plainest form, digits
with no zero at their start and nothing before them but a minus, and that
is too long to be read. -/
def isOverlong (cs : List Char) : Bool :=
  let unsigned := match cs with
    | '-' :: rest => rest
    | _ => cs
  let digits := (Numeral.spanDigits Text.asciiDigit? unsigned).1
  digits.head? != some 0 && Numeral.digitLimit < cs.length - unsigned.length + digits.length

/-- A whole number in text form: a sign, digits with single underscores
among them, and a fraction of zeros only. A minus may follow zeros too. A
number beyond 64 bits may have at most `Numeral.digitLimit` characters. -/
def readInt? (cs : List Char) : Option Int := do
  let unsigned ← withoutPlus? (withoutFraction cs)
  let significant ← withoutZeros? unsigned
  let (negative, marked) := Numeral.spanSign significant
  match Numeral.spanDigits Text.asciiDigit? (← withoutUnderscores? marked) with
  | (d :: ds, []) =>
    let n : Nat := Numeral.ofDigits (d :: ds)
    let fits := n < wordLimit || (negative && n == wordLimit)
    if !fits && Numeral.digitLimit < significant.length then none
    else pure (if negative then -(n : Int) else n)
  | _ => none

end AlertRules.Schema
