import AlertRules.Number.Numeral

/-!
Decimal numbers, kept digit by digit.

Money arrives as decimal text and keeps its trailing zeros: `1.50` is
`150 * 10 ^ (-2)`, equal to `1.5` and printed differently. Besides the
numbers there are the infinities and two undefined numbers, of which the
signalling one makes every comparison fail.
-/

namespace AlertRules

/-- A decimal number, `coeff * 10 ^ exponent` when finite. -/
inductive Decimal where
  | finite (negative : Bool) (coeff : Nat) (exponent : Int)
  | inf (negative : Bool)
  | nan (negative signalling : Bool) (payload : Nat)
  deriving DecidableEq, Repr

namespace Decimal

/-- The text of a number in ASCII: no blanks around it, no underscores, and
the digits of any script as those of ASCII. -/
def ascii? (cs : List Char) : Option (List Char) :=
  ((Text.strip Text.isBlank cs).filter (· != '_')).mapM fun c =>
    if c.toNat < 0x80 then some c
    else (Text.digitValue? c).map fun d => Char.ofNat ('0'.toNat + d)

/-- The greatest power of ten that the first digit of a number may stand
for. -/
def highestPower : Int := 999999999999999999

/-- The least power of ten that the last digit of a number may stand for. -/
def lowestPower : Int := -1999999999999999997

/-- The number that a numeral writes, if its digits stand for powers of ten
within bounds. -/
def ofNumeral? (n : Numeral) : Option Decimal :=
  let leading : Int := n.exponent + (Double.digitsOf n.coeff).length - 1
  if leading ≤ highestPower ∧ lowestPower ≤ n.exponent then
    some (.finite n.negative n.coeff n.exponent)
  else none

def ofText? (s : String) : Option Decimal := do
  let cs ← ascii? s.toList
  let (negative, unsigned) := Numeral.spanSign cs
  let lower := unsigned.map Char.toLower
  let payload? (rest : List Char) : Option Nat :=
    match Numeral.spanDigits Text.asciiDigit? rest with
    | (ds, []) => some (Numeral.ofDigits ds)
    | _ => none
  if lower == "inf".toList || lower == "infinity".toList then some (.inf negative)
  else if lower.take 3 == "nan".toList then
    (payload? (lower.drop 3)).map (.nan negative false)
  else if lower.take 4 == "snan".toList then
    (payload? (lower.drop 4)).map (.nan negative true)
  else
    (Numeral.read? Text.asciiDigit? cs).bind ofNumeral?

/-- The digits of a coefficient with the point after the first `place` of
them, zeros filled in on either side. -/
def pointed (digits : List Char) (place : Int) : List Char :=
  match place with
  | .ofNat 0 => '0' :: '.' :: digits
  | .negSucc k => '0' :: '.' :: (List.replicate (k + 1) '0' ++ digits)
  | .ofNat n =>
    if digits.length ≤ n then digits ++ List.replicate (n - digits.length) '0'
    else digits.take n ++ '.' :: digits.drop n

/-- The text of a decimal number: its digits with a point among them when
the exponent is not positive and the number is not very small, one
leading digit and an exponent otherwise. -/
def text : Decimal → String
  | .finite negative coeff exponent =>
    let digits := Double.digitsOf coeff
    let left : Int := exponent + digits.length
    let place := if exponent ≤ 0 ∧ -6 < left then left else 1
    let power := left - place
    let tail :=
      if power = 0 then []
      else 'E' :: (if power < 0 then '-' else '+') :: Double.digitsOf power.natAbs
    let body := pointed digits place ++ tail
    String.ofList (if negative then '-' :: body else body)
  | .inf negative => if negative then "-Infinity" else "Infinity"
  | .nan negative signalling payload =>
    (if negative then "-" else "") ++ (if signalling then "sNaN" else "NaN") ++
      (if payload = 0 then "" else String.ofList (Double.digitsOf payload))

/-- Whether the number is a zero. -/
def isZero : Decimal → Bool
  | .finite _ coeff _ => coeff == 0
  | _ => false

def isSignalling : Decimal → Bool
  | .nan _ signalling _ => signalling
  | _ => false

def signed (negative : Bool) (n : Nat) : Int := if negative then -(n : Int) else n

/-- The integer a number equals, if it equals one. -/
def toInt? : Decimal → Option Int
  | .finite negative coeff exponent =>
    if coeff = 0 then some 0
    else match exponent with
      | .ofNat e => some (signed negative (coeff * Nat.pow 10 e))
      | .negSucc e =>
        if (Double.digitsOf coeff).length ≤ e then none
        else if coeff % Nat.pow 10 (e + 1) = 0 then some (signed negative (coeff / Nat.pow 10 (e + 1)))
        else none
  | _ => none

/-- The nearest floating-point number. The signalling number has none. -/
def toDouble? : Decimal → Option Double
  | .finite negative coeff exponent => some (Numeral.toDouble ⟨negative, coeff, exponent⟩)
  | .inf negative => some (.inf negative)
  | .nan _ signalling _ => if signalling then none else some (.nan false)

end Decimal

end AlertRules
