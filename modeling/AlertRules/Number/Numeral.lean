import AlertRules.Number.Shortest
import AlertRules.Text.Blank
import AlertRules.Text.Digit
import AlertRules.Text.Quoted

/-!
Numerals: the written decimal numbers that text may hold.

A numeral is an optional sign, digits with an optional point among or
around them, and an optional exponent. Its value is
`coeff * 10 ^ exponent`, which `toDouble` rounds once. Which characters
count as digits is a parameter, because a payload may use the digits of
any script and a document format only the ten of ASCII.
-/

namespace AlertRules

/-- The value of a numeral: `coeff * 10 ^ exponent`, with a sign of its
own so that a negative zero is kept. -/
structure Numeral where
  negative : Bool
  coeff : Nat
  exponent : Int
  deriving DecidableEq, Repr

namespace Numeral

/-- The values of the leading digits, and what follows them. -/
def spanDigits (digit? : Char → Option Nat) : List Char → List Nat × List Char
  | [] => ([], [])
  | c :: rest =>
    match digit? c with
    | some d => let (ds, tail) := spanDigits digit? rest; (d :: ds, tail)
    | none => ([], c :: rest)

def ofDigits (ds : List Nat) : Nat := ds.foldl (fun n d => 10 * n + d) 0

/-- The most digits of an integer that is read from text or written as
text. -/
def digitLimit : Nat := 4300

def spanSign : List Char → Bool × List Char
  | '+' :: rest => (false, rest)
  | '-' :: rest => (true, rest)
  | cs => (false, cs)

/-- The exponent part at the end of a numeral: nothing, or the letter
`e`, an optional sign and at least one digit. -/
def readExponent? (digit? : Char → Option Nat) : List Char → Option Int
  | [] => some 0
  | c :: rest =>
    if c == 'e' || c == 'E' then
      let (negative, tail) := spanSign rest
      match spanDigits digit? tail with
      | (d :: ds, []) =>
        let n : Int := ofDigits (d :: ds)
        some (if negative then -n else n)
      | _ => none
    else none

/-- The digits before and after the point, at least one in all, and what
follows them. -/
def readDigits? (digit? : Char → Option Nat) (cs : List Char) :
    Option (List Nat × List Nat × List Char) :=
  match spanDigits digit? cs with
  | (whole, '.' :: rest) =>
    let (frac, tail) := spanDigits digit? rest
    if whole.isEmpty && frac.isEmpty then none else some (whole, frac, tail)
  | (whole, rest) => if whole.isEmpty then none else some (whole, [], rest)

/-- The numeral that a whole text writes, if it writes one. -/
def read? (digit? : Char → Option Nat) (cs : List Char) : Option Numeral := do
  let (negative, unsigned) := spanSign cs
  let (whole, frac, rest) ← readDigits? digit? unsigned
  let exponent ← readExponent? digit? rest
  pure ⟨negative, ofDigits (whole ++ frac), exponent - (frac.length : Int)⟩

/-- The floating-point number nearest to a numeral. Exponents far out of
range are settled without computing the power. -/
def toDouble (n : Numeral) : Double :=
  let leading : Int := ((Double.digitsOf n.coeff).length : Int) + n.exponent
  if n.coeff = 0 ∨ leading < -400 then Double.signedZero n.negative
  else if 400 < leading then .inf n.negative
  else Double.ofScientific n.negative n.coeff n.exponent

end Numeral

end AlertRules
