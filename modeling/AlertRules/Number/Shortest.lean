import AlertRules.Number.Double

/-!
The written form of a floating-point number: the fewest decimal digits
that read back to the same number.

`shortest` tries one digit, then two, and so on. On the decimal grid of
a given number of digits only the two neighbours of the value can read
back, so each attempt looks at those two and takes the nearer one that
does. Seventeen digits always suffice.

`text` lays the digits out: in positional notation when the first digit
stands between the sixteenth place before the point and the fourth
after it, always with a point, and with an exponent of at least two
digits otherwise.
-/

namespace AlertRules.Double

/-- A decimal number as its digits `digits` and the power of ten
`exponent` of the first of them: `d.ddd * 10 ^ exponent`. -/
structure Digits where
  digits : List Char
  exponent : Int
  deriving DecidableEq, Repr

/-- The decimal digits of a natural number, the first of them not zero
unless the number is. -/
def digitsOf (n : Nat) : List Char := Nat.toDigits 10 n

/-- The power of ten of the leading digit of a positive fraction that is
not below `10 ^ (-400)`. -/
def leadingExponent (num den : Nat) : Int :=
  ((digitsOf (num * Nat.pow 10 400 / den)).length : Int) - 401

/-- The number that `coeff * 10 ^ exponent` reads back to. -/
def ofScientific (negative : Bool) (coeff : Nat) (exponent : Int) : Double :=
  match exponent with
  | .ofNat e => ofRatio negative (coeff * Nat.pow 10 e) 1
  | .negSucc e => ofRatio negative coeff (Nat.pow 10 (e + 1))

/-- The digits of a coefficient of the grid `10 ^ exponent`, its trailing
zeros dropped. -/
def Digits.ofCoeff (coeff : Nat) (exponent : Int) : Digits :=
  let written := digitsOf coeff
  { digits := (written.reverse.dropWhile (· == '0')).reverse
    exponent := exponent + (written.length : Int) - 1 }

/-- The neighbours of `num / den` on the grid `10 ^ exponent`, the nearer
one first. -/
def neighbours (num den : Nat) (exponent : Int) : List Nat :=
  let (n, d) := match exponent with
    | .ofNat e => (num, den * Nat.pow 10 e)
    | .negSucc e => (num * Nat.pow 10 (e + 1), den)
  let below := n / d
  if 2 * (n % d) < d ∨ (2 * (n % d) = d ∧ below % 2 = 0) then [below, below + 1]
  else [below + 1, below]

/-- The first grid, from `count` digits on, with a neighbour of the
positive number `x` that reads back to it. -/
def search (x : Double) (num den : Nat) (leading : Int) : Nat → Nat → Digits
  | 0, _ => ⟨['0'], 0⟩
  | fuel + 1, count =>
    let exponent := leading - (count : Int) + 1
    match (neighbours num den exponent).find? (ofScientific false · exponent == x) with
    | some coeff => Digits.ofCoeff coeff exponent
    | none => search x num den leading fuel (count + 1)

/-- The fewest digits that read back to a positive finite number. -/
def shortest (mant shift : Nat) : Digits :=
  let num := mant * Nat.pow 2 shift
  search (ofUnits false num 1) num unitsOfOne (leadingExponent num unitsOfOne) 17 1

def exponentText (e : Int) : List Char :=
  let digits := digitsOf e.natAbs
  (if e < 0 then '-' else '+') :: (if digits.length < 2 then '0' :: digits else digits)

/-- The layout of shortest digits: positional for exponents from `-4` to
`15`, scientific outside. -/
def layout (d : Digits) : List Char :=
  if -4 ≤ d.exponent ∧ d.exponent < 16 then
    match d.exponent with
    | .ofNat e =>
      let whole := d.digits.take (e + 1)
      let rest := d.digits.drop (e + 1)
      whole ++ List.replicate (e + 1 - whole.length) '0' ++
        '.' :: (if rest.isEmpty then ['0'] else rest)
    | .negSucc e => '0' :: '.' :: (List.replicate e '0' ++ d.digits)
  else
    let mantissa := match d.digits with
      | [] => []
      | [c] => [c]
      | c :: rest => c :: '.' :: rest
    mantissa ++ 'e' :: exponentText d.exponent

def text : Double → String
  | .nan _ => "nan"
  | .inf negative => if negative then "-inf" else "inf"
  | .finite negative mant shift _ =>
    let body := if mant = 0 then ['0', '.', '0'] else layout (shortest mant shift)
    String.ofList (if negative then '-' :: body else body)

end AlertRules.Double
