/-!
Binary floating-point numbers of 53 significant bits, as exact data.

A payload number may be written with a fraction, and the answers of the
rules depend on every bit of it: a threshold is a product and a sum of
two such numbers, and the printed form is the shortest text that reads
back. An opaque machine number cannot be reasoned about, so a finite
number here is what it stands for: a significand `mant` and a `shift`,
meaning `mant * 2 ^ shift` in units of the smallest positive number,
`2 ^ (-1074)`.

Every number has one representation. `Canonical` says so: the
significand has 53 bits unless the shift is zero, which is where the
numbers next to zero live. Everything that produces a number goes
through `ofRatio`, the nearest number to an exact fraction, ties to the
even significand; arithmetic is exact on the fractions and rounded once.
-/

namespace AlertRules

namespace Double

/-- The normal form of a finite number: a significand of at most 53 bits,
of exactly 53 unless the shift is zero, and a shift within range. -/
abbrev Canonical (mant shift : Nat) : Prop :=
  mant < 9007199254740992 ∧ (shift = 0 ∨ 4503599627370496 ≤ mant) ∧ shift ≤ 2045

end Double

/-- A binary floating-point number. A finite one has the magnitude
`mant * 2 ^ shift` in units of `2 ^ (-1074)`. An undefined number equals
nothing; but the one that documents name is one and the same wherever it
is named, and `named` tells it from the others. -/
inductive Double where
  | nan (named : Bool)
  | inf (negative : Bool)
  | finite (negative : Bool) (mant shift : Nat) (canonical : Double.Canonical mant shift)
  deriving DecidableEq, Repr

namespace Double

/-- The number one in units of `2 ^ (-1074)`. -/
def unitsOfOne : Nat := Nat.pow 2 1074

/-- The quotient `num / den` rounded to the nearest natural number, a half
going to the even neighbour. -/
def roundDiv (num den : Nat) : Nat :=
  let quotient := num / den
  let twice := 2 * (num % den)
  if den < twice ∨ (twice = den ∧ quotient % 2 = 1) then quotient + 1 else quotient

/-- The zero of a sign. -/
def signedZero (negative : Bool) : Double := .finite negative 0 0 (by decide)

/-- Positive zero. -/
def zero : Double := signedZero false

instance : Inhabited Double := ⟨zero⟩

/-- The number with a given significand and shift. A significand that
rounding carried to 54 bits is renormalised; what lies beyond the
largest number is infinite. -/
def pack (negative : Bool) (mant shift : Nat) : Double :=
  if h : Canonical mant shift then
    .finite negative mant shift h
  else if h : mant = 9007199254740992 ∧ shift < 2045 then
    .finite negative 4503599627370496 (shift + 1) ⟨by decide, .inr (by decide), by omega⟩
  else
    .inf negative

/-- The number nearest to `num / den` units of `2 ^ (-1074)`. -/
def ofUnits (negative : Bool) (num den : Nat) : Double :=
  let shift := (num / den).log2 - 52
  pack negative (roundDiv num (den * Nat.pow 2 shift)) shift

/-- The number nearest to the fraction `num / den`. -/
def ofRatio (negative : Bool) (num den : Nat) : Double :=
  ofUnits negative (num * unitsOfOne) den

/-- The number nearest to an integer, infinite when the integer is out of
range. -/
def ofInt (i : Int) : Double := ofRatio (decide (i < 0)) i.natAbs 1

/-- Whether the number is neither infinite nor the undefined number. -/
def isFinite : Double → Bool
  | .finite .. => true
  | _ => false

/-- The magnitude of a finite number in units of `2 ^ (-1074)`. -/
def magnitude : Double → Nat
  | .finite _ mant shift _ => mant * Nat.pow 2 shift
  | _ => 0

/-- The value of a finite number in units of `2 ^ (-1074)`. -/
def units : Double → Int
  | .finite true mant shift _ => -((mant * Nat.pow 2 shift : Nat) : Int)
  | .finite false mant shift _ => ((mant * Nat.pow 2 shift : Nat) : Int)
  | _ => 0

/-- Whether the number is a zero of either sign. -/
def isZero : Double → Bool
  | .finite _ mant _ _ => mant == 0
  | _ => false

/-- The integer a finite number equals, if it equals one. -/
def toInt? : Double → Option Int
  | .finite negative mant shift _ =>
    let n : Nat := mant * Nat.pow 2 shift
    if n % unitsOfOne = 0 then
      let q : Nat := n / unitsOfOne
      some (if negative then -(q : Int) else q)
    else none
  | _ => none

/-- The integer part of a finite number, cut toward zero. -/
def truncate (x : Double) : Int := x.units.tdiv unitsOfOne

/-- Whether two numbers are the undefined number that documents name. -/
def bothNamed : Double → Double → Bool
  | .nan true, .nan true => true
  | _, _ => false

/-- The order of two numbers; the undefined number is not ordered, not
even with itself. -/
def compare? : Double → Double → Option Ordering
  | .nan _, _ => none
  | _, .nan _ => none
  | .inf a, .inf b => some (if a == b then .eq else if a then .lt else .gt)
  | .inf a, .finite .. => some (if a then .lt else .gt)
  | .finite .., .inf b => some (if b then .gt else .lt)
  | .finite na ma ka ha, .finite nb mb kb hb =>
    some (compare (units (.finite na ma ka ha)) (units (.finite nb mb kb hb)))

/-- Numeric equality: the zeros are equal, the undefined number is not. -/
def eqv (x y : Double) : Bool := x.compare? y == some .eq

def lt (x y : Double) : Bool := x.compare? y == some .lt

def le (x y : Double) : Bool := x.compare? y == some .lt || x.compare? y == some .eq

def mul : Double → Double → Double
  | .nan _, _ => .nan false
  | _, .nan _ => .nan false
  | .inf a, .inf b => .inf (a != b)
  | .inf a, .finite b m _ _ => if m = 0 then .nan false else .inf (a != b)
  | .finite a m _ _, .inf b => if m = 0 then .nan false else .inf (a != b)
  | .finite a ma ka _, .finite b mb kb _ =>
    ofUnits (a != b) (ma * mb * Nat.pow 2 (ka + kb)) unitsOfOne

/-- The sum, rounded once. An exact zero is negative only when both terms
are. -/
def add : Double → Double → Double
  | .nan _, _ => .nan false
  | _, .nan _ => .nan false
  | .inf a, .inf b => if a == b then .inf a else .nan false
  | .inf a, .finite .. => .inf a
  | .finite .., .inf b => .inf b
  | .finite a ma ka ha, .finite b mb kb hb =>
    let sum := units (.finite a ma ka ha) + units (.finite b mb kb hb)
    if sum = 0 then signedZero (a && b)
    else ofUnits (decide (sum < 0)) sum.natAbs 1

end Double

end AlertRules
