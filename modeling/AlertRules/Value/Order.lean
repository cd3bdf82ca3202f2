import AlertRules.Value.Basic

/-!
Equality and order of values.

Numbers of all kinds are compared by their exact value, and for this
purpose a truth value is the number one or zero. Sequences of one kind
are compared item by item, objects field by field whatever the order of
the fields. Everything else is equal only to its own kind, and only
numbers, texts and sequences of one kind are ordered.

A comparison can fail in two ways. Two kinds may have no order
(`incomparable`), and a decimal undefined number may refuse the
question (`undefined`): the signalling one refuses every question, the
quiet one refuses order but not equality. A floating-point undefined
number answers no to everything unless a decimal number is on the other
side, which lifts it to a decimal one. Items of containers are also equal
if they are one and the same, which the undefined number of documents is
even though it does not equal itself.
-/

namespace AlertRules

inductive OrderError where
  | incomparable
  | undefined
  deriving DecidableEq, Repr

/-- A number as an exact fraction `num / den * 10 ^ power`, or what stands in
place of one. -/
inductive Quantity where
  | ratio (num : Int) (den : Nat) (power : Int)
  | infinite (negative : Bool)
  | undefined (signalling : Bool)
  deriving DecidableEq, Repr

namespace Quantity

/-- A power of ten for a number that is compared with another one. It is cut
where it is above the other number in any case: what it multiplies is zero,
or is the greater one already. -/
def scale (power other : Int) : Nat := Nat.pow 10 (min power.toNat (other.natAbs.log2 + 1))

/-- The order of two numbers, unless one is undefined. -/
def compare? : Quantity → Quantity → Option Ordering
  | .undefined _, _ => none
  | _, .undefined _ => none
  | .infinite a, .infinite b => some (if a == b then .eq else if a then .lt else .gt)
  | .infinite a, .ratio .. => some (if a then .lt else .gt)
  | .ratio .., .infinite b => some (if b then .gt else .lt)
  | .ratio a c e, .ratio b d f =>
    let x := a * d
    let y := b * c
    some (compare (x * scale (e - f) y) (y * scale (f - e) x))

def isSignalling : Quantity → Bool
  | .undefined signalling => signalling
  | _ => false

end Quantity

def Decimal.quantity : Decimal → Quantity
  | .finite negative coeff exponent => .ratio (signed negative coeff) 1 exponent
  | .inf negative => .infinite negative
  | .nan _ signalling _ => .undefined signalling

def Double.quantity : Double → Quantity
  | .nan _ => .undefined false
  | .inf negative => .infinite negative
  | x => .ratio x.units Double.unitsOfOne 0

namespace Value

/-- The exact number a value is, truth values included. -/
def quantity? : Value → Option Quantity
  | .bool b => some (.ratio (if b then 1 else 0) 1 0)
  | .int i => some (.ratio i 1 0)
  | .float x => some x.quantity
  | .decimal d => some d.quantity
  | _ => none

def isDecimal : Value → Bool
  | .decimal _ => true
  | _ => false

/-- Equality of two values that are not both containers of one kind. A
signalling number refuses to be compared with a number. -/
def scalarEq (v w : Value) : Except OrderError Bool :=
  match v.quantity?, w.quantity? with
  | some a, some b =>
    if a.isSignalling || b.isSignalling then .error .undefined
    else .ok (a.compare? b == some .eq)
  | _, _ =>
    match v, w with
    | .null, .null => .ok true
    | .missing, .missing => .ok true
    | .text s, .text t => .ok (s == t)
    | _, _ => .ok false

/-- Whether two items are one and the same although they need not be equal. -/
def identical : Value → Value → Bool
  | .float x, .float y => x.bothNamed y
  | _, _ => false

mutual

/-- Equality of values. Lists of different length and objects of different
size differ without a look at what they hold. -/
def equal : Value → Value → Except OrderError Bool
  | .list xs, .list ys => if xs.length = ys.length then equalItems xs ys else .ok false
  | .tuple xs, .tuple ys => equalItems xs ys
  | .object xs, .object ys => if xs.length = ys.length then equalFields xs ys else .ok false
  | v, w => scalarEq v w

/-- Equality item by item, up to the first difference. -/
def equalItems : List Value → List Value → Except OrderError Bool
  | [], [] => .ok true
  | x :: xs, y :: ys => do
    if identical x y || (← equal x y) then equalItems xs ys else pure false
  | _, _ => .ok false

/-- Equality of each field with the field of the same name. -/
def equalFields : List (String × Value) → List (String × Value) → Except OrderError Bool
  | [], _ => .ok true
  | (k, x) :: xs, ys =>
    match Object.get? ys k with
    | some y => do
      if identical x y || (← equal x y) then equalFields xs ys else pure false
    | none => .ok false

end

/-- Whether one value is below another, when neither is a sequence. -/
def scalarLess (v w : Value) : Except OrderError Bool :=
  match v.quantity?, w.quantity? with
  | some a, some b =>
    match a.compare? b with
    | some order => .ok (order == .lt)
    | none => if v.isDecimal || w.isDecimal then .error .undefined else .ok false
  | _, _ =>
    match v, w with
    | .text s, .text t => .ok (Text.before s t)
    | _, _ => .error .incomparable

mutual

/-- Whether one value is below another, or above it where that is asked.
Sequences are ordered by their first unequal items, and a sequence that runs
out first is below. Equality is asked of the items on the left, so which of
two fields refuses it first may depend on the side. -/
def ordered (above : Bool) : Value → Value → Except OrderError Bool
  | .list xs, .list ys => orderedItems above xs ys
  | .tuple xs, .tuple ys => orderedItems above xs ys
  | v, w => if above then scalarLess w v else scalarLess v w

def orderedItems (above : Bool) : List Value → List Value → Except OrderError Bool
  | [], [] => .ok false
  | [], _ :: _ => .ok !above
  | _ :: _, [] => .ok above
  | x :: xs, y :: ys => do
    if identical x y || (← equal x y) then orderedItems above xs ys else ordered above x y

end

def less (v w : Value) : Except OrderError Bool := ordered false v w

def greater (v w : Value) : Except OrderError Bool := ordered true v w

theorem less_int (i j : Int) : less (.int i) (.int j) = .ok (decide (i < j)) := by
  have horder : (Ord.compare i j == .lt) = decide (i < j) := by
    rw [Bool.eq_iff_iff, beq_iff_eq, decide_eq_true_iff]
    exact Int.compare_eq_lt
  simp [less, ordered, scalarLess, quantity?, Quantity.compare?, Quantity.scale, horder]

end Value

end AlertRules
