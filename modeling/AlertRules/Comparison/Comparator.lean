import AlertRules.Action
import AlertRules.Comparison.Membership
import AlertRules.Comparison.Numeric

/-!
The eight operators.

An operator compares what a payload holds with what a rule expects. A
value that is absent or null matches nothing, except that it differs
from any operand that is not null. Otherwise numbers and numeric texts
are compared as numbers; of what is left, everything can be the same or
not, some pairs have an order, and nothing is "at least" or "at most".
A comparison that makes no sense is logged and does not match, unless
what it says of its operands has no text.

The state of a comparison is the cache of membership sets. The length
from which a list is looked up as a set is a setting, and settings are
not always of the kind they should be, so it is a value that is compared
with the length by the order of values.
-/

namespace AlertRules

inductive Operator where
  | gt
  | lt
  | ge
  | le
  | eq
  | ne
  | between
  | isIn
  deriving DecidableEq, Repr

namespace Operator

def all : List Operator := [.gt, .lt, .ge, .le, .eq, .ne, .between, .isIn]

def symbol : Operator → String
  | .gt => ">"
  | .lt => "<"
  | .ge => ">="
  | .le => "<="
  | .eq => "="
  | .ne => "!="
  | .between => "between"
  | .isIn => "in"

def label : Operator → String
  | .gt => "GT"
  | .lt => "LT"
  | .ge => "GTE"
  | .le => "LTE"
  | .eq => "EQ"
  | .ne => "NE"
  | .between => "BETWEEN"
  | .isIn => "IN"

def ofSymbol? (s : String) : Option Operator := all.find? (·.symbol == s)

def ofValue? : Value → Option Operator
  | .text s => ofSymbol? s
  | _ => none

end Operator

/-- How values are compared: the length from which a list is looked up as
a set. -/
structure Comparator where
  setThreshold : Value := .int 100

namespace Comparator

def compareNumbers (op : Operator) (x y : Double) : Bool :=
  match op with
  | .gt => y.lt x
  | .lt => x.lt y
  | .ge => y.le x
  | .le => x.le y
  | .eq => x.eqv y
  | _ => !x.eqv y

/-- Whether a value lies between two bounds, both included. -/
def evaluateBetween (actual expected : Value) : Action SetCache Bool :=
  match expected.items? with
  | some [low, high] => do
    let number ← Action.ofExcept actual.toNumber
    let lowest ← Action.ofExcept low.toNumber
    let highest ← Action.ofExcept high.toNumber
    match number, lowest, highest with
    | some x, some a, some b =>
      if b.lt a then
        Action.warn ("Invalid range: min > max (" ++ (← Action.ofExcept low.inspect) ++ " > " ++
          (← Action.ofExcept high.inspect) ++ ")")
        pure false
      else pure (a.le x && x.le b)
    | _, _, _ => pure false
  | _ => do
    Action.warn ("Invalid range for between operator: " ++ (← Action.ofExcept expected.inspect))
    pure false

/-- Whether a list is shorter than the length from which it is looked up
as a set. -/
def isShort (c : Comparator) (items : List Value) : Except Fault Bool :=
  match Value.less (.int items.length) c.setThreshold with
  | .ok answer => .ok answer
  | .error _ => .error .unsupported

/-- Membership by way of the cached set of a list's keys. -/
def lookUp (key : MemberKey) (items : List Value) : Action SetCache Bool := do
  let cache ← get
  let (keys, cache') ← Action.ofExcept (cache.keysOf items)
  set cache'
  pure (keys.any (·.same key))

def evaluateIn (c : Comparator) (actual expected : Value) : Action SetCache Bool :=
  match expected.items? with
  | some items => do
    let key ← Action.ofExcept actual.key
    if ← Action.ofExcept (c.isShort items) then Action.ofExcept (memberOf key items)
    else lookUp key items
  | none => do
    Action.warn ("Invalid array for in operator: " ++ (← Action.ofExcept expected.inspect))
    pure false

/-- Whether one value is below or above another, logged as an attempt to order
`left` and `right` when there is no order. -/
def evaluateOrder (op : Operator) (left right : Value) (answer : Except OrderError Bool) :
    Action SetCache Bool :=
  match answer with
  | .ok b => pure b
  | .error .incomparable => do
    Action.warn ("Cannot order " ++ left.kindName ++ " and " ++ right.kindName ++
      " with '" ++ op.symbol ++ "'")
    pure false
  | .error .undefined => throw .unsupported

/-- The comparison of two values that are not both numbers. -/
def compareValues (op : Operator) (actual expected : Value) : Action SetCache Bool :=
  match op with
  | .eq => pure (actual.strictEquals expected)
  | .ne => pure (!actual.strictEquals expected)
  | .gt => evaluateOrder op actual expected (actual.greater expected)
  | .lt => evaluateOrder op actual expected (actual.less expected)
  | _ => do
    Action.warn ("Unsupported operator for non-numeric types: " ++ op.symbol)
    pure false

def compare (c : Comparator) (op : Operator) (actual expected : Value) : Action SetCache Bool :=
  if actual.isAbsent then
    pure (op == .ne && match expected with
      | .null => false
      | _ => true)
  else
    match op with
    | .between => evaluateBetween actual expected
    | .isIn => c.evaluateIn actual expected
    | _ => do
      let x ← Action.ofExcept actual.toNumber
      let y ← Action.ofExcept expected.toNumber
      match x, y with
      | some x, some y => pure (compareNumbers op x y)
      | _, _ => compareValues op actual expected

def compareBy (c : Comparator) (operator actual expected : Value) : Action SetCache Bool :=
  match Operator.ofValue? operator with
  | some op => c.compare op actual expected
  | none => do
    Action.warn ("Unknown operator: " ++ (← Action.ofExcept operator.display))
    pure false

end Comparator

end AlertRules
