import AlertRules.Condition.Parser

/-!
Evaluating conditions against a payload.

Children are evaluated from the left and only as far as needed: a node
that asks for all stops at the first that does not match, one that asks
for any at the first that does. A leaf looks up its operand before its
own field.
-/

namespace AlertRules

def Leaf.evaluate (comparator : Comparator) (data : Value) (l : Leaf) : Action SetCache Bool := do
  let expected ← Action.ofExcept (l.operand.resolve data)
  comparator.compare l.operator (Path.extract data l.field) expected

namespace Condition

mutual

def evaluate (comparator : Comparator) (data : Value) : Condition → Action SetCache Bool
  | .leaf l => l.evaluate comparator data
  | .allOf children => evaluateAll comparator data children
  | .anyOf children => evaluateAny comparator data children

def evaluateAll (comparator : Comparator) (data : Value) : List Condition → Action SetCache Bool
  | [] => pure true
  | c :: rest => do
    if ← evaluate comparator data c then evaluateAll comparator data rest else pure false

def evaluateAny (comparator : Comparator) (data : Value) : List Condition → Action SetCache Bool
  | [] => pure false
  | c :: rest => do
    if ← evaluate comparator data c then pure true else evaluateAny comparator data rest

end

end Condition

def ConditionInput.evaluate (comparator : Comparator) (data : Value) (input : ConditionInput) :
    Action SetCache Bool := do
  let c ← Action.ofExcept (input.parse.mapError .condition)
  c.evaluate comparator data

def DynamicValue.factorText : Option Double → String
  | some x => x.text
  | none => "None"

def DynamicValue.inspect (d : DynamicValue) : String :=
  "DynamicValue(field=" ++ Text.quoted d.field ++ ", multiplier=" ++ factorText d.multiplier ++
    ", offset=" ++ factorText d.offset ++ ")"

def Operand.inspect : Operand → Except Fault String
  | .literal v => v.inspect
  | .dynamic d => .ok d.inspect

def Leaf.inspect (l : Leaf) : Except Fault String := do
  pure ("LeafCondition(field=" ++ Text.quoted l.field ++ ", operator=<Operator." ++
    l.operator.label ++ ": '" ++ l.operator.symbol ++ "'>, value=" ++ (← l.operand.inspect) ++ ")")

namespace Condition

/-- Reports what was to be evaluated as a node and is none. -/
def refuseNode (shown : String) : Action SetCache Bool := do
  Action.warn ("Complex condition has neither AND nor OR: " ++ shown)
  pure false

def evaluateNode (comparator : Comparator) (data : Value) : Condition → Action SetCache Bool
  | .leaf l => do refuseNode (← Action.ofExcept l.inspect)
  | c => evaluate comparator data c

end Condition

end AlertRules
