import AlertRules.Comparison.Comparator
import AlertRules.Path
import AlertRules.Schema.Check

/-!
Conditions.

A condition is a tree: a leaf compares one field of the payload with an
operand, and a node asks for all or for any of its children. The operand
is a value, or is computed from another field of the payload, scaled and
shifted.

`Condition.toValue` is the document of a condition, the form in which
rules are stored. Whoever needs a condition can be given its document or
the condition itself (`ConditionInput`).
-/

namespace AlertRules

/-- An operand computed from a field: its number times `multiplier` plus
`offset`, each of which may be left out. -/
structure DynamicValue where
  field : String
  multiplier : Option Double
  offset : Option Double
  deriving DecidableEq, Repr

inductive Operand where
  | literal (v : Value)
  | dynamic (d : DynamicValue)
  deriving Repr

structure Leaf where
  field : String
  operator : Operator
  operand : Operand
  deriving Repr

inductive Condition where
  | leaf (l : Leaf)
  | allOf (children : List Condition)
  | anyOf (children : List Condition)
  deriving Repr

namespace Connective

/-- The connectives, in the order in which a document is searched for
them. -/
def all : List Connective := [.and, .or]

def among (fields : Object) : List Connective := all.filter fun c => fields.contains c.key

def node : Connective → List Condition → Condition
  | .and, children => .allOf children
  | .or, children => .anyOf children

end Connective

namespace DynamicValue

def fieldNames : List String := ["field", "multiplier", "offset"]

def ofFields (o : Object) : Schema.Checked DynamicValue :=
  Schema.legibleNames o <|
    (fun field multiplier offset _ => DynamicValue.mk field multiplier offset) <$>
    Schema.required Schema.nonEmptyText "field" o <*>
    Schema.optional (Schema.nullable Schema.double) "multiplier" none o <*>
    Schema.optional (Schema.nullable Schema.double) "offset" none o <*>
    Schema.closed fieldNames o

def check : Schema.Check DynamicValue := Schema.model ofFields

/-- The document of a computed operand; what is left out has no field. -/
def toValue (d : DynamicValue) : Value :=
  .object <|
    ("field", .text d.field) ::
      ((d.multiplier.map fun x => ("multiplier", Value.float x)).toList ++
        (d.offset.map fun x => ("offset", Value.float x)).toList)

/-- The operand for a value of its field: missing if that is no number. -/
def resolve (d : DynamicValue) (base : Value) : Except Fault Value := do
  match ← base.toNumber with
  | none => pure .missing
  | some x =>
    let scaled := match d.multiplier with
      | some m => x.mul m
      | none => x
    let shifted := match d.offset with
      | some o => scaled.add o
      | none => scaled
    pure (.float shifted)

end DynamicValue

namespace Operand

/-- Checks an operand: an object with a field named `field` is computed,
anything else is a value. -/
def check : Schema.Check Operand
  | .object fields =>
    if Object.contains fields "field" then .dynamic <$> DynamicValue.ofFields fields
    else .ok (.literal (.object fields))
  | v => .ok (.literal v)

def toValue : Operand → Value
  | .literal v => v
  | .dynamic d => d.toValue

def resolve (data : Value) : Operand → Except Fault Value
  | .literal v => .ok v
  | .dynamic d => d.resolve (Path.extract data d.field)

end Operand

namespace Leaf

def fieldNames : List String := ["field", "operator", "value"]

def ofFields (o : Object) : Schema.Checked Leaf :=
  Schema.legibleNames o <| (fun field operator operand _ => Leaf.mk field operator operand) <$>
    Schema.required Schema.nonEmptyText "field" o <*>
    Schema.required (Schema.oneOf Operator.ofSymbol?) "operator" o <*>
    Schema.optional Operand.check "value" (.literal .null) o <*>
    Schema.closed fieldNames o

def check : Schema.Check Leaf := Schema.model ofFields

def toValue (l : Leaf) : Value :=
  .object [("field", .text l.field), ("operator", .text l.operator.symbol),
    ("value", l.operand.toValue)]

end Leaf

namespace Condition

mutual

def toValue : Condition → Value
  | .leaf l => l.toValue
  | .allOf children => .object [(Connective.and.key, .list (toValues children))]
  | .anyOf children => .object [(Connective.or.key, .list (toValues children))]

def toValues : List Condition → List Value
  | [] => []
  | c :: rest => toValue c :: toValues rest

end

end Condition

/-- What a condition is given as: its document, or a condition that was read
before. -/
inductive ConditionInput where
  | document (v : Value)
  | condition (c : Condition)

def ConditionInput.toValue : ConditionInput → Value
  | .document v => v
  | .condition c => c.toValue

end AlertRules
