import AlertRules.Condition.Basic

/-!
Limits on the shape of a condition.

Conditions are written by tenants, so their depth and breadth are
checked before they are evaluated. The check does not need to know what
a leaf says. It works on an outline, the tree of connectives alone, and
both documents and conditions have one; a node that has no usable list
of children has none in its outline.

The limits are settings and need not be numbers. They are compared with
depth and breadth by the order of values, and a limit that has no order
with a number is a fault.
-/

namespace AlertRules

/-- The connectives of a condition. -/
inductive Outline where
  | leaf
  | mixed
  | node (connective : Connective) (children : List Outline)
  deriving Repr

mutual

def Value.outline : Value → Outline
  | .object fields =>
    match Connective.among fields with
    | [] => .leaf
    | [c] => .node c (outlinesUnder c.key fields)
    | _ => .mixed
  | _ => .leaf

/-- The outlines of the documents listed under a name. -/
def Value.outlinesUnder (key : String) : List (String × Value) → List Outline
  | [] => []
  | (k, v) :: rest =>
    if k == key then
      match v with
      | .list items => outlines items
      | _ => []
    else Value.outlinesUnder key rest

def Value.outlines : List Value → List Outline
  | [] => []
  | v :: rest => v.outline :: Value.outlines rest

end

mutual

def Condition.outline : Condition → Outline
  | .leaf _ => .leaf
  | .allOf children => .node .and (outlines children)
  | .anyOf children => .node .or (outlines children)

def Condition.outlines : List Condition → List Outline
  | [] => []
  | c :: rest => c.outline :: Condition.outlines rest

end

def ConditionInput.outline : ConditionInput → Outline
  | .document v => v.outline
  | .condition c => c.outline

/-- The deepest level and the greatest number of children that a
condition may have. -/
structure Limits where
  depth : Value := .int 3
  breadth : Value := .int 10

namespace Limits

def exceeds (limit : Value) (n : Int) : Except Fault Bool :=
  match limit.less (.int n) with
  | .ok answer => .ok answer
  | .error _ => .error .unsupported

/-- Checks that a level is not too deep. -/
def checkLevel (limits : Limits) (level : Int) : Except Fault Unit := do
  if ← exceeds limits.depth level then .error (.complexity (.tooDeep (← limits.depth.display)))
  else .ok ()

mutual

def check (limits : Limits) (level : Int) : Outline → Except Fault Unit
  | .leaf => checkLevel limits level
  | .mixed => do
    checkLevel limits level
    .error (.complexity .mixedConnectives)
  | .node c [] => do
    checkLevel limits level
    .error (.complexity (.empty c))
  | .node _ (child :: children) => do
    checkLevel limits level
    if ← exceeds limits.breadth (child :: children).length then
      .error (.complexity (.tooWide (← limits.breadth.display)))
    else checkAll limits (level + 1) (child :: children)

def checkAll (limits : Limits) (level : Int) : List Outline → Except Fault Unit
  | [] => .ok ()
  | o :: rest => do
    check limits level o
    checkAll limits level rest

end

end Limits

end AlertRules
