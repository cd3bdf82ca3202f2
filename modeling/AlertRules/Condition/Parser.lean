import AlertRules.Condition.Basic

/-!
Reading conditions from documents.

An object with a field for a connective is a node, and that field must
be all it has: a list, not empty, of conditions. Any other object is a
leaf. The first fault found is reported, from the root down and from the
first child to the last. A condition that was read before is not read
again.
-/

namespace AlertRules.Condition

/-- Reads a leaf; the first issue is its fault. -/
def parseLeaf (fields : Object) : Except ConditionError Condition :=
  match Leaf.ofFields fields with
  | .ok l => .ok (.leaf l)
  | .bad (issue :: _) => .error (.leaf issue.path issue.flaw)
  | .bad [] => .error (.leaf [] .modelType)

def isFilledList : Value → Bool
  | .list (_ :: _) => true
  | _ => false

def keysBeside (c : Connective) (fields : Object) : List String :=
  Text.sortOn id (fields.keys.filter (· != c.key))

mutual

def parse : Value → Except ConditionError Condition
  | .object fields =>
    match Connective.among fields with
    | [] => parseLeaf fields
    | [c] =>
      if !isFilledList (Object.getOrNull fields c.key) then .error (.empty c)
      else if 1 < fields.length then .error (.extraKeys c (keysBeside c fields))
      else c.node <$> parseUnder c.key fields
    | _ => .error .mixedConnectives
  | v => .error (.notAnObject v.kindName)

def parseUnder (key : String) : List (String × Value) → Except ConditionError (List Condition)
  | [] => .ok []
  | (k, v) :: rest =>
    if k == key then
      match v with
      | .list items => parseList items
      | _ => .ok []
    else parseUnder key rest

def parseList : List Value → Except ConditionError (List Condition)
  | [] => .ok []
  | v :: rest => do
    let c ← parse v
    let cs ← parseList rest
    pure (c :: cs)

end

end AlertRules.Condition

/-- Reads a condition, unless it was read before. -/
def AlertRules.ConditionInput.parse : ConditionInput → Except ConditionError Condition
  | .document v => Condition.parse v
  | .condition c => .ok c
