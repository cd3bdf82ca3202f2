import AlertRules.Evaluation.Result

/-!
Submissions: results as they are handed to the executor.

A result is checked when it is made, but its fields can be changed
afterwards, and changes are not checked. A submission therefore holds
values, and what the executor needs of it may turn out not to be there.
-/

namespace AlertRules

/-- A part of a submission: not there, of its proper kind, or something
else. -/
inductive Part (α : Type) where
  | absent
  | held (a : α)
  | foreign

namespace Part

variable {α : Type}

def ofOption : Option α → Part α
  | some a => .held a
  | none => .absent

/-- What stands in place of a part after a change to a value. -/
def ofChange : Value → Part α
  | .null => .absent
  | _ => .foreign

def isAbsent : Part α → Bool
  | .absent => true
  | _ => false

end Part

structure Submission where
  ruleId : Value
  triggered : Value
  severity : Value
  alertTitle : Value
  message : Value
  metadata : Value
  actions : Part RuleActions
  context : Part EvaluationContext

namespace Submission

def ofResult (r : EvaluationResult) : Submission where
  ruleId := .text r.ruleId
  triggered := .bool r.triggered
  severity := .text r.severity.name
  alertTitle := Value.ofText? r.alertTitle
  message := Value.ofText? r.message
  metadata := .object r.metadata
  actions := .ofOption r.actions
  context := .ofOption r.context

def change (s : Submission) (o : Object) : Submission where
  ruleId := (o.get? "rule_id").getD s.ruleId
  triggered := (o.get? "triggered").getD s.triggered
  severity := (o.get? "severity").getD s.severity
  alertTitle := (o.get? "alert_title").getD s.alertTitle
  message := (o.get? "message").getD s.message
  metadata := (o.get? "metadata").getD s.metadata
  actions := ((o.get? "actions").map Part.ofChange).getD s.actions
  context := ((o.get? "context").map Part.ofChange).getD s.context

/-- The context, if the submission has one. -/
def context? (s : Submission) : Except Fault (Option EvaluationContext) :=
  match s.context with
  | .absent => .ok none
  | .held c => .ok (some c)
  | .foreign => .error .unsupported

def metadata? (s : Submission) : Except Fault Object :=
  match s.metadata with
  | .object fields => .ok fields
  | _ => .error .unsupported

/-- The identity of the occurrence: the rule, and the entity if there is
one. -/
def fingerprint (s : Submission) : Except Fault Value := do
  let metadata ← s.metadata?
  let context ← s.context?
  match ← EvaluationResult.entityOf metadata context with
  | some entity =>
    if entity.isEmpty then pure s.ruleId
    else pure (.text (fingerprintOf (← s.ruleId.display) (some entity)))
  | none => pure s.ruleId

end Submission

end AlertRules
