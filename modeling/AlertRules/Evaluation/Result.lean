import AlertRules.Evaluation.Context

/-!
The result of evaluating one rule against one payload.

`entityId` says what a result is about: the entity that its metadata
names, or else the one its context names. `fingerprint` identifies the
occurrence, so that a second result about it raises no second alert. The
entity of the metadata can be any value, and one that has no text is a
fault of both.
-/

namespace AlertRules

structure EvaluationResult where
  ruleId : String
  ruleName : Option String
  triggered : Bool
  severity : Severity
  matchedCondition : Option Object
  alertTitle : Option String
  message : Option String
  actions : Option RuleActions
  metadata : Object
  evaluatedAt : Moment
  context : Option EvaluationContext

namespace EvaluationResult

def ofFields (now : Moment) (o : Object) : Schema.Checked EvaluationResult :=
  EvaluationResult.mk <$>
    Schema.required Schema.text "rule_id" o <*>
    Schema.optional (Schema.nullable Schema.text) "rule_name" none o <*>
    Schema.required Schema.bool "triggered" o <*>
    Schema.required (Schema.oneOf Severity.ofName?) "severity" o <*>
    Schema.optional (Schema.nullable Schema.object) "matched_condition" none o <*>
    Schema.optional (Schema.nullable Schema.text) "alert_title" none o <*>
    Schema.optional (Schema.nullable Schema.text) "message" none o <*>
    Schema.optional (Schema.nullable RuleActions.check) "actions" none o <*>
    Schema.optional Schema.object "metadata" [] o <*>
    Schema.optional Schema.moment "evaluated_at" now o <*>
    Schema.optional (Schema.nullable (EvaluationContext.check now)) "context" none o

def check (now : Moment) : Schema.Check EvaluationResult := Schema.model (ofFields now)

/-- The text of an entity id, unless it is null or empty. -/
def entityText? : Value → Except Fault (Option String)
  | .null => .ok none
  | .text s => .ok (if s.isEmpty then none else some s)
  | v => some <$> v.display

/-- The entity that metadata names, or else the one a context names. -/
def entityOf (metadata : Object) (context : Option EvaluationContext) :
    Except Fault (Option String) := do
  match ← entityText? (metadata.getOrNull "entity_id") with
  | some s => pure (some s)
  | none => entityText? (Value.ofText? (context.bind (·.entityId)))

def entityId (r : EvaluationResult) : Except Fault (Option String) := entityOf r.metadata r.context

end EvaluationResult

/-- The identity of an occurrence: the rule, and the entity if there is
one. -/
def fingerprintOf (ruleId : String) (entityId : Option String) : String :=
  match entityId with
  | some s => if s.isEmpty then ruleId else ruleId ++ ":" ++ s
  | none => ruleId

def EvaluationResult.fingerprint (r : EvaluationResult) : Except Fault String :=
  fingerprintOf r.ruleId <$> r.entityId

end AlertRules
