import AlertRules.Alert
import AlertRules.Evaluation.Result

/-!
Records as documents.

The document of a record has a field for each of the record's, under the
name that the record's check reads it by, and after them the fields that
no schema knows. Moments are written in the calendar's standard text,
and what a record does not have is null.
-/

namespace AlertRules

namespace Value

def ofObject? : Option Object → Value
  | some o => .object o
  | none => .null

def ofTexts (names : List String) : Value := .list (names.map .text)

def ofMoment? : Option Moment → Value
  | some m => .text m.isoText
  | none => .null

end Value

def RuleActions.toObject (a : RuleActions) : Object :=
  [("message", .ofText? a.message), ("title", .ofText? a.title), ("notify", .ofTexts a.notify),
   ("webhook_url", .ofText? a.webhookUrl),
   ("recipients", match a.recipients with
     | some names => .ofTexts names
     | none => .null),
   ("custom_data", .ofObject? a.customData)] ++ a.extras

def Rule.toObject (x : Rule) : Object :=
  [("id", .text x.id), ("organization_id", .text x.organizationId),
   ("module_name", .ofText? x.moduleName), ("rule_name", .text x.name), ("rule_type", .text x.kind),
   ("conditions", .object x.conditions), ("actions", .object x.actions.toObject),
   ("severity", .text x.severity.name), ("enabled", .bool x.enabled), ("priority", .int x.priority),
   ("metadata", .object x.metadata), ("trigger_count", .int x.triggerCount),
   ("created_at", .ofMoment? x.createdAt), ("updated_at", .ofMoment? x.updatedAt)]

def EvaluationContext.toObject (c : EvaluationContext) : Object :=
  [("organization_id", c.organizationId), ("module_name", c.moduleName), ("data", .object c.data),
   ("timestamp", .text c.timestamp.isoText), ("user_id", .ofText? c.userId),
   ("metadata", .ofObject? c.metadata), ("entity_id", .ofText? c.entityId)] ++ c.extras

def EvaluationResult.toObject (x : EvaluationResult) : Object :=
  [("rule_id", .text x.ruleId), ("rule_name", .ofText? x.ruleName), ("triggered", .bool x.triggered),
   ("severity", .text x.severity.name), ("matched_condition", .ofObject? x.matchedCondition),
   ("alert_title", .ofText? x.alertTitle), ("message", .ofText? x.message),
   ("actions", .ofObject? (x.actions.map (·.toObject))),
   ("metadata", .object x.metadata), ("evaluated_at", .text x.evaluatedAt.isoText),
   ("context", .ofObject? (x.context.map (·.toObject)))]

def Alert.toObject (a : Alert) : Object :=
  [("organization_id", .text a.organizationId), ("rule_id", .text a.ruleId),
   ("title", .text a.title), ("description", .text a.description),
   ("severity", .text a.severity.name), ("status", .text a.status.name), ("type", .text a.kind),
   ("context", .text a.context), ("module_name", .ofText? a.moduleName),
   ("metadata", .object a.metadata), ("fingerprint", .text a.fingerprint),
   ("created_at", .text a.createdAt.isoText), ("updated_at", .text a.updatedAt.isoText)]

def Notification.toObject (n : Notification) : Object :=
  [("alert_id", .ofText? n.alertId), ("rule_id", .text n.ruleId),
   ("organization_id", .text n.organizationId), ("module_name", .ofText? n.moduleName),
   ("title", .text n.title), ("message", .text n.message), ("severity", .text n.severity.name),
   ("fingerprint", .text n.fingerprint), ("recipients", .ofTexts n.recipients),
   ("webhook_url", .ofText? n.webhookUrl), ("link", .ofText? n.link),
   ("metadata", .object n.metadata), ("triggered_at", .text n.triggeredAt.isoText)]

end AlertRules
