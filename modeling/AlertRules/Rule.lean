import AlertRules.Condition.Parser

/-!
Rules, as they are loaded from storage.

A rule belongs to an organization, says under which condition it
triggers and what is to be done then. Its conditions are kept as the
document they were stored as: whether they can be read is a question of
their evaluation, so that one bad rule does not hide the others.

Actions may carry fields that no schema knows; they are kept.
-/

namespace AlertRules

inductive Severity where
  | info
  | warning
  | error
  | critical
  deriving DecidableEq, Repr

namespace Severity

def name : Severity → String
  | .info => "info"
  | .warning => "warning"
  | .error => "error"
  | .critical => "critical"

def heading : Severity → String
  | .info => "INFO"
  | .warning => "WARNING"
  | .error => "ERROR"
  | .critical => "CRITICAL"

def ofName? (s : String) : Option Severity :=
  [Severity.info, .warning, .error, .critical].find? (·.name == s)

end Severity

structure RuleActions where
  message : Option String := none
  title : Option String := none
  notify : List String := []
  webhookUrl : Option String := none
  recipients : Option (List String) := none
  customData : Option Object := none
  extras : Object := []

namespace RuleActions

def fieldNames : List String :=
  ["message", "title", "notify", "webhook_url", "recipients", "custom_data"]

/-- Channel names: none if null, one if a text, a list otherwise. -/
def checkNotify : Schema.Check (List String)
  | .null => .ok []
  | .text s => .ok [s]
  | v => Schema.listOf Schema.text v

def ofFields (o : Object) : Schema.Checked RuleActions :=
  Schema.legibleNames o <| (fun message title notify webhookUrl recipients customData =>
      { message, title, notify, webhookUrl, recipients, customData
        extras := Schema.extras fieldNames o }) <$>
    Schema.optional (Schema.nullable Schema.text) "message" none o <*>
    Schema.optional (Schema.nullable Schema.text) "title" none o <*>
    Schema.optional checkNotify "notify" [] o <*>
    Schema.optional (Schema.nullable Schema.text) "webhook_url" none o <*>
    Schema.optional (Schema.nullable (Schema.listOf Schema.text)) "recipients" none o <*>
    Schema.optional (Schema.nullable Schema.object) "custom_data" none o

def check : Schema.Check RuleActions := Schema.model ofFields

/-- The link that the custom data of actions holds, of whatever kind. -/
def link (a : RuleActions) : Value := Object.getOrNull (a.customData.getD []) "link"

end RuleActions

structure Rule where
  id : String
  organizationId : String
  moduleName : Option String
  name : String
  kind : String
  conditions : Object
  actions : RuleActions
  severity : Severity
  enabled : Bool
  priority : Int
  metadata : Object
  triggerCount : Int
  createdAt : Option Moment
  updatedAt : Option Moment

namespace Rule

/-- Whether a rule is enabled, which has two names. -/
def checkEnabled (o : Object) : Schema.Checked Bool :=
  if o.contains "enabled" then Schema.required Schema.bool "enabled" o
  else Schema.optional Schema.bool "is_active" true o

def ofFields (o : Object) : Schema.Checked Rule :=
  Rule.mk <$>
    Schema.required Schema.identifier "id" o <*>
    Schema.required Schema.identifier "organization_id" o <*>
    Schema.optional (Schema.nullable Schema.text) "module_name" none o <*>
    Schema.required Schema.text "rule_name" o <*>
    Schema.optional Schema.text "rule_type" "threshold" o <*>
    Schema.required (Schema.fromJson Schema.object) "conditions" o <*>
    Schema.optional (Schema.nullAsEmpty (Schema.fromJson RuleActions.check)) "actions" {} o <*>
    Schema.optional (Schema.oneOf Severity.ofName?) "severity" .warning o <*>
    checkEnabled o <*>
    Schema.optional Schema.int "priority" 0 o <*>
    Schema.optional (Schema.nullAsEmpty Schema.object) "metadata" [] o <*>
    Schema.optional Schema.int "trigger_count" 0 o <*>
    Schema.optional (Schema.nullable Schema.moment) "created_at" none o <*>
    Schema.optional (Schema.nullable Schema.moment) "updated_at" none o

def check : Schema.Check Rule := Schema.model ofFields

/-- Checks the fields of a rule whose conditions are given apart. A condition
that was read before is kept as its document. -/
def ofFieldsWith (conditions : ConditionInput) (o : Object) : Schema.Checked Rule :=
  ofFields (o.insert "conditions" conditions.toValue)

end Rule

end AlertRules
