import AlertRules.Rule

/-!
Alerts, and the notifications that announce them.

An alert is the row that is written to the store. Alerts in one of the
open states keep another alert with the same fingerprint from being
created.
-/

namespace AlertRules

inductive AlertStatus where
  | new
  | active
  | acknowledged
  | resolved
  | dismissed
  deriving DecidableEq, Repr

namespace AlertStatus

def name : AlertStatus → String
  | .new => "new"
  | .active => "active"
  | .acknowledged => "acknowledged"
  | .resolved => "resolved"
  | .dismissed => "dismissed"

def ofName? (s : String) : Option AlertStatus :=
  [AlertStatus.new, .active, .acknowledged, .resolved, .dismissed].find? (·.name == s)

def openNames : List String := ["active", "acknowledged", "new"]

end AlertStatus

structure Alert where
  organizationId : String
  ruleId : String
  title : String
  description : String
  severity : Severity
  status : AlertStatus
  kind : String
  context : String
  moduleName : Option String
  metadata : Object
  fingerprint : String
  createdAt : Moment
  updatedAt : Moment

namespace Alert

def titleLimit : Nat := 255

def ofFields (now : Moment) (o : Object) : Schema.Checked Alert :=
  Alert.mk <$>
    Schema.required Schema.text "organization_id" o <*>
    Schema.required Schema.text "rule_id" o <*>
    Schema.required (Schema.boundedText titleLimit) "title" o <*>
    Schema.required Schema.text "description" o <*>
    Schema.required (Schema.oneOf Severity.ofName?) "severity" o <*>
    Schema.optional (Schema.oneOf AlertStatus.ofName?) "status" .active o <*>
    Schema.optional Schema.text "type" "rule_alert" o <*>
    Schema.optional Schema.text "context" "global" o <*>
    Schema.optional (Schema.nullable Schema.text) "module_name" none o <*>
    Schema.optional Schema.object "metadata" [] o <*>
    Schema.required Schema.text "fingerprint" o <*>
    Schema.optional Schema.moment "created_at" now o <*>
    Schema.optional Schema.moment "updated_at" now o

def check (now : Moment) : Schema.Check Alert := Schema.model (ofFields now)

end Alert

structure Notification where
  alertId : Option String
  ruleId : String
  organizationId : String
  moduleName : Option String
  title : String
  message : String
  severity : Severity
  fingerprint : String
  recipients : List String
  webhookUrl : Option String
  link : Option String
  metadata : Object
  triggeredAt : Moment

namespace Notification

def ofFields (now : Moment) (o : Object) : Schema.Checked Notification :=
  Notification.mk <$>
    Schema.optional (Schema.nullable Schema.text) "alert_id" none o <*>
    Schema.required Schema.text "rule_id" o <*>
    Schema.required Schema.text "organization_id" o <*>
    Schema.optional (Schema.nullable Schema.text) "module_name" none o <*>
    Schema.required Schema.text "title" o <*>
    Schema.required Schema.text "message" o <*>
    Schema.required (Schema.oneOf Severity.ofName?) "severity" o <*>
    Schema.required Schema.text "fingerprint" o <*>
    Schema.optional (Schema.listOf Schema.text) "recipients" [] o <*>
    Schema.optional (Schema.nullable Schema.text) "webhook_url" none o <*>
    Schema.optional (Schema.nullable Schema.text) "link" none o <*>
    Schema.optional Schema.object "metadata" [] o <*>
    Schema.optional Schema.moment "triggered_at" now o

def check (now : Moment) : Schema.Check Notification := Schema.model (ofFields now)

end Notification

end AlertRules
