import AlertRules.Channel.Basic
import AlertRules.Text.Upper
import AlertRules.Value.Table

/-!
Notifications to any web address.

The address is the one that the rule gives, or else the one that is
configured. The notification is sent as it is, as a document.
-/

namespace AlertRules

structure Webhook where
  basics : Channel.Basics
  url : Value
  method : String
  headers : Value

namespace Webhook

def name : String := "webhook"

/-- The channel with given settings. The method has to be a text. -/
def ofSettings (settings : Object) : Except Fault Webhook :=
  match Channel.setting settings "method" (.text "POST") with
  | .text method =>
    .ok {
      basics := .ofSettings settings
      url := settings.getOrNull "url"
      method := Text.upper method
      headers := Channel.setting settings "headers" (.object []) }
  | _ => .error .unsupported

def resolveUrl (c : Webhook) (n : Notification) : Value :=
  (Value.ofText? n.webhookUrl).orElse c.url

def format (n : Notification) : Object :=
  [("alert_type", .text "rule_alert"), ("alert_id", Value.ofText? n.alertId),
    ("rule_id", .text n.ruleId), ("organization_id", .text n.organizationId),
    ("module_name", Value.ofText? n.moduleName), ("title", .text n.title),
    ("message", .text n.message), ("severity", .text n.severity.name),
    ("fingerprint", .text n.fingerprint), ("link", Value.ofText? n.link),
    ("metadata", .object n.metadata), ("triggered_at", .text n.triggeredAt.isoText)]

def post (c : Webhook) (url : Value) (n : Notification) : Action Wire Int := do
  let payload : Value := .object (format n)
  let kind : Table := .ofObject [("Content-Type", .text "application/json")]
  let headers := kind.update (← Action.ofExcept (Table.ofValue c.headers))
  if c.method == "POST" || c.method == "PUT" then
    Wire.request { method := c.method, url, payload, headers, timeout := c.basics.timeout }
  else throw (.unsupportedMethod c.method)

def send (c : Webhook) (clock : Clock) (n : Notification) : Action Wire Dispatch := do
  let url := c.resolveUrl n
  if c.basics.dryRun.truthy then
    Action.info ("[DRY RUN] Would send webhook to " ++ (← Action.ofExcept url.display) ++ ": " ++
      n.title)
    return ← Channel.sent name clock n .dryRun
  if !c.basics.enabled.truthy then
    return ← Channel.refused name clock n "Webhook channel disabled"
  if !url.truthy then
    Action.error "Webhook URL not configured"
    return ← Channel.refused name clock n "Webhook URL not configured"
  match ← (c.post url n).attempt with
  | .ok status =>
    Action.info ("Sent webhook for alert: " ++ n.title)
    Channel.sent name clock n (.status status)
  | .error fault =>
    Channel.reportRequest name clock n "Failed to send webhook"
      "Unexpected error sending webhook" fault

end Webhook

end AlertRules
