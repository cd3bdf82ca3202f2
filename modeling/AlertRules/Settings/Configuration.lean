import AlertRules.Settings.Basic

/-!
The configuration that an engine works with: settings, with changes made
to them afterwards.

Changes are not checked, so each field of a configuration is a value, and
whoever uses one finds out whether it is of use. Changes that no field is
there for are kept, for nobody to use. The settings of the
channels come from the environment, all but one: a dry run is one for
every channel.
-/

namespace AlertRules

/-- The settings in effect: checked ones, with unchecked changes. -/
structure Configuration where
  organizationId : Value
  moduleName : Value
  warehouseDsn : Value
  maxRulesPerBatch : Value
  ruleCacheTtl : Value
  inSetThreshold : Value
  maxDepth : Value
  maxConditionsPerLevel : Value
  openAlertStatuses : Value
  entityIdFields : Value
  backgroundWorkers : Value
  dryRun : Value
  debug : Value
  extras : Object := []

namespace Configuration

/-- The configuration that settings are without changes. -/
def ofSettings (s : Settings) : Configuration where
  organizationId := .text s.organizationId
  moduleName := Value.ofText? s.moduleName
  warehouseDsn := Value.ofText? s.warehouseDsn
  maxRulesPerBatch := .int s.maxRulesPerBatch
  ruleCacheTtl := .float s.ruleCacheTtl
  inSetThreshold := .int s.inSetThreshold
  maxDepth := .int s.maxDepth
  maxConditionsPerLevel := .int s.maxConditionsPerLevel
  openAlertStatuses := .list (s.openAlertStatuses.map .text)
  entityIdFields := .list (s.entityIdFields.map .text)
  backgroundWorkers := .int s.backgroundWorkers
  dryRun := .bool s.dryRun
  debug := .bool s.debug

def fieldNames : List String :=
  ["organization_id", "module_name", "warehouse_dsn", "max_rules_per_batch",
   "rule_cache_ttl_seconds", "in_set_threshold", "max_depth", "max_conditions_per_level",
   "open_alert_statuses", "entity_id_fields", "background_workers", "dry_run", "debug"]

def override (c : Configuration) (o : Object) : Configuration where
  organizationId := (o.get? "organization_id").getD c.organizationId
  moduleName := (o.get? "module_name").getD c.moduleName
  warehouseDsn := (o.get? "warehouse_dsn").getD c.warehouseDsn
  maxRulesPerBatch := (o.get? "max_rules_per_batch").getD c.maxRulesPerBatch
  ruleCacheTtl := (o.get? "rule_cache_ttl_seconds").getD c.ruleCacheTtl
  inSetThreshold := (o.get? "in_set_threshold").getD c.inSetThreshold
  maxDepth := (o.get? "max_depth").getD c.maxDepth
  maxConditionsPerLevel := (o.get? "max_conditions_per_level").getD c.maxConditionsPerLevel
  openAlertStatuses := (o.get? "open_alert_statuses").getD c.openAlertStatuses
  entityIdFields := (o.get? "entity_id_fields").getD c.entityIdFields
  backgroundWorkers := (o.get? "background_workers").getD c.backgroundWorkers
  dryRun := (o.get? "dry_run").getD c.dryRun
  debug := (o.get? "debug").getD c.debug
  extras := c.extras.update (Schema.extras fieldNames o)

def toObject (c : Configuration) : Object :=
  [("organization_id", c.organizationId), ("module_name", c.moduleName),
   ("warehouse_dsn", c.warehouseDsn), ("max_rules_per_batch", c.maxRulesPerBatch),
   ("rule_cache_ttl_seconds", c.ruleCacheTtl), ("in_set_threshold", c.inSetThreshold),
   ("max_depth", c.maxDepth), ("max_conditions_per_level", c.maxConditionsPerLevel),
   ("open_alert_statuses", c.openAlertStatuses), ("entity_id_fields", c.entityIdFields),
   ("background_workers", c.backgroundWorkers), ("dry_run", c.dryRun), ("debug", c.debug)] ++ c.extras

/-- The settings of each channel, from the environment. A dry run is one
for all channels. -/
def channelSettings (c : Configuration) (env : Environment) : Except Fault Object := do
  let portNumber ← Environment.parseInt (env.getD "SMTP_PORT" "587")
  let lookup (name : String) : Value := Value.ofText? (env.get? name)
  let slack : Object :=
    [("enabled", .bool (env.flag "SLACK_ENABLED" "false")), ("dry_run", c.dryRun),
     ("webhook_url", lookup "SLACK_WEBHOOK_URL"), ("channel", lookup "SLACK_CHANNEL"),
     ("username", .text (env.getD "SLACK_USERNAME" "Alert Engine")),
     ("icon_emoji", .text (env.getD "SLACK_ICON_EMOJI" ":rotating_light:"))]
  let email : Object :=
    [("enabled", .bool (env.flag "EMAIL_ENABLED" "false")), ("dry_run", c.dryRun),
     ("smtp_host", .text (env.getD "SMTP_HOST" "localhost")), ("smtp_port", .int portNumber),
     ("smtp_user", lookup "SMTP_USER"), ("smtp_password", lookup "SMTP_PASSWORD"),
     ("from_email", .text (env.getD "EMAIL_FROM" "alerts@localhost")),
     ("to_emails",
       .list ((Environment.commaList (env.getD "EMAIL_TO_ADDRESSES" "")).map .text)),
     ("use_tls", .bool (env.flag "SMTP_USE_TLS" "true"))]
  let webhook : Object :=
    [("enabled", .bool (env.flag "WEBHOOK_ENABLED" "true")), ("dry_run", c.dryRun),
     ("url", lookup "WEBHOOK_URL"), ("method", .text (env.getD "WEBHOOK_METHOD" "POST")),
     ("headers", .object [])]
  pure [("slack", .object slack), ("email", .object email), ("webhook", .object webhook)]

end Configuration

end AlertRules
