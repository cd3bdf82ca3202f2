import AlertRules.Alert
import AlertRules.Settings.Environment

/-!
Settings, from fields that are given and from the environment.

A field that is not given takes its default, which the environment may
set. Only given fields are checked against their bounds. A number in the
environment that cannot be read is a fault at once, before any issue of
a given field is reported.
-/

namespace AlertRules

structure Settings where
  organizationId : String
  moduleName : Option String
  warehouseDsn : Option String
  maxRulesPerBatch : Int
  ruleCacheTtl : Double
  inSetThreshold : Int
  maxDepth : Int
  maxConditionsPerLevel : Int
  openAlertStatuses : List String
  entityIdFields : List String
  backgroundWorkers : Int
  dryRun : Bool
  debug : Bool

namespace Settings

/-- A whole number above zero. -/
def positive : Schema.Check Int := fun v =>
  match Schema.int v with
  | .ok i => if 0 < i then .ok i else .flaw .greaterThan
  | .bad issues => .bad issues

/-- A whole number that is not below zero. -/
def notNegative : Schema.Check Int := fun v =>
  match Schema.int v with
  | .ok i => if 0 ≤ i then .ok i else .flaw .greaterThanEqual
  | .bad issues => .bad issues

/-- A duration in seconds, which is not below zero. -/
def duration : Schema.Check Double := fun v =>
  match Schema.double v with
  | .ok x => if Double.zero.le x then .ok x else .flaw .greaterThanEqual
  | .bad issues => .bad issues

/-- A text that is not empty. -/
def nonEmpty? : Option String → Option String
  | some s => if s.isEmpty then none else some s
  | none => none

/-- The settings with given fields, the rest from the environment. -/
def ofFields (env : Environment) (o : Object) : Except Fault Settings := do
  let maxRules ← Schema.givenOr positive "max_rules_per_batch" o
    (Environment.parseInt (env.getD "ALERT_ENGINE_MAX_RULES_PER_BATCH" "100"))
  let ttl ← Schema.givenOr duration "rule_cache_ttl_seconds" o
    (Environment.parseDouble (env.getD "ALERT_ENGINE_RULE_CACHE_TTL" "30"))
  let workers ← Schema.givenOr positive "background_workers" o
    (Environment.parseInt (env.getD "ALERT_ENGINE_BACKGROUND_WORKERS" "4"))
  let checked := Settings.mk <$>
    Schema.optional Schema.text "organization_id" (env.getD "ALERT_ENGINE_ORGANIZATION_ID" "") o <*>
    Schema.optional (Schema.nullable Schema.text) "module_name"
      (nonEmpty? (env.get? "ALERT_ENGINE_MODULE")) o <*>
    Schema.optional (Schema.nullable Schema.text) "warehouse_dsn" (env.get? "WAREHOUSE_DSN") o <*>
    maxRules <*>
    ttl <*>
    Schema.optional positive "in_set_threshold" 100 o <*>
    Schema.optional notNegative "max_depth" 3 o <*>
    Schema.optional positive "max_conditions_per_level" 10 o <*>
    Schema.optional (Schema.listOf Schema.text) "open_alert_statuses" AlertStatus.openNames o <*>
    Schema.optional (Schema.listOf Schema.text) "entity_id_fields" ["id", "gateway_name"] o <*>
    workers <*>
    Schema.optional Schema.bool "dry_run" (env.flag "ALERT_ENGINE_DRY_RUN" "false") o <*>
    Schema.optional Schema.bool "debug" (env.flag "ALERT_ENGINE_DEBUG" "false") o
  checked.toExcept.mapError .ofIssues

end Settings

end AlertRules
