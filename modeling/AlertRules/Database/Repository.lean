import AlertRules.Database.Connection
import AlertRules.Store.Basic
import AlertRules.Value.Table

/-!
Rules and alerts in the database.

Rules are read in order of priority; a row that is no rule is skipped
and logged, so that one bad row does not hide the others. A failure of
the database is a fault, so that an outage can be told from an empty set
of rules. Only counting triggers is best effort.

An alert is inserted unless that would conflict with an open one of the
same organization and fingerprint, for which the table has an index; a
conflict yields no row and thus no id.
-/

namespace AlertRules

namespace Repository

def selectRules : String :=
  "SELECT id, organization_id, module_name, rule_name, rule_type, conditions, actions, " ++
    "severity, is_active, priority, metadata, trigger_count, created_at, updated_at " ++
    "FROM universal_alert_rules WHERE organization_id = %s AND is_active = true"

/-- Restricts rules to those of a module and those of none. -/
def moduleClause : String := " AND (module_name = %s OR module_name IS NULL)"

def limitClause : String := " ORDER BY priority ASC LIMIT %s"

def callIncrement : String := "SELECT increment_rule_trigger_count(%s)"

def selectOpenAlert : String :=
  "SELECT id FROM alerts WHERE organization_id = %s AND fingerprint = %s " ++
    "AND status = ANY(%s) LIMIT 1"

def insertAlert : String :=
  "INSERT INTO alerts ( organization_id, rule_id, title, description, severity, status, type, " ++
    "context, module_name, metadata, fingerprint, created_at, updated_at ) VALUES ( %s, %s, " ++
    "%s, %s, %s, %s, %s, %s, %s, %s, %s, %s, %s ) ON CONFLICT DO NOTHING RETURNING id"

/-- The name of a row that cannot be read, for the log. -/
def rowLabel : Value → Except Fault String
  | .object fields => (Object.getOrNull fields "id").display
  | _ => .error .unsupported

/-- Whether a row that could not be read because of a fault is skipped: it
was read as far as that goes, and is no rule. -/
def skips : Fault → Bool
  | .rejected _ | .pairLength .. => true
  | _ => false

/-- The rules that rows hold; rows that are no rules are skipped. -/
def readRows : List Value → Action Database (List Rule)
  | [] => pure []
  | row :: rest => do
    let read : Except Fault Rule := do
      let table ← Table.ofValue row
      (Rule.ofFields table.fields).toExcept.mapError .ofIssues
    match read with
    | .ok rule => pure (rule :: (← readRows rest))
    | .error fault =>
      if skips fault then
        let label ← Action.ofExcept (rowLabel row)
        Action.warn ("Skipping malformed rule " ++ label ++ ": " ++ fault.message)
        readRows rest
      else throw fault

/-- The rules of an organization that apply to a module, in order of
priority. -/
def fetchActiveRules (dsn organizationId moduleName limit : Value) :
    Action Database (List Rule) := do
  let byModule := moduleName.truthy
  let statement := selectRules ++ (if byModule then moduleClause else "") ++ limitClause
  let parameters := organizationId :: (if byModule then [moduleName] else []) ++ [limit]
  let rows ← Database.withConnection dsn fun r => do
    Database.execute r statement parameters
    Database.fetchAll r
  readRows rows

/-- Counts a trigger of a rule; the result says whether that succeeded. -/
def incrementTriggerCount (dsn ruleId : Value) : Action Database Bool := do
  let outcome ← (Database.withConnection dsn fun r => do
    Database.execute r callIncrement [ruleId]
    Database.commit r).attempt
  match outcome with
  | .ok () => pure true
  | .error fault =>
    if Database.isFault fault then do
      Action.warn ("Failed to increment trigger count for rule " ++
        (← Action.ofExcept ruleId.display) ++ ": " ++ fault.message)
      pure false
    else throw fault

/-- The id that a row holds, if there is a row. -/
def idOfRow (row : Value) : Except Fault (Option String) :=
  if row.truthy then
    match row with
    | .object fields =>
      match Object.get? fields "id" with
      | some id => some <$> id.display
      | none => .error .unsupported
    | _ => .error .unsupported
  else .ok none

/-- The id of an alert of an organization with a fingerprint and one of
some states. -/
def findOpenAlert (dsn organizationId fingerprint statuses : Value) :
    Action Database (Option String) :=
  Database.withConnection dsn fun r =>
    match statuses.parts? with
    | none => throw .unsupported
    | some names => do
      Database.execute r selectOpenAlert [organizationId, fingerprint, .list names]
      Action.ofExcept (idOfRow (← Database.fetchOne r))

def columns (a : Alert) : Except Fault (List Value) := do
  let metadata ← Json.spaced (.object a.metadata)
  pure [.text a.organizationId, .text a.ruleId, .text a.title, .text a.description,
    .text a.severity.name, .text a.status.name, .text a.kind, .text a.context,
    Value.ofText? a.moduleName, .text metadata, .text a.fingerprint,
    .text a.createdAt.isoText, .text a.updatedAt.isoText]

/-- The id of a new alert, none if it conflicts with an open one. -/
def createAlert (dsn : Value) (a : Alert) : Action Database (Option String) :=
  Database.withConnection dsn fun r => do
    let inserted : Action Database (Option String) := do
      Database.execute r insertAlert (← Action.ofExcept (columns a))
      let row ← Database.fetchOne r
      Database.commit r
      Action.ofExcept (idOfRow row)
    match ← inserted.attempt with
    | .ok id => pure id
    | .error fault =>
      if Database.isFault fault then Database.note .rollback
      throw fault

def alertStore (dsn : Value) : AlertStore Database where
  findOpen := findOpenAlert dsn
  create := createAlert dsn

end Repository

end AlertRules
