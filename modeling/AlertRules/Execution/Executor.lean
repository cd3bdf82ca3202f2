import AlertRules.Channel.Outlet
import AlertRules.Execution.Desk
import AlertRules.Execution.Submission
import AlertRules.Markup.Escape
import AlertRules.Settings.Configuration
import AlertRules.Store.Basic

/-!
Executing the actions of triggered results.

For each result the executor looks for an open alert with the same
fingerprint, builds the alert, creates it in the store, and announces it
on the channels that the rule names. Each of these is a step of its own,
so that the steps of several executors on one store can be interleaved.

A store that fails does not keep an alert from being announced: a failed
look-up counts as "not found" and a failed creation as an alert without
an id. What ends the work on a result early is a duplicate, which is
either found or reported by the store. Any other fault ends it too, is
logged, and does not touch the other results. A rule id that has no text
cannot be logged, however, and what fails while a failure is logged is a
fault of the whole.
-/

namespace AlertRules

/-- What an executor works with. With `usesPool` notifications are handed
to the pool of the desk, otherwise they are sent at once. -/
structure Executor (ω : Type) where
  configuration : Configuration
  store : Option (AlertStore ω)
  outlets : List (Outlet ω)
  usesPool : Bool

/-- What became of an alert in the store. -/
inductive Persistence where
  | duplicate
  | unsaved
  | saved (id : String)
  deriving DecidableEq, Repr

namespace Executor

variable {ω : Type}

/-- The organization of a submission: that of its context, or else the
configured one. -/
def organizationOf (e : Executor ω) (context : Option EvaluationContext) : Value :=
  match context with
  | some c => c.organizationId.orElse e.configuration.organizationId
  | none => e.configuration.organizationId

/-- The module of a submission: that of its context, or else the configured
one. -/
def moduleOf (e : Executor ω) (context : Option EvaluationContext) : Value :=
  match context with
  | some c => c.moduleName.orElse e.configuration.moduleName
  | none => e.configuration.moduleName

/-- The id of an open alert with a fingerprint, if the store knows one. -/
def findOpen (e : Executor ω) (organizationId fingerprint : Value) :
    Action (Desk ω) (Option String) :=
  match e.store with
  | none => pure none
  | some store => do
    let found ← (Desk.outside
      (store.findOpen organizationId fingerprint e.configuration.openAlertStatuses)).attempt
    match found with
    | .ok id => pure id
    | .error fault => do
      Action.warn ("Open alert check failed for fingerprint " ++
        (← Action.ofExcept fingerprint.display) ++ ": " ++ fault.message)
      pure none

def cutTitle (title : Value) : Except Fault Value :=
  let cutParts (length : Nat) : Except Fault Value :=
    if length ≤ Alert.titleLimit then .ok title else .error .unsupported
  match title with
  | .text s => .ok (.text (Markup.truncate Alert.titleLimit s))
  | .list items | .tuple items => cutParts items.length
  | .object fields => cutParts fields.length
  | _ => .error .unsupported

def field {α : Type} (name : String) (c : Schema.Check α) (v : Value) : Schema.Checked α :=
  (c v).under (.name name)

def buildAlert (e : Executor ω) (clock : Clock) (s : Submission)
    (organizationId fingerprint : Value) : Except Fault Alert := do
  let message := s.message.orElse (.text "")
  let context ← s.context?
  let moduleName := e.moduleOf context
  let title ← cutTitle (s.alertTitle.orElse message)
  let metadata ← s.metadata?
  let now ← clock.now
  let checked :=
    (fun organizationId ruleId title description severity context moduleName fingerprint =>
        { organizationId, ruleId, title, description, severity, status := .active
          kind := "rule_alert", context, moduleName, metadata, fingerprint
          createdAt := now, updatedAt := now : Alert }) <$>
      field "organization_id" Schema.text organizationId <*>
      field "rule_id" Schema.text s.ruleId <*>
      field "title" (Schema.boundedText Alert.titleLimit) title <*>
      field "description" Schema.text message <*>
      field "severity" (Schema.oneOf Severity.ofName?) s.severity <*>
      field "context" Schema.text (moduleName.orElse (.text "global")) <*>
      field "module_name" (Schema.nullable Schema.text) moduleName <*>
      field "fingerprint" Schema.text fingerprint
  checked.toExcept.mapError .ofIssues

def persist (e : Executor ω) (ruleId fingerprint : Value) (a : Alert) :
    Action (Desk ω) Persistence :=
  match e.store with
  | none => pure .unsaved
  | some store => do
    match ← (Desk.outside (store.create a)).attempt with
    | .error fault => do
      Action.error ("Failed to persist alert for rule " ++ (← Action.ofExcept ruleId.display) ++
        ": " ++ fault.message)
      pure .unsaved
    | .ok none => do
      Action.info ("Alert for fingerprint " ++ (← Action.ofExcept fingerprint.display) ++
        " already exists, not notifying")
      pure .duplicate
    | .ok (some id) => do
      Action.info ("Alert " ++ id ++ " created for rule " ++ (← Action.ofExcept ruleId.display))
      pure (.saved id)

def buildNotification (clock : Clock) (actions : RuleActions) (a : Alert)
    (alertId : Option String) : Except Fault Notification := do
  let triggeredAt ← clock.now
  let link ← (field "link" (Schema.nullable Schema.text) actions.link).toExcept.mapError .ofIssues
  pure {
    alertId, ruleId := a.ruleId, organizationId := a.organizationId, moduleName := a.moduleName
    title := a.title, message := a.description, severity := a.severity
    fingerprint := a.fingerprint, recipients := actions.recipients.getD []
    webhookUrl := actions.webhookUrl, link, metadata := a.metadata, triggeredAt }

/-- Sends a notification on a channel; whatever goes wrong is logged. -/
def deliver (outlet : Outlet ω) (clock : Clock) (n : Notification) : Action (Desk ω) Unit := do
  match ← (Desk.outside (outlet.send clock n)).attempt with
  | .ok d =>
    if !d.success then
      Action.warn (outlet.name ++ " notification failed for rule " ++ n.ruleId ++ ": " ++
        d.error.getD "None")
  | .error fault =>
    Action.error ("Error sending " ++ outlet.name ++ " notification: " ++ fault.message)

def outlet? (e : Executor ω) (name : String) : Option (Outlet ω) :=
  e.outlets.find? (·.name == name)

def hasWebhookUrl (actions : RuleActions) : Bool := (actions.webhookUrl.getD "") != ""

def announceOn (e : Executor ω) (clock : Clock) (ruleId : Value) (actions : RuleActions)
    (n : Notification) (name : String) : Action (Desk ω) Unit :=
  if name == "webhook" && !hasWebhookUrl actions then do
    Action.debug ("Rule " ++ (← Action.ofExcept ruleId.display) ++
      " requests webhook without webhook_url")
  else
    match e.outlet? name with
    | none => do
      Action.warn ("Notification channel '" ++ name ++ "' is not configured (rule " ++
        (← Action.ofExcept ruleId.display) ++ ")")
    | some outlet =>
      if e.usesPool then do
        if !(← Desk.submit (.deliver name n)) then
          Action.debug ("Background executor shut down; sending " ++ outlet.name ++ " inline")
          deliver outlet clock n
      else deliver outlet clock n

def announceAll (e : Executor ω) (clock : Clock) (ruleId : Value) (actions : RuleActions)
    (n : Notification) : List String → Action (Desk ω) Unit
  | [] => pure ()
  | name :: rest => do
    e.announceOn clock ruleId actions n name
    e.announceAll clock ruleId actions n rest

/-- Announces an alert on the channels that the actions name, on each
once. -/
def announce (e : Executor ω) (clock : Clock) (s : Submission) (a : Alert)
    (alertId : Option String) : Action (Desk ω) Unit :=
  match s.actions with
  | .held actions => do
    let n ← Action.ofExcept (buildNotification clock actions a alertId)
    e.announceAll clock s.ruleId actions n actions.notify.eraseDups
  | _ => throw .unsupported

/-- Executes the actions of one submission; the result is the id of the
alert it created. -/
def executeOne (e : Executor ω) (clock : Clock) (s : Submission) :
    Action (Desk ω) (Option String) := do
  let organizationId := e.organizationOf (← Action.ofExcept s.context?)
  let fingerprint ← Action.ofExcept s.fingerprint
  let existing ← e.findOpen organizationId fingerprint
  if (existing.getD "") != "" then
    Action.info ("Skipping duplicate alert for fingerprint " ++
      (← Action.ofExcept fingerprint.display) ++ " (open alert " ++ existing.getD "" ++ ")")
    pure none
  else
    let a ← Action.ofExcept (e.buildAlert clock s organizationId fingerprint)
    match ← e.persist s.ruleId fingerprint a with
    | .duplicate => pure none
    | .unsaved =>
      e.announce clock s a none
      pure none
    | .saved id =>
      e.announce clock s a (some id)
      pure (some id)

/-- Executes the actions of submissions that triggered; the result is the
ids of the alerts created. -/
def execute (e : Executor ω) (clock : Clock) : List Submission → Action (Desk ω) (List String)
  | [] => pure []
  | s :: rest =>
    if !s.triggered.truthy || s.actions.isAbsent then e.execute clock rest
    else do
      match ← (e.executeOne clock s).attempt with
      | .ok id =>
        let created := if (id.getD "") != "" then id.toList else []
        pure (created ++ (← e.execute clock rest))
      | .error fault =>
        Action.error ("Failed to execute actions for rule " ++
          (← Action.ofExcept s.ruleId.display) ++ ": " ++ fault.message)
        e.execute clock rest

def runJob (e : Executor ω) (clock : Clock) : Job → Action (Desk ω) Unit
  | .deliver name n =>
    match e.outlet? name with
    | some outlet => deliver outlet clock n
    | none => pure ()
  | .increment _ => pure ()

end Executor

end AlertRules
