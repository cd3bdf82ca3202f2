import AlertRules.Engine.State

/-!
Evaluating one rule.

A rule triggers if the payload meets its conditions. Conditions that are
too complex, or no conditions at all, are a fault before anything is
compared. The result of a rule that triggered carries its actions and
its message, with the payload filled in, and the entity that the payload
is about. What of the payload goes into them has to have a text.
-/

namespace AlertRules.Engine

variable {ω : Type}

/-- The first of some fields of a payload that counts as true. -/
def firstPresent (fields : Object) : List Value → Except Fault (Option String)
  | [] => .ok none
  | name :: rest =>
    if name.isKey then
      let v := match name with
        | .text key => Object.getOrNull fields key
        | _ => .null
      if v.truthy then some <$> v.display else firstPresent fields rest
    else .error .unsupported

def entityIn (e : Engine ω) (data : Value) : Except Fault (Option String) :=
  match data with
  | .object fields =>
    match e.configuration.entityIdFields.parts? with
    | some names => firstPresent fields names
    | none => .error .unsupported
  | _ => .ok none

/-- The result for a rule that did not trigger. -/
def quietResult (rule : Rule) (now : Moment) (context : EvaluationContext) : EvaluationResult where
  ruleId := rule.id
  ruleName := some rule.name
  triggered := false
  severity := rule.severity
  matchedCondition := none
  alertTitle := some rule.name
  message := none
  actions := none
  metadata := []
  evaluatedAt := now
  context := some context

/-- A text, or another if it is empty or missing. -/
def textOr (s : Option String) (default : String) : String :=
  match s with
  | some t => if t.isEmpty then default else t
  | none => default

/-- What a payload makes of a rule that triggered: its title, its message
and its entity. -/
structure Wording where
  title : String
  message : String
  entityId : Option String

def wording (e : Engine ω) (rule : Rule) (data : Value) : Except Fault Wording := do
  let title ← Template.interpolate (textOr rule.actions.title rule.name) data
  let message ← Template.interpolate
    (textOr rule.actions.message ("Rule " ++ rule.name ++ " triggered")) data
  let entityId ← e.entityIn data
  pure { title, message, entityId }

def triggeredResult (rule : Rule) (now : Moment) (context : EvaluationContext) (w : Wording) :
    EvaluationResult :=
  { quietResult rule now context with
    triggered := true
    matchedCondition := some rule.conditions
    alertTitle := some w.title
    message := some w.message
    actions := some rule.actions
    metadata :=
      [("rule_name", .text rule.name), ("rule_type", .text rule.kind),
        ("entity_id", Value.ofText? w.entityId), ("link", rule.actions.link)] }

/-- Whether a payload meets the conditions of a rule. Conditions that are
too complex or no conditions at all are a fault before anything is
compared. -/
def meets (e : Engine ω) (rule : Rule) (data : Value) : Action (EngineState ω) Bool := do
  let document : Value := .object rule.conditions
  Action.ofExcept (e.limits.check 0 document.outline)
  let condition ← Action.ofExcept ((Condition.parse document).mapError .condition)
  EngineState.withSets (condition.evaluate e.comparator data)

/-- Evaluates a rule. The result says when its conditions were met or not. -/
def evaluateRule (e : Engine ω) (clock : Clock) (rule : Rule) (data : Value)
    (context : EvaluationContext) : Action (EngineState ω) EvaluationResult := do
  let met ← e.meets rule data
  let now ← Action.ofExcept clock.now
  if met then
    pure (triggeredResult rule now context (← Action.ofExcept (e.wording rule data)))
  else pure (quietResult rule now context)

end AlertRules.Engine
