import AlertRules.Consumer.Basic
import AlertRules.Engine.Evaluation
import AlertRules.Enrichment

/-!
Handling events by rules.

The payload of an event is enriched for the module that its context
names, or else for the module of the engine; then the engine evaluates
it and acts on the results. Handling works whenever the engine comes to
an end, whether it found rules to evaluate or not; it does not work if
the context is no object or the payload cannot be enriched.
-/

namespace AlertRules

/-- An engine, and the enrichment of what it evaluates, if there is one. -/
structure RuleHandler (ω : Type) where
  engine : Engine ω
  enrichment : Option Enrichment := none

namespace RuleHandler

variable {ω : Type}

def moduleFor (h : RuleHandler ω) (context : Table) : Value :=
  (context.fields.getOrNull "module_name").orElse h.engine.configuration.moduleName

def payloadFor {σ : Type} (h : RuleHandler ω) (moduleName data : Value) : Action σ Payload :=
  match h.enrichment with
  | none => pure (.ofValue data)
  | some enrichment =>
    if moduleName.truthy then .ofTable <$> enrichment.enrich moduleName data
    else pure (.ofValue data)

def evaluate (h : RuleHandler ω) (clock : Clock) (event : Event) :
    Action (EngineState ω) (List EvaluationResult) := do
  let context ← Action.ofExcept (Table.ofValue (event.context.orElse (.object [])))
  let data ← h.payloadFor (h.moduleFor context) (event.data.orElse (.object []))
  h.engine.processEvent clock data (.table context)

/-- Handles an event; the result is whether that worked. -/
def handle (h : RuleHandler ω) (clock : Clock) (event : Event) : Action (EngineState ω) Bool := do
  match ← (h.evaluate clock event).attempt with
  | .ok results =>
    let triggered := (results.filter (·.triggered)).length
    if triggered ≠ 0 then
      Action.info ("Event " ++ event.id ++ " triggered " ++ Value.intText triggered ++ " rule(s)")
    pure true
  | .error fault =>
    Action.error ("Error in rule evaluation consumer: " ++ fault.message)
    pure false

end RuleHandler

end AlertRules
