import AlertRules.Condition.Evaluation
import AlertRules.Condition.Limits
import AlertRules.Execution.Executor
import AlertRules.Source
import AlertRules.Template

/-!
The engine and its state.

An engine is what it was built with: its configuration, its source of
rules and its executor. What changes while it works is its state: the
desk with the outside world and the pool, the rules loaded last and when
that was, the cached membership sets, and the statistics.
-/

namespace AlertRules

/-- What an engine counts, and when it last evaluated a batch. -/
structure Statistics where
  total : Nat := 0
  triggered : Nat := 0
  errors : Nat := 0
  lastEvaluationAt : Moment

structure RuleCache where
  rules : List RuleInput
  loadedAt : Double

/-- An engine. It has said for whom it works, which takes an organization and a
module that have a text. -/
structure Engine (ω : Type) where
  configuration : Configuration
  source : Option (RuleSource ω)
  executor : Executor ω
  named : configuration.organizationId.hasText = true ∧ configuration.moduleName.hasText = true

/-- An engine made of its parts, if it can say for whom it works. -/
def Engine.make {ω : Type} (c : Configuration) (source : Option (RuleSource ω))
    (executor : Executor ω) : Except Fault (Engine ω) :=
  if named : c.organizationId.hasText = true ∧ c.moduleName.hasText = true then
    .ok { configuration := c, source, executor, named }
  else .error .unwritable

structure EngineState (ω : Type) where
  desk : Desk ω
  cache : Option RuleCache := none
  sets : SetCache := {}
  statistics : Statistics

namespace EngineState

variable {ω α : Type}

def atDesk (a : Action (Desk ω) α) : Action (EngineState ω) α :=
  a.within (·.desk) fun s d => { s with desk := d }

def outside (a : Action ω α) : Action (EngineState ω) α := atDesk (Desk.outside a)

def withSets (a : Action SetCache α) : Action (EngineState ω) α :=
  a.within (·.sets) fun s c => { s with sets := c }

def initial (clock : Clock) (world : ω) : Except Fault (EngineState ω) := do
  pure { desk := { world }, statistics := { lastEvaluationAt := ← clock.now } }

end EngineState

namespace Engine

variable {ω : Type}

def comparator (e : Engine ω) : Comparator := { setThreshold := e.configuration.inSetThreshold }

def limits (e : Engine ω) : Limits :=
  { depth := e.configuration.maxDepth, breadth := e.configuration.maxConditionsPerLevel }

def isDebug (e : Engine ω) : Bool := e.configuration.debug.truthy

def lacksWorkers (workers : Value) : Except Fault Bool :=
  match workers with
  | .null => .ok false
  | v =>
    match v.less (.int 0), v.equal (.int 0) with
    | .ok below, .ok zero => .ok (below || zero)
    | _, _ => .error .unsupported

/-- Checks that an engine can work with a configuration: it says for which
organization, and the pool has workers. -/
def checkConfiguration (c : Configuration) : Except Fault Unit := do
  if !c.organizationId.truthy then throw .noOrganization
  if ← lacksWorkers c.backgroundWorkers then throw .noWorkers

def greet {σ : Type} (c : Configuration) : Action σ Unit := do
  Action.info ("RuleEngine initialized for organization " ++
    (← Action.ofExcept c.organizationId.display) ++ " (module=" ++
    (← Action.ofExcept (c.moduleName.orElse (.text "all")).display) ++ ")")

end Engine

end AlertRules
