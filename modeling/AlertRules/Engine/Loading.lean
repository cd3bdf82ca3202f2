import AlertRules.Engine.State

/-!
Loading rules.

Rules are loaded once and kept for as long as the configuration says.
Only a successful load is kept: when the source fails, the result is no
rules, and whatever was kept before stays as it is.
-/

namespace AlertRules.Engine

variable {ω : Type}

def isFresh (e : Engine ω) (clock : Clock) (loadedAt : Double) : Except Fault Bool :=
  let age := clock.elapsed.add (negate loadedAt)
  match (Value.float age).less e.configuration.ruleCacheTtl with
  | .ok answer => .ok answer
  | .error _ => .error .unsupported
where
  /-- The number with the opposite sign. -/
  negate : Double → Double
    | .nan named => .nan named
    | .inf negative => .inf (!negative)
    | .finite negative mant shift canonical => .finite (!negative) mant shift canonical

/-- The rules that are kept, if they are still fresh. -/
def cachedRules (e : Engine ω) (clock : Clock) (s : EngineState ω) :
    Except Fault (Option (List RuleInput)) :=
  match s.cache with
  | none => .ok none
  | some cache => do
    if ← e.isFresh clock cache.loadedAt then pure (some cache.rules) else pure none

def fetchRules (e : Engine ω) (source : RuleSource ω) : Action (EngineState ω) RuleSet :=
  EngineState.outside
    (source.fetch e.configuration.organizationId e.configuration.moduleName
      e.configuration.maxRulesPerBatch)

def keepRules (clock : Clock) (rules : List RuleInput) : Action (EngineState ω) Unit :=
  modify fun s => { s with cache := some ⟨rules, clock.elapsed⟩ }

def loadFrom (e : Engine ω) (clock : Clock) (source : RuleSource ω) :
    Action (EngineState ω) (List RuleInput) := do
  match ← (e.fetchRules source).attempt with
  | .error fault =>
    Action.error ("Error loading rules: " ++ fault.message)
    pure []
  | .ok found =>
    let rules ← Action.ofExcept found.toList
    keepRules clock rules
    if e.isDebug then
      Action.debug ("Loaded " ++ Value.intText rules.length ++ " active rules for organization " ++
        (← Action.ofExcept e.configuration.organizationId.display) ++ " (module=" ++
        (← Action.ofExcept e.configuration.moduleName.display) ++ ")")
    pure rules

/-- The rules to evaluate: those that are kept, or else those that the
source has now. -/
def loadRules (e : Engine ω) (clock : Clock) : Action (EngineState ω) (List RuleInput) := do
  match ← Action.ofExcept (e.cachedRules clock (← get)) with
  | some rules => pure rules
  | none =>
    match e.source with
    | none =>
      Action.warn "No rule source configured; nothing to evaluate"
      pure []
    | some source => e.loadFrom clock source

/-- Forgets the rules that are kept, and the cached sets. -/
def clearCache : Action (EngineState ω) Unit :=
  modify fun s => { s with cache := none, sets := {} }

end AlertRules.Engine
