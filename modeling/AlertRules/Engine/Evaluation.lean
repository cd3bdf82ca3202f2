import AlertRules.Engine.Context
import AlertRules.Engine.Loading
import AlertRules.Engine.Verdict

/-!
Evaluating batches of rules, and events.

A batch evaluates several rules against one payload. A rule that cannot
be evaluated is logged and counted; it yields no result and does not
touch the other rules. What the rules of a batch share is the context,
which is built once, and the cached sets.

The results and the counts of a batch are kept in a tally as the rules
are gone through, and only the tally of a batch that comes to its end is
added to the statistics.
-/

namespace AlertRules.Engine

variable {ω : Type}

def ruleOf : RuleInput → Except Fault Rule
  | .rule r => .ok r
  | .document (.object fields) => (Rule.ofFields fields).toExcept.mapError .ofIssues
  | .document v => .error (.ruleKind v.kindName)

/-- The id of an entry, which need not have one. -/
def idOf : RuleInput → Value
  | .rule r => .text r.id
  | .document (.object fields) => Object.getOrNull fields "id"
  | .document _ => .null

/-- Has a trigger of a rule counted, if the source does that. -/
def scheduleIncrement (e : Engine ω) (ruleId : String) : Action (EngineState ω) Unit := do
  match e.source.bind (·.increment) with
  | none => pure ()
  | some _ =>
    if !(← EngineState.atDesk (Desk.submit (.increment ruleId))) then
      Action.warn ("Skipping trigger count increment for rule " ++ ruleId ++
        ": cannot schedule new futures after shutdown")

/-- What a batch has come to: its results so far, how many of its rules
triggered and how many failed. -/
structure Tally where
  results : List EvaluationResult := []
  triggered : Nat := 0
  errors : Nat := 0

namespace Tally

/-- Does something with the engine while a batch is tallied. -/
def aside {α : Type} (a : Action (EngineState ω) α) : Action (EngineState ω × Tally) α :=
  a.within Prod.fst fun s t => (t, s.2)

def add (r : EvaluationResult) : Action (EngineState ω × Tally) Unit :=
  modify fun s => (s.1, { s.2 with results := s.2.results ++ [r] })

def countTrigger : Action (EngineState ω × Tally) Unit :=
  modify fun s => (s.1, { s.2 with triggered := s.2.triggered + 1 })

def countError : Action (EngineState ω × Tally) Unit :=
  modify fun s => (s.1, { s.2 with errors := s.2.errors + 1 })

end Tally

/-- Evaluates the rule that an entry is, and takes down its result. -/
def tallyRule (e : Engine ω) (clock : Clock) (data : Value) (context : EvaluationContext)
    (entry : RuleInput) : Action (EngineState ω × Tally) Unit := do
  let rule ← Action.ofExcept (ruleOf entry)
  let result ← Tally.aside (e.evaluateRule clock rule data context)
  Tally.add result
  if result.triggered then
    Tally.countTrigger
    Tally.aside (e.scheduleIncrement rule.id)

/-- Evaluates an entry. Whatever goes wrong is logged and counted; what
goes wrong there, as the entry is named, is a fault of the batch. -/
def evaluateEntry (e : Engine ω) (clock : Clock) (data : Value) (context : EvaluationContext)
    (entry : RuleInput) : Action (EngineState ω × Tally) Unit := do
  match ← (e.tallyRule clock data context entry).attempt with
  | .ok () => pure ()
  | .error fault =>
    Action.error ("Error evaluating rule " ++ (← Action.ofExcept (idOf entry).display) ++ ": " ++
      fault.message)
    Tally.countError

def evaluateEntries (e : Engine ω) (clock : Clock) (data : Value) (context : EvaluationContext) :
    List RuleInput → Action (EngineState ω × Tally) Unit
  | [] => pure ()
  | entry :: rest => do
    e.evaluateEntry clock data context entry
    e.evaluateEntries clock data context rest

def countBatch (size : Nat) (t : Tally) : Action (EngineState ω) Unit :=
  modify fun s =>
    { s with
      statistics := { s.statistics with
        total := s.statistics.total + size
        triggered := s.statistics.triggered + t.triggered
        errors := s.statistics.errors + t.errors } }

def stampBatch (clock : Clock) : Action (EngineState ω) Unit := do
  let now ← Action.ofExcept clock.now
  modify fun s => { s with statistics := { s.statistics with lastEvaluationAt := now } }

def evaluateRules (e : Engine ω) (clock : Clock) (rules : List RuleInput) (payload : Payload)
    (context : ContextInput) : Action (EngineState ω) (List EvaluationResult) := do
  let batchContext ← e.buildContext clock payload context
  let tally ← (e.evaluateEntries clock payload.value batchContext rules).beside {}
  countBatch rules.length tally
  stampBatch clock
  pure tally.results

/-- Evaluates the rules that a caller gives, which need not be a list. -/
def evaluateGiven (e : Engine ω) (clock : Clock) (rules : RuleSet) (payload : Payload)
    (context : ContextInput) : Action (EngineState ω) (List EvaluationResult) :=
  match rules.iterate with
  | .ok entries => e.evaluateRules clock entries payload context
  | .error fault => do
    let _ ← e.buildContext (σ := EngineState ω) clock payload context
    throw fault

/-- Evaluates the loaded rules; the log tells the details if the engine is
to be detailed. -/
def evaluateLoaded (e : Engine ω) (clock : Clock) (payload : Payload) (context : ContextInput) :
    Action (EngineState ω) (List EvaluationResult) := do
  let rules ← e.loadRules clock
  if rules.isEmpty then
    if e.isDebug then Action.debug "No active rules to evaluate"
    pure []
  else
    let results ← e.evaluateRules clock rules payload context
    if e.isDebug then
      Action.debug ("Rule evaluation complete: " ++ Value.intText rules.length ++
        " evaluated, " ++ Value.intText (results.filter (·.triggered)).length ++
        " triggered in 0.00ms")
    pure results

/-- Evaluates a payload against all active rules. A failure of the whole
is logged and counted and yields no results. -/
def evaluate (e : Engine ω) (clock : Clock) (payload : Payload) (context : ContextInput) :
    Action (EngineState ω) (List EvaluationResult) := do
  match ← (e.evaluateLoaded clock payload context).attempt with
  | .ok results => pure results
  | .error fault =>
    Action.error ("Error during rule evaluation: " ++ fault.message)
    modify fun s =>
      { s with statistics := { s.statistics with errors := s.statistics.errors + 1 } }
    pure []

def executeActions (e : Engine ω) (clock : Clock) (results : List EvaluationResult) :
    Action (EngineState ω) (List String) :=
  EngineState.atDesk
    (e.executor.execute clock ((results.filter (·.triggered)).map Submission.ofResult))

def processEvent (e : Engine ω) (clock : Clock) (payload : Payload) (context : ContextInput) :
    Action (EngineState ω) (List EvaluationResult) := do
  let results ← e.evaluate clock payload context
  let _ ← e.executeActions clock results
  pure results

def resetStatistics (clock : Clock) : Action (EngineState ω) Unit := do
  let now ← Action.ofExcept clock.now
  modify fun s => { s with statistics := { lastEvaluationAt := now } }

def close : Action (EngineState ω) Unit := EngineState.atDesk Desk.close

def runJob (e : Engine ω) (clock : Clock) : Job → Action (EngineState ω) Unit
  | .increment ruleId =>
    match e.source.bind (·.increment) with
    | none => pure ()
    | some count => do
      match ← (EngineState.outside (count ruleId)).attempt with
      | .ok () => pure ()
      | .error fault =>
        Action.error ("Failed to increment trigger count for rule " ++ ruleId ++ ": " ++
          fault.message)
  | job => EngineState.atDesk (e.executor.runJob clock job)

def runJobs (e : Engine ω) (clock : Clock) : List Job → Action (EngineState ω) Unit
  | [] => pure ()
  | job :: rest => do
    e.runJob clock job
    e.runJobs clock rest

def drain (e : Engine ω) (clock : Clock) : Action (EngineState ω) Unit := do
  e.runJobs clock (← EngineState.atDesk Desk.takeJobs)

end AlertRules.Engine
