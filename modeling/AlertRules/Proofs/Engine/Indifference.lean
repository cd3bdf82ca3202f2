import AlertRules.Proofs.Engine.Loading

/-!
How triggers are counted does not matter.

With another way to count triggers, or none, and with another pool, open or closed, an
engine loads the same rules (`loadRules_pooled`) and does the same with them, as far as
what it keeps for itself shows (`EngineState.own`): what differs are jobs in the pool and
lines in the log, and it looks at neither. Nor does the work in the background change what
an engine keeps for itself, whether increments fail or not (`drain_ends`).
-/

namespace AlertRules

open AlertRules.Action

theorem Executor.runJob_succeeds {ω : Type} (e : Executor ω) (clock : Clock) (job : Job) :
    (e.runJob clock job).Succeeds := by
  have hdeliver : ∀ (outlet : Outlet ω) n, (deliver outlet clock n).Succeeds := by
    refine fun outlet n => .bind (.attempt _) fun outcome => ?_
    cases outcome with
    | ok dispatch =>
        dsimp only
        split
        · exact .record _ _
        · exact .pure ()
    | error fault => exact .record _ _
  cases job with
  | increment ruleId => exact .pure ()
  | deliver name n =>
      cases houtlet : e.outlet? name with
      | none =>
          simp only [runJob, houtlet]
          exact .pure ()
      | some outlet =>
          simp only [runJob, houtlet]
          exact hdeliver outlet n

namespace EngineState

variable {ω : Type}

/-- What an engine keeps for itself: all of its state but the desk. -/
def own (s : EngineState ω) : Option RuleCache × SetCache × Statistics :=
  (s.cache, s.sets, s.statistics)

theorem own_eq_iff {s t : EngineState ω} :
    s.own = t.own ↔ s.cache = t.cache ∧ s.sets = t.sets ∧ s.statistics = t.statistics := by
  simp [own]

/-- States that look the same do so with other statistics, if those are the same. -/
theorem own_congr {s t : EngineState ω} (h : s.own = t.own) {c c' : Statistics}
    (hc : s.statistics = t.statistics → c = c') :
    own { s with statistics := c } = own { t with statistics := c' } := by
  obtain ⟨hcache, hsets, hstatistics⟩ := own_eq_iff.mp h
  exact own_eq_iff.mpr ⟨hcache, hsets, hc hstatistics⟩

def pooled (pool : Pool) (s : EngineState ω) : EngineState ω :=
  { s with desk := { s.desk with pool } }

end EngineState

namespace Engine

variable {ω : Type} {e : Engine ω} {clock : Clock}

/-! ### Another way to count -/

/-- The engine with another way to count triggers, or none. -/
def countingBy (e : Engine ω) (increment : Option (String → Action ω Unit)) : Engine ω :=
  { e with source := e.source.map fun source => { source with increment } }

variable {increment : Option (String → Action ω Unit)}

theorem meets_alike (rule : Rule) (data : Value) :
    Alike EngineState.own (e.meets rule data) ((e.countingBy increment).meets rule data) := by
  refine .bind (.ofExcept _) fun _ => .bind (.ofExcept _) fun condition => ?_
  intro s t hst log log'
  obtain ⟨hcache, hsets, hstatistics⟩ := EngineState.own_eq_iff.mp hst
  have halike := condition.evaluate_alike e.comparator data s.sets t.sets hsets log log'
  exact ⟨halike.outcome, EngineState.own_eq_iff.mpr ⟨hcache, halike.state, hstatistics⟩⟩

theorem evaluateRule_alike (rule : Rule) (data : Value) (context : EvaluationContext) :
    Alike EngineState.own (e.evaluateRule clock rule data context)
      ((e.countingBy increment).evaluateRule clock rule data context) := by
  refine .bind (meets_alike rule data) fun met => .bind (.ofExcept _) fun now => ?_
  cases met with
  | true => exact .bind (.ofExcept _) fun _ => .pure _
  | false => exact .pure _

theorem scheduleIncrement_own (e : Engine ω) (ruleId : String) (s : EngineState ω) :
    (e.scheduleIncrement ruleId).Ends s fun outcome s' => outcome = .ok () ∧ s'.own = s.own :=
  ((e.scheduleIncrement_ends ruleId s).and
    (scheduleIncrement_leaves (fun _ _ => rfl) ruleId s)).mono fun _ _ h => ⟨h.1.1, h.2⟩

theorem settle_alike (data : Value) (context : EvaluationContext) (entry : RuleInput) :
    Alike EngineState.own (e.settle clock data context entry)
      ((e.countingBy increment).settle clock data context entry) := by
  have hrule : Alike EngineState.own (e.settleRule clock data context entry)
      ((e.countingBy increment).settleRule clock data context entry) := by
    refine .bind (.ofExcept _) fun rule => .bind (evaluateRule_alike rule data context)
      fun result => ?_
    split
    · exact .bind (.of_ends (e.scheduleIncrement_own _)
        ((e.countingBy increment).scheduleIncrement_own _)) fun _ => .pure _
    · exact .pure _
  refine .bind (.attempt hrule) fun outcome => ?_
  cases outcome with
  | ok result => exact .pure _
  | error fault => exact .bind (.bind (.ofExcept _) fun _ => .record _ _ _ _) fun _ => .pure none

theorem settleAll_alike (data : Value) (context : EvaluationContext) (entries : List RuleInput) :
    Alike EngineState.own (e.settleAll clock data context entries)
      ((e.countingBy increment).settleAll clock data context entries) := by
  induction entries with
  | nil => exact .pure []
  | cons entry rest ih =>
      exact .bind (settle_alike data context entry) fun _ => .bind ih fun _ => .pure _

theorem buildContext_alike (payload : Payload) (input : ContextInput) :
    Alike EngineState.own
      (e.buildContext clock payload input : Action (EngineState ω) EvaluationContext)
      ((e.countingBy increment).buildContext clock payload input) :=
  .of_ends (fun s => (e.buildContext_ends clock payload input s).mono fun _ _ h =>
      ⟨h.1, congrArg EngineState.own h.2⟩)
    fun s => ((e.countingBy increment).buildContext_ends clock payload input s).mono
      fun _ _ h => ⟨h.1, congrArg EngineState.own h.2⟩

theorem evaluateRules_alike (entries : List RuleInput) (payload : Payload)
    (input : ContextInput) :
    Alike EngineState.own (e.evaluateRules clock entries payload input)
      ((e.countingBy increment).evaluateRules clock entries payload input) := by
  rw [evaluateRules_eq, evaluateRules_eq]
  refine .bind (buildContext_alike payload input) fun context =>
    .bind (settleAll_alike payload.value context entries) fun outcomes => ?_
  refine .bind (.modify fun s t hst => EngineState.own_congr hst fun h => by rw [h]) fun _ => ?_
  refine .bind (.bind (.ofExcept _) fun now => ?_) fun _ => .pure _
  exact .modify fun s t hst => EngineState.own_congr hst fun h => by rw [h]

theorem evaluateGiven_alike (rules : RuleSet) (payload : Payload) (input : ContextInput) :
    Alike EngineState.own (e.evaluateGiven clock rules payload input)
      ((e.countingBy increment).evaluateGiven clock rules payload input) := by
  unfold evaluateGiven
  cases rules.iterate with
  | ok entries => exact evaluateRules_alike entries payload input
  | error fault => exact .bind (buildContext_alike payload input) fun _ => .throw fault

/-! ### Evaluations and events -/

theorem loadRules_pooled (e : Engine ω) (increment : Option (String → Action ω Unit))
    (pool : Pool) (clock : Clock) :
    Action.Mirrors (EngineState.pooled pool) (e.loadRules clock)
      ((e.countingBy increment).loadRules clock) := by
  refine loadRules_mirrors rfl (fun _ _ => rfl) (fun _ => rfl) ?_
  have hsource : (e.countingBy increment).source =
    e.source.map fun source => { source with increment } := rfl
  rw [hsource]
  cases e.source with
  | none => exact .none
  | some source => exact .some fun _ _ => rfl

theorem evaluateLoaded_alike (increment : Option (String → Action ω Unit)) (pool : Pool)
    (payload : Payload) (input : ContextInput) (s : EngineState ω) (log : Log) :
    ((e.evaluateLoaded clock payload input).runFrom s log).Alike EngineState.own
      (((e.countingBy increment).evaluateLoaded clock payload input).runFrom (s.pooled pool)
        log) := by
  have hloaded : ((e.loadRules clock).runFrom s log).Alike EngineState.own
      (((e.countingBy increment).loadRules clock).runFrom (s.pooled pool) log) := by
    rw [e.loadRules_pooled increment pool clock s log]
    exact ⟨rfl, rfl⟩
  refine runFrom_bind_alike hloaded fun rules => ?_
  have hdebug : (e.countingBy increment).isDebug = e.isDebug := rfl
  rw [hdebug]
  split
  · split
    · exact .bind (.record _ _ _ _) fun _ => .pure []
    · exact .pure []
  · refine .bind (evaluateRules_alike rules payload input) fun results => ?_
    split
    · exact .bind (.record _ _ _ _) fun _ => .pure results
    · exact .pure results

theorem evaluate_alike (increment : Option (String → Action ω Unit)) (pool : Pool)
    (payload : Payload) (input : ContextInput) (s : EngineState ω) (log : Log) :
    ((e.evaluate clock payload input).runFrom s log).Alike EngineState.own
      (((e.countingBy increment).evaluate clock payload input).runFrom (s.pooled pool) log) := by
  refine runFrom_bind_alike (evaluateLoaded_alike increment pool payload input s log).attempt
    fun outcome => ?_
  cases outcome with
  | ok results => exact .pure results
  | error fault =>
      refine .bind (.record _ _ _ _) fun _ => .bind (.modify fun s t hst => ?_) fun _ => .pure []
      exact EngineState.own_congr hst fun h => by rw [h]

/-- Executing actions changes nothing that an engine keeps for itself. -/
theorem executeActions_own (e : Engine ω) (clock : Clock) (results : List EvaluationResult)
    {α : Type} (x : α) (s : EngineState ω) :
    (do
      let _ ← e.executeActions clock results
      pure x : Action (EngineState ω) α).Ends s fun outcome s' =>
        outcome = .ok x ∧ s'.own = s.own := by
  have hleaves : (e.executeActions clock results).Leaves EngineState.own := fun _ _ => rfl
  refine .bind_returns (((e.executeActions_succeeds clock results s).and (hleaves s)).mono ?_)
    fun _ _ h => .pure ⟨rfl, h⟩
  rintro _ _ ⟨⟨ids, houtcome⟩, hown⟩
  exact ⟨ids, houtcome, hown⟩

theorem processEvent_alike (increment : Option (String → Action ω Unit)) (pool : Pool)
    (payload : Payload) (input : ContextInput) (s : EngineState ω) (log : Log) :
    ((e.processEvent clock payload input).runFrom s log).Alike EngineState.own
      (((e.countingBy increment).processEvent clock payload input).runFrom (s.pooled pool)
        log) :=
  runFrom_bind_alike (evaluate_alike increment pool payload input s log) fun results =>
    .of_ends (e.executeActions_own clock results results)
      ((e.countingBy increment).executeActions_own clock results results)

/-! ### Work in the background -/

/-- A job does not fail, whatever becomes of the increment or the delivery, and it changes
nothing but the world. -/
theorem runJob_ends (e : Engine ω) (clock : Clock) (job : Job) (s : EngineState ω) :
    (e.runJob clock job).Ends s fun outcome s' =>
      outcome = .ok () ∧ s'.own = s.own ∧ s'.desk.pool = s.desk.pool := by
  cases job with
  | deliver name n =>
      intro log
      obtain ⟨⟨⟩, houtcome⟩ := e.executor.runJob_succeeds clock (.deliver name n) s.desk log
      exact ⟨houtcome, rfl, e.executor.runJob_pool clock (.deliver name n) s.desk log⟩
  | increment ruleId =>
      unfold runJob
      cases e.source.bind (·.increment) with
      | none => exact .pure ⟨rfl, rfl, rfl⟩
      | some count =>
          have hcount : (EngineState.outside (count ruleId)).Ends s fun _ s' =>
              s'.own = s.own ∧ s'.desk.pool = s.desk.pool := fun _ => ⟨rfl, rfl⟩
          refine .bind_attempt hcount fun outcome s' h => ?_
          cases outcome with
          | ok => exact .pure ⟨rfl, h⟩
          | error fault => exact .record ⟨rfl, h⟩

theorem runJobs_ends (e : Engine ω) (clock : Clock) (jobs : List Job) (s : EngineState ω) :
    (e.runJobs clock jobs).Ends s fun outcome s' =>
      outcome = .ok () ∧ s'.own = s.own ∧ s'.desk.pool = s.desk.pool := by
  induction jobs generalizing s with
  | nil => exact .pure ⟨rfl, rfl, rfl⟩
  | cons job rest ih =>
      refine .bind_ok (e.runJob_ends clock job s) ?_
      rintro s₁ ⟨hown, hpool⟩
      rw [← hown, ← hpool]
      exact ih s₁

/-- The work that waits is done without a failure; what an engine keeps for itself stays
as it is, and nothing waits any longer. -/
theorem drain_ends (e : Engine ω) (clock : Clock) (s : EngineState ω) :
    (e.drain clock).Ends s fun outcome s' =>
      outcome = .ok () ∧ s'.own = s.own ∧ s'.desk.pool = { s.desk.pool with jobs := [] } :=
  fun log => e.runJobs_ends clock s.desk.pool.jobs
    { s with desk := { s.desk with pool := { s.desk.pool with jobs := [] } } } log

end Engine

end AlertRules
