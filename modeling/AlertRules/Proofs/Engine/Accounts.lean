import AlertRules.Proofs.Engine.Indifference
import Mathlib.Data.List.DropRight

/-!
The accounts of an engine.

A run is a list of exchanges: each request with the state and the log that it meets. In
every exchange each rule of the batch that is run either has a result or is counted as an
error, and an increment is handed to the pool for each result that triggered. A batch is
lost when a rule fails that cannot be named: what its rules came to by then is not
returned. So at any time the statistics are the sums over the exchanges since they were
last reset (`statistics_conserved`), however triggers are counted.
-/

namespace AlertRules.Engine

open AlertRules.Action

variable {ω : Type} {e : Engine ω} {clock : Clock}

/-! ### Batches -/

/-- A batch that is run, with the state and the log that it meets. -/
structure Batch (ω : Type) where
  clock : Clock
  entries : List RuleInput
  payload : Payload
  input : ContextInput
  state : EngineState ω
  log : Log

namespace Batch

def ending (e : Engine ω) (b : Batch ω) : Ending (EngineState ω) (List EvaluationResult) :=
  (e.evaluateRules b.clock b.entries b.payload b.input).runFrom b.state b.log

/-- The results that the rules come to, up to where the batch is lost. -/
def made (e : Engine ω) (b : Batch ω) : List EvaluationResult :=
  (e.tallied b.clock b.entries b.payload b.input b.state b.log).results

def isLost (e : Engine ω) (b : Batch ω) : Bool := !(b.ending e).outcome.isOk

/-- How many rules are counted: all of them, unless the batch is lost. -/
def size (e : Engine ω) (b : Batch ω) : Nat := if b.isLost e then 0 else b.entries.length

end Batch

/-- The pool has taken increments for results, and deliveries after them. -/
def Hands (e : Engine ω) (results : List EvaluationResult) (waiting : List Job)
    (pool pool' : Pool) : Prop :=
  ∃ deliveries : List (String × Notification), pool'.jobs =
    waiting ++ e.increments pool results ++
      deliveries.map fun delivery => .deliver delivery.1 delivery.2

theorem hands_of_eq {results : List EvaluationResult} {pool pool' : Pool}
    (h : pool' = e.handed pool results) : e.Hands results pool.jobs pool pool' :=
  ⟨[], by rw [h, handed, List.map_nil, List.append_nil]⟩

/-- A batch was run between two states. What is returned are the results that its rules came
to, or nothing if the batch was lost, for a rule that cannot be named. -/
structure Batch.IsRun (e : Engine ω) (b : Batch ω) (returned : List EvaluationResult)
    (failures : Nat) (s s' : EngineState ω) : Prop where
  counted : Counted (b.size e) returned failures s.statistics s'.statistics
  hands : e.Hands (b.made e) s.desk.pool.jobs s.desk.pool s'.desk.pool
  whole : b.isLost e = false → returned = b.made e
  lost : b.isLost e = true → returned = [] ∧ ∃ entry ∈ b.entries, (idOf entry).hasText = false

namespace Batch

theorem isRun {now : Moment} (b : Batch ω) (hnow : b.clock.now = .ok now) :
    b.IsRun e ((b.ending e).outcome.toOption.getD []) 0 b.state (b.ending e).state := by
  obtain ⟨hpool, ⟨houtcome, hcounted⟩ | ⟨houtcome, hunnamed, hstatistics⟩⟩ :=
    evaluateRules_counted (e := e) hnow b.entries b.payload b.input b.state b.log
  · have hkept : b.isLost e = false := by
      rw [isLost, ending, houtcome]
      rfl
    have hreturned : (b.ending e).outcome.toOption.getD [] = b.made e := by
      rw [ending, houtcome]
      rfl
    refine ⟨?_, hands_of_eq hpool, fun _ => hreturned, fun h => absurd (hkept.symm.trans h) nofun⟩
    rw [hreturned, size, hkept]
    exact hcounted
  · have hlost : b.isLost e = true := by
      rw [isLost, ending, houtcome]
      rfl
    have hreturned : (b.ending e).outcome.toOption.getD [] = [] := by
      rw [ending, houtcome]
      rfl
    refine ⟨?_, hands_of_eq hpool, fun h => absurd (hlost.symm.trans h) nofun,
      fun _ => ⟨hreturned, hunnamed⟩⟩
    rw [hreturned, size, hlost, ending, hstatistics]
    exact .refl _

theorem isRun_empty {now : Moment} {b : Batch ω} (hnow : b.clock.now = .ok now)
    (hempty : b.entries = []) {s s' : EngineState ω}
    (h : (s'.statistics, s'.desk.pool) = (s.statistics, s.desk.pool)) :
    b.IsRun e [] 0 s s' := by
  obtain ⟨hstatistics, hpool⟩ := Prod.mk.inj h
  have hrun := b.isRun (e := e) hnow
  have hkept : b.isLost e = false := by
    refine Bool.eq_false_iff.mpr fun hlost => ?_
    obtain ⟨-, entry, hentry, -⟩ := hrun.lost hlost
    cases hempty ▸ hentry
  have hsize : b.size e = 0 := by
    rw [size, hkept, hempty]
    rfl
  have hmade : b.made e = [] := by
    rw [← hrun.whole hkept, ← List.length_eq_zero_iff]
    exact Nat.le_zero.mp (hsize ▸ hrun.counted.fits)
  refine ⟨?_, hands_of_eq ?_, fun _ => hmade.symm, fun h => absurd (hkept.symm.trans h) nofun⟩
  · rw [hsize, hstatistics]
    exact .refl _
  · rw [hmade, handed_nil, hpool]

/-- A run between states that have the same statistics and pool. -/
theorem IsRun.of_same {b : Batch ω} {returned : List EvaluationResult} {failures : Nat}
    {s s₁ s' : EngineState ω} (h : b.IsRun e returned failures s₁ s')
    (hsame : (s₁.statistics, s₁.desk.pool) = (s.statistics, s.desk.pool)) :
    b.IsRun e returned failures s s' := by
  obtain ⟨hstatistics, hpool⟩ := Prod.mk.inj hsame
  exact ⟨hstatistics ▸ h.counted, hpool ▸ h.hands, h.whole, h.lost⟩

end Batch

/-! ### Exchanges -/

/-- The clock of a request shows a time that the calendar has. -/
def Request.TellsTime (request : Request ω) : Prop :=
  ∀ clock, request.clock? = some clock → ∃ now, clock.now = .ok now

def Request.resets : Request ω → Bool
  | .resetStatistics _ => true
  | _ => false

/-- The batch of an evaluation: the rules that it loads, or none if they cannot be loaded. -/
def loadedBatch (e : Engine ω) (clock : Clock) (payload : Payload) (input : ContextInput)
    (s : EngineState ω) (log : Log) : Batch ω :=
  let loaded := (e.loadRules clock).runFrom s log
  ⟨clock, loaded.outcome.toOption.getD [], payload, input, loaded.state, loaded.log⟩

structure Exchange (ω : Type) where
  request : Request ω
  state : EngineState ω
  log : Log

namespace Exchange

def ending (e : Engine ω) (x : Exchange ω) : Ending (EngineState ω) Unit :=
  (e.serve x.request).runFrom x.state x.log

/-- The results that are returned. -/
def results (e : Engine ω) (x : Exchange ω) : List EvaluationResult :=
  match x.request with
  | .batch clock rules payload input =>
    ((e.evaluateGiven clock rules payload input).runFrom x.state x.log).outcome.toOption.getD []
  | .evaluation clock payload input =>
    ((e.evaluate clock payload input).runFrom x.state x.log).outcome.toOption.getD []
  | .event clock payload input =>
    ((e.processEvent clock payload input).runFrom x.state x.log).outcome.toOption.getD []
  | _ => []

/-- The batch that is run. What is given as rules need not be a list of them. -/
def batch? (e : Engine ω) (x : Exchange ω) : Option (Batch ω) :=
  match x.request with
  | .batch clock rules payload input =>
    rules.iterate.toOption.map fun entries => ⟨clock, entries, payload, input, x.state, x.log⟩
  | .evaluation clock payload input => some (e.loadedBatch clock payload input x.state x.log)
  | .event clock payload input => some (e.loadedBatch clock payload input x.state x.log)
  | _ => none

/-- How many rules of the batch are counted. -/
def size (e : Engine ω) (x : Exchange ω) : Nat := (x.batch? e).elim 0 (·.size e)

/-- The results that the rules of the batch come to, whether they are returned or not. -/
def made (e : Engine ω) (x : Exchange ω) : List EvaluationResult := (x.batch? e).elim [] (·.made e)

/-- Whether an evaluation is asked for that fails as a whole. -/
def fails (e : Engine ω) (x : Exchange ω) : Bool :=
  match x.request with
  | .evaluation clock payload input =>
    !((e.evaluateLoaded clock payload input).runFrom x.state x.log).outcome.isOk
  | .event clock payload input =>
    !((e.evaluateLoaded clock payload input).runFrom x.state x.log).outcome.isOk
  | _ => false

/-- The jobs that go on waiting: all that wait, unless they are done now. -/
def waiting (x : Exchange ω) : List Job :=
  match x.request with
  | .drain _ => []
  | _ => x.state.desk.pool.jobs

end Exchange

/-! ### What a request counts -/

theorem loadRules_leaves (e : Engine ω) (clock : Clock) :
    (e.loadRules clock).Leaves fun s => (s.statistics, s.desk.pool) := by
  refine fun s => .of_endsAt (e.loadRules_loads clock s) ?_
  -- a load that asks the source changes nothing besides but the world and what is kept
  rintro log _ _ (_ | _ | _ | _)
  all_goals rfl

theorem evaluateLoaded_isRun {now : Moment} (hnow : clock.now = .ok now) (payload : Payload)
    (input : ContextInput) (s : EngineState ω) (log : Log) :
    (e.evaluateLoaded clock payload input).EndsAt s log fun outcome s' =>
      (e.loadedBatch clock payload input s log).IsRun e (outcome.toOption.getD []) 0 s s' := by
  have hsame := e.loadRules_leaves clock s log
  unfold EndsAt
  rw [evaluateLoaded, runFrom_bind]
  cases hloaded : ((e.loadRules clock).runFrom s log).outcome with
  | error fault =>
      have hempty : (e.loadedBatch clock payload input s log).entries = [] :=
        congrArg (·.toOption.getD []) hloaded
      exact Batch.isRun_empty hnow hempty hsame
  | ok rules =>
      have hentries : (e.loadedBatch clock payload input s log).entries = rules :=
        congrArg (·.toOption.getD []) hloaded
      dsimp only
      split
      next hempty =>
          have hrun := Batch.isRun_empty (e := e) hnow
            (hentries.trans (List.isEmpty_iff.mp hempty)) hsame
          split
          · exact hrun
          · exact hrun
      next =>
          let isRun := fun (outcome : Except Fault (List EvaluationResult)) s' =>
            (e.loadedBatch clock payload input s log).IsRun e (outcome.toOption.getD []) 0 s s'
          have hrun : (e.evaluateRules clock rules payload input).EndsAt
              ((e.loadRules clock).runFrom s log).state ((e.loadRules clock).runFrom s log).log
              isRun :=
            hentries ▸ ((e.loadedBatch clock payload input s log).isRun hnow).of_same hsame
          refine (EndsAt.bind hrun ?_ fun _ _ h => h : EndsAt _ _ _ isRun)
          intro results s₂ hresults
          split
          · exact .bind_record (.pure hresults)
          · exact .pure hresults

/-- An evaluation is counted, and so is its failure as a whole. -/
theorem evaluate_isRun {now : Moment} (hnow : clock.now = .ok now) (payload : Payload)
    (input : ContextInput) (s : EngineState ω) (log : Log) :
    (e.evaluate clock payload input).EndsAt s log fun outcome s' => ∃ results,
      outcome = .ok results ∧ (e.loadedBatch clock payload input s log).IsRun e results
        (if !((e.evaluateLoaded clock payload input).runFrom s log).outcome.isOk then 1 else 0)
        s s' := by
  have hloaded : (e.evaluateLoaded clock payload input).EndsAt s log fun outcome s' =>
      outcome = ((e.evaluateLoaded clock payload input).runFrom s log).outcome ∧
        (e.loadedBatch clock payload input s log).IsRun e (outcome.toOption.getD []) 0 s s' :=
    ⟨rfl, evaluateLoaded_isRun hnow payload input s log⟩
  refine .bind_attempt hloaded ?_
  rintro outcome s₁ ⟨houtcome, hrun⟩
  rw [← houtcome]
  cases outcome with
  | ok results => exact .pure ⟨results, rfl, hrun⟩
  | error fault =>
      refine .bind_record (.bind_modify (.pure ⟨[], rfl, ?_⟩))
      have hcounted := hrun.counted
      exact ⟨⟨hcounted.fits, hcounted.total, hcounted.triggered,
        congrArg (· + 1) hcounted.errors⟩, hrun.hands, hrun.whole, hrun.lost⟩

/-- Processing an event counts what its evaluation counts; all that is handed to the pool
besides are deliveries. -/
theorem processEvent_isRun {now : Moment} (hnow : clock.now = .ok now) (payload : Payload)
    (input : ContextInput) (s : EngineState ω) (log : Log) :
    (e.processEvent clock payload input).EndsAt s log fun outcome s' => ∃ results,
      outcome = .ok results ∧ (e.loadedBatch clock payload input s log).IsRun e results
        (if !((e.evaluateLoaded clock payload input).runFrom s log).outcome.isOk then 1 else 0)
        s s' := by
  refine .bind (evaluate_isRun hnow payload input s log) ?_ ?_
  · rintro results s₁ ⟨_, ⟨⟩, hrun⟩
    have hactions : (e.executeActions clock results).Ends s₁ fun outcome s₂ =>
        ∃ ids, outcome = .ok ids ∧ s₂.statistics = s₁.statistics ∧
          Executor.Delivers s₁.desk.pool s₂.desk.pool := by
      intro log'
      obtain ⟨ids, hids⟩ := e.executeActions_succeeds clock results s₁ log'
      exact ⟨ids, hids, rfl, e.executor.execute_delivers clock _ s₁.desk log'⟩
    refine .bind_returns hactions ?_
    rintro _ s₂ ⟨hstatistics, more, hmore⟩
    obtain ⟨deliveries, hdeliveries⟩ := hrun.hands
    refine .pure ⟨results, rfl, hstatistics ▸ hrun.counted, ⟨deliveries ++ more, ?_⟩,
      hrun.whole, hrun.lost⟩
    rw [hmore, hdeliveries, List.map_append, List.append_assoc _ (List.map _ _)]
  · rintro fault s₁ ⟨_, h, -⟩
    cases h

namespace Exchange

/-- What comes of an exchange. No more results are returned than there are rules counted.
The pool takes an increment for each result that triggered, and deliveries besides; and the
results are returned, all of them unless the batch is lost, for a rule that cannot be named. -/
structure Accounted (e : Engine ω) (x : Exchange ω) : Prop where
  fits : (x.results e).length ≤ x.size e
  hands : e.Hands (x.made e) x.waiting x.state.desk.pool (x.ending e).state.desk.pool
  results : x.results e = x.made e ∨ x.results e = [] ∧ ∃ batch, x.batch? e = some batch ∧
    batch.isLost e = true ∧ ∃ entry ∈ batch.entries, (idOf entry).hasText = false

/-- What the exchange adds to the statistics, unless it resets them. -/
def Adds (e : Engine ω) (x : Exchange ω) : Prop :=
  x.request.resets = false → Counted (x.size e) (x.results e) (if x.fails e then 1 else 0)
    x.state.statistics (x.ending e).state.statistics

theorem accounted_of_isRun {x : Exchange ω} {batch : Batch ω} (hbatch : x.batch? e = some batch)
    (hwaiting : x.waiting = x.state.desk.pool.jobs)
    (hrun : batch.IsRun e (x.results e) (if x.fails e then 1 else 0) x.state (x.ending e).state) :
    x.Accounted e ∧ x.Adds e := by
  have hsize : x.size e = batch.size e := by rw [size, hbatch, Option.elim_some]
  have hmade : x.made e = batch.made e := by rw [made, hbatch, Option.elim_some]
  refine ⟨⟨hsize ▸ hrun.counted.fits, ?_, ?_⟩, fun _ => hsize ▸ hrun.counted⟩
  · rw [hmade, hwaiting]
    exact hrun.hands
  · rw [hmade]
    cases hlost : batch.isLost e with
    | false => exact .inl (hrun.whole hlost)
    | true => exact .inr ⟨(hrun.lost hlost).1, batch, hbatch, hlost, (hrun.lost hlost).2⟩

theorem accounted_of_quiet {x : Exchange ω} (hbatch : x.batch? e = none)
    (hresults : x.results e = []) (hfails : x.fails e = false)
    (hpool : ∃ deliveries : List (String × Notification), (x.ending e).state.desk.pool.jobs =
      x.waiting ++ deliveries.map fun delivery => .deliver delivery.1 delivery.2)
    (hstatistics : x.request.resets = false →
      (x.ending e).state.statistics = x.state.statistics) : x.Accounted e ∧ x.Adds e := by
  have hsize : x.size e = 0 := by rw [size, hbatch, Option.elim_none]
  have hmade : x.made e = [] := by rw [made, hbatch, Option.elim_none]
  obtain ⟨deliveries, hdeliveries⟩ := hpool
  refine ⟨⟨by rw [hresults]; exact Nat.zero_le _, ⟨deliveries, ?_⟩, .inl ?_⟩, fun hresets => ?_⟩
  · rw [hmade, increments_nil, List.append_nil, hdeliveries]
  · rw [hresults, hmade]
  · rw [hsize, hresults, hfails, hstatistics hresets]
    exact .refl _

/-- What comes of an exchange: one case for each request. -/
theorem accounted (e : Engine ω) (x : Exchange ω) (hclock : x.request.TellsTime) :
    x.Accounted e ∧ x.Adds e := by
  obtain ⟨request, s, log⟩ := x
  have hnothing : ∀ jobs : List Job, ∃ deliveries : List (String × Notification),
      jobs = jobs ++ deliveries.map fun delivery => .deliver delivery.1 delivery.2 :=
    fun jobs => ⟨[], (List.append_nil jobs).symm⟩
  cases request with
  | load clock =>
      obtain ⟨hstatistics, hpool⟩ := Prod.mk.inj (e.loadRules_leaves clock s log)
      refine accounted_of_quiet rfl rfl rfl ?_ fun _ => ?_
      · rw [ending, serve, runFrom_discard, hpool]
        exact hnothing _
      · rw [ending, serve, runFrom_discard, hstatistics]
  | batch clock rules payload input =>
      obtain ⟨now, hnow⟩ := hclock clock rfl
      cases hrules : rules.iterate with
      | ok entries =>
          have hgiven : e.evaluateGiven clock rules payload input =
              e.evaluateRules clock entries payload input := by
            rw [evaluateGiven, hrules]
          have hbatch : batch? e ⟨.batch clock rules payload input, s, log⟩ =
              some ⟨clock, entries, payload, input, s, log⟩ := by
            simp only [batch?, hrules, Except.toOption, Option.map_some]
          refine accounted_of_isRun hbatch rfl ?_
          have hrun := Batch.isRun (e := e) ⟨clock, entries, payload, input, s, log⟩ hnow
          rw [Batch.ending, ← hgiven] at hrun
          rw [ending, serve, runFrom_discard]
          exact hrun
      | error fault =>
          have hends : (e.evaluateGiven clock rules payload input).Ends s fun outcome s' =>
              outcome.toOption = none ∧ s' = s := by
            unfold evaluateGiven
            rw [hrules]
            refine .bind (e.buildContext_ends clock payload input s) ?_ ?_
            · rintro _ _ ⟨-, rfl⟩
              exact .throw ⟨rfl, rfl⟩
            · rintro _ _ ⟨-, rfl⟩
              exact ⟨rfl, rfl⟩
          obtain ⟨houtcome, hstate⟩ := hends log
          refine accounted_of_quiet ?_ ?_ rfl ?_ fun _ => ?_
          · simp only [batch?, hrules, Except.toOption, Option.map_none]
          · exact congrArg (·.getD []) houtcome
          · rw [ending, serve, runFrom_discard, hstate]
            exact hnothing _
          · rw [ending, serve, runFrom_discard, hstate]
  | evaluation clock payload input =>
      obtain ⟨now, hnow⟩ := hclock clock rfl
      obtain ⟨returned, houtcome, hrun⟩ := evaluate_isRun (e := e) hnow payload input s log
      have hresults : results e ⟨.evaluation clock payload input, s, log⟩ = returned :=
        congrArg (·.toOption.getD []) houtcome
      refine accounted_of_isRun rfl rfl ?_
      rw [ending, serve, runFrom_discard, hresults]
      exact hrun
  | event clock payload input =>
      obtain ⟨now, hnow⟩ := hclock clock rfl
      obtain ⟨returned, houtcome, hrun⟩ := processEvent_isRun (e := e) hnow payload input s log
      have hresults : results e ⟨.event clock payload input, s, log⟩ = returned :=
        congrArg (·.toOption.getD []) houtcome
      refine accounted_of_isRun rfl rfl ?_
      rw [ending, serve, runFrom_discard, hresults]
      exact hrun
  | actions clock given =>
      obtain ⟨deliveries, hdelivers⟩ := e.executor.execute_delivers clock
        ((given.filter (·.triggered)).map Submission.ofResult) s.desk log
      refine accounted_of_quiet rfl rfl rfl ⟨deliveries, ?_⟩ fun _ => ?_
      · rw [ending, serve, runFrom_discard]
        exact congrArg Pool.jobs hdelivers
      · rw [ending, serve, runFrom_discard]
        rfl
  | drain clock =>
      obtain ⟨-, hown, hpool⟩ := e.drain_ends clock s log
      refine accounted_of_quiet rfl rfl rfl ?_ fun _ => ?_
      · rw [ending, serve, hpool]
        exact hnothing []
      · rw [ending, serve, (EngineState.own_eq_iff.mp hown).2.2]
  | resetStatistics clock =>
      obtain ⟨now, hnow⟩ := hclock clock rfl
      refine accounted_of_quiet rfl rfl rfl ?_ fun h => absurd h Bool.noConfusion
      rw [ending, serve, resetStatistics, hnow]
      exact hnothing _
  | clearCache => exact accounted_of_quiet rfl rfl rfl (hnothing _) fun _ => rfl
  | close => exact accounted_of_quiet rfl rfl rfl (hnothing _) fun _ => rfl
  | outside change => exact accounted_of_quiet rfl rfl rfl (hnothing _) fun _ => rfl

theorem statistics_reset (e : Engine ω) {x : Exchange ω} (hclock : x.request.TellsTime)
    (h : x.request.resets = true) :
    ∃ now, (x.ending e).state.statistics = { lastEvaluationAt := now } := by
  obtain ⟨request, s, log⟩ := x
  cases request <;> cases h
  obtain ⟨now, hnow⟩ := hclock _ rfl
  refine ⟨now, ?_⟩
  rw [ending, serve, resetStatistics, hnow]
  rfl

/-- With another way to count triggers and another pool, the request returns the same and
leaves the same behind in what the engine keeps for itself. -/
def IsIndifferent (e : Engine ω) (x : Exchange ω) : Prop :=
  ∀ (increment : Option (String → Action ω Unit)) (pool : Pool),
    let other : Exchange ω := ⟨x.request, x.state.pooled pool, x.log⟩
    x.results e = other.results (e.countingBy increment) ∧
      (x.ending e).Alike EngineState.own (other.ending (e.countingBy increment))

theorem alike_discard {a b : Action (EngineState ω) (List EvaluationResult)}
    {s t : EngineState ω} {log : Log}
    (h : (a.runFrom s log).Alike EngineState.own (b.runFrom t log)) :
    (a.runFrom s log).outcome.toOption.getD [] = (b.runFrom t log).outcome.toOption.getD [] ∧
      ((do
        let _ ← a
        pure () : Action (EngineState ω) Unit).runFrom s log).Alike EngineState.own
        ((do
          let _ ← b
          pure () : Action (EngineState ω) Unit).runFrom t log) :=
  ⟨congrArg (·.toOption.getD []) h.outcome, runFrom_bind_alike h fun _ => .pure ()⟩

theorem isIndifferent (e : Engine ω) (x : Exchange ω) : x.IsIndifferent e := by
  obtain ⟨request, s, log⟩ := x
  intro increment pool
  have hsame : s.own = (s.pooled pool).own := rfl
  cases request with
  | load clock =>
      refine ⟨rfl, runFrom_bind_alike ?_ fun _ => .pure ()⟩
      rw [e.loadRules_pooled increment pool clock s log]
      exact ⟨rfl, rfl⟩
  | batch clock rules payload input =>
      exact alike_discard (evaluateGiven_alike rules payload input s _ hsame log log)
  | evaluation clock payload input =>
      exact alike_discard (evaluate_alike increment pool payload input s log)
  | event clock payload input =>
      exact alike_discard (processEvent_alike increment pool payload input s log)
  | actions clock given =>
      exact ⟨rfl, Alike.of_ends (e.executeActions_own clock given ())
        ((e.countingBy increment).executeActions_own clock given ()) s _ hsame log log⟩
  | drain clock =>
      exact ⟨rfl, Alike.of_ends (fun s => (e.drain_ends clock s).mono fun _ _ h => ⟨h.1, h.2.1⟩)
        (fun s => ((e.countingBy increment).drain_ends clock s).mono fun _ _ h => ⟨h.1, h.2.1⟩)
        s _ hsame log log⟩
  | resetStatistics clock =>
      have hreset : Alike EngineState.own (e.serve (.resetStatistics clock))
          ((e.countingBy increment).serve (.resetStatistics clock)) :=
        .bind (.ofExcept clock.now) fun now =>
          .modify fun s t hst => EngineState.own_congr hst fun _ => rfl
      exact ⟨rfl, hreset s _ hsame log log⟩
  | clearCache => exact ⟨rfl, rfl, rfl⟩
  | close => exact ⟨rfl, rfl, rfl⟩
  | outside change => exact ⟨rfl, rfl, rfl⟩

end Exchange

/-! ### Runs -/

/-- The exchanges of a run, in their order. -/
def exchanges (e : Engine ω) (s : EngineState ω) (log : Log) : List (Request ω) → List (Exchange ω)
  | [] => []
  | request :: rest =>
    let x : Exchange ω := ⟨request, s, log⟩
    x :: e.exchanges (x.ending e).state (x.ending e).log rest

def sinceReset (exchanges : List (Exchange ω)) : List (Exchange ω) :=
  exchanges.rtakeWhile fun x => !x.request.resets

/-- The statistics are the sums over some exchanges. -/
structure Tallies (e : Engine ω) (statistics : Statistics) (counted : List (Exchange ω)) :
    Prop where
  /-- All rules of the batches that were run to their ends. -/
  total : statistics.total = (counted.map fun x => x.size e).sum
  /-- All results that triggered. -/
  triggered : statistics.triggered =
    (counted.map fun x => ((x.results e).filter (·.triggered)).length).sum
  /-- All rules without a result, and the evaluations that failed as a whole. -/
  errors : statistics.errors =
    (counted.map fun x => x.size e - (x.results e).length).sum + counted.countP (·.fails e)

theorem Tallies.concat {statistics statistics' : Statistics} {counted : List (Exchange ω)}
    {x : Exchange ω} (h : e.Tallies statistics counted)
    (hcounted : Counted (x.size e) (x.results e) (if x.fails e then 1 else 0) statistics
      statistics') : e.Tallies statistics' (counted ++ [x]) where
  total := by
    rw [hcounted.total, h.total, List.map_append, List.sum_append, List.map_singleton,
      List.sum_singleton]
  triggered := by
    rw [hcounted.triggered, h.triggered, List.map_append, List.sum_append, List.map_singleton,
      List.sum_singleton]
  errors := by
    rw [hcounted.errors, h.errors, List.map_append, List.sum_append, List.map_singleton,
      List.sum_singleton, List.countP_append, List.countP_singleton]
    omega

/-- An exchange keeps the tally: it is one of those counted, or none are any longer. -/
theorem tallies_ending {before : List (Exchange ω)} {x : Exchange ω}
    (hclock : x.request.TellsTime) (h : e.Tallies x.state.statistics (sinceReset before)) :
    e.Tallies (x.ending e).state.statistics (sinceReset (before ++ [x])) := by
  unfold sinceReset at h ⊢
  rw [List.rtakeWhile_concat]
  cases hresets : x.request.resets with
  | false => exact h.concat ((x.accounted e hclock).2 hresets)
  | true =>
      obtain ⟨now, hnow⟩ := Exchange.statistics_reset e hclock hresets
      rw [hnow]
      exact ⟨rfl, rfl, rfl⟩

theorem runFrom_serveAll_cons (e : Engine ω) (request : Request ω) (rest : List (Request ω))
    (s : EngineState ω) (log : Log) :
    let x : Exchange ω := ⟨request, s, log⟩
    (e.serveAll (request :: rest)).runFrom s log =
      (e.serveAll rest).runFrom (x.ending e).state (x.ending e).log := rfl

/-- A run keeps the tally: induction on the requests. -/
theorem tallies_serveAll {requests : List (Request ω)}
    (hclock : ∀ request ∈ requests, request.TellsTime) (before : List (Exchange ω))
    (s : EngineState ω) (log : Log) (h : e.Tallies s.statistics (sinceReset before)) :
    e.Tallies ((e.serveAll requests).runFrom s log).state.statistics
      (sinceReset (before ++ e.exchanges s log requests)) := by
  induction requests generalizing before s log with
  | nil => rwa [exchanges, List.append_nil]
  | cons request rest ih =>
      obtain ⟨hrequest, hrest⟩ := List.forall_mem_cons.mp hclock
      rw [runFrom_serveAll_cons, exchanges, List.append_cons]
      exact ih hrest _ _ _ (tallies_ending hrequest h)

theorem tellsTime_of_mem {requests : List (Request ω)}
    (hclock : ∀ request ∈ requests, request.TellsTime) {s : EngineState ω} {log : Log}
    {x : Exchange ω} (h : x ∈ e.exchanges s log requests) : x.request.TellsTime := by
  induction requests generalizing s log with
  | nil => cases h
  | cons request rest ih =>
      obtain ⟨hrequest, hrest⟩ := List.forall_mem_cons.mp hclock
      rcases List.mem_cons.mp h with rfl | h
      · exact hrequest
      · exact ih hrest h

/-- An engine whose source hands out a rule and something that is none, and fails to count
triggers. -/
def miscounting : Engine Unit :=
  { lookingUp (codeIn [.int 1, .int 2]) with
    source := some {
      fetch := fun _ _ _ => pure (.entries [.rule (codeIn [.int 1, .int 2]), .document (.int 5)])
      increment := some fun _ => throw .unsupported } }

/-- Two batches since a reset, the second of them with a closed pool, and one that is lost for
a rule whose id is too large to be written. -/
def reckoning : List (Request Unit) :=
  let payload := Payload.ofValue (.object [("code", .int 2)])
  let unnamed : RuleInput := .document (.object [("id", .int (10 ^ Numeral.digitLimit))])
  [.evaluation {} payload (.document .null), .drain {}, .resetStatistics {},
    .event {} payload (.document .null), .close,
    .batch {} (.entries [.rule (codeIn [.int 1, .int 2])]) payload (.document .null),
    .batch {} (.entries [.rule (codeIn [.int 1, .int 2]), unnamed]) payload (.document .null)]

end AlertRules.Engine
