import AlertRules.Engine.Evaluation
import AlertRules.Proofs.Action
import Mathlib.Data.List.ReduceOption

/-!
The tally of a batch.

A batch is tallied as it is gone through: the result of an entry is taken down, a
trigger is counted and handed to the pool, all in one attempt, and what goes wrong
there is an error. An entry might so be counted twice, by its result and as an error.
It is not, since nothing fails once a result is there (`takeDown_eq`). So an entry can be
settled by itself, and what it comes to be noted afterwards (`evaluateEntry_eq`,
`evaluateRules_eq`).
-/

namespace AlertRules

open AlertRules.Action

namespace Engine

variable {ω : Type}

theorem scheduleIncrement_succeeds (e : Engine ω) (ruleId : String) :
    (e.scheduleIncrement ruleId).Succeeds := by
  have hsubmit : (EngineState.atDesk (Desk.submit (.increment ruleId)) :
      Action (EngineState ω) Bool).Succeeds := by
    rintro ⟨⟨world, isClosed, jobs⟩, cache, sets, statistics⟩ log
    cases isClosed <;> exact ⟨_, rfl⟩
  unfold scheduleIncrement
  split
  · exact .pure _
  · refine .bind hsubmit fun taken => ?_
    split
    · exact .record _ _
    · exact .pure _

/-! ### Entries by themselves -/

/-- Evaluates the rule that an entry is, and has its trigger counted. -/
def settleRule (e : Engine ω) (clock : Clock) (data : Value) (context : EvaluationContext)
    (entry : RuleInput) : Action (EngineState ω) EvaluationResult := do
  let rule ← Action.ofExcept (ruleOf entry)
  let result ← e.evaluateRule clock rule data context
  if result.triggered then
    e.scheduleIncrement rule.id
    pure result
  else pure result

/-- Says that an entry failed, if it can be named. -/
def complain {σ : Type} (entry : RuleInput) (fault : Fault) : Action σ Unit := do
  Action.error ("Error evaluating rule " ++ (← Action.ofExcept (idOf entry).display) ++ ": " ++
    fault.message)

/-- Evaluates an entry. It has a result, or it has none and that is said. -/
def settle (e : Engine ω) (clock : Clock) (data : Value) (context : EvaluationContext)
    (entry : RuleInput) : Action (EngineState ω) (Option EvaluationResult) := do
  match ← (e.settleRule clock data context entry).attempt with
  | .ok result => pure (some result)
  | .error fault =>
    complain entry fault
    pure none

/-- Evaluates entries one after the other. -/
def settleAll (e : Engine ω) (clock : Clock) (data : Value) (context : EvaluationContext) :
    List RuleInput → Action (EngineState ω) (List (Option EvaluationResult))
  | [] => pure []
  | entry :: rest => do
    let result ← e.settle clock data context entry
    let results ← e.settleAll clock data context rest
    pure (result :: results)

namespace Tally

def note (t : Tally) : Option EvaluationResult → Tally
  | some r =>
    { t with results := t.results ++ [r], triggered := t.triggered + r.triggered.toNat }
  | none => { t with errors := t.errors + 1 }

end Tally

/-! ### Tallied entries -/

theorem runFrom_aside {α : Type} (a : Action (EngineState ω) α) (s : EngineState ω) (t : Tally)
    (log : Log) :
    (Tally.aside a).runFrom (s, t) log =
      ⟨(a.runFrom s log).outcome, ((a.runFrom s log).state, t), (a.runFrom s log).log⟩ := rfl

theorem aside_bind {α β : Type} (a : Action (EngineState ω) α) (f : α → Action (EngineState ω) β) :
    Tally.aside (a >>= f) = Tally.aside a >>= fun x => Tally.aside (f x) :=
  within_bind Prod.fst (fun s t => (t, s.2)) (fun _ _ => rfl) (fun _ _ _ => rfl) a f

theorem aside_ofExcept {α : Type} (x : Except Fault α) :
    Tally.aside (Action.ofExcept x : Action (EngineState ω) α) = Action.ofExcept x :=
  within_ofExcept Prod.fst (fun s t => (t, s.2)) (fun _ => rfl) x

variable (e : Engine ω) (clock : Clock) (data : Value) (context : EvaluationContext)

/-- Taking a result down and having its trigger counted does not fail, so the result can
as well be noted in the end. -/
theorem takeDown_eq (r : EvaluationResult) (ruleId : String) :
    (do
      Tally.add r
      if r.triggered then
        Tally.countTrigger
        Tally.aside (e.scheduleIncrement ruleId)
      : Action (EngineState ω × Tally) Unit) = (do
        let result ← Tally.aside (if r.triggered then do
            e.scheduleIncrement ruleId
            pure r
          else pure r)
        modify fun s => (s.1, s.2.note (some result))) := by
  refine Action.ext fun (s, t) log => ?_
  obtain ⟨⟨⟩, hschedule⟩ := e.scheduleIncrement_succeeds ruleId s log
  cases htriggered : r.triggered with
  | false =>
      have hnote : t.note (some r) = { t with results := t.results ++ [r] } := by
        simp [Tally.note, htriggered]
      show (⟨.ok (), (s, { t with results := t.results ++ [r] }), log⟩ : Ending _ Unit) =
        ⟨.ok (), (s, t.note (some r)), log⟩
      rw [hnote]
  | true =>
      have hnote : t.note (some r) =
          { t with results := t.results ++ [r], triggered := t.triggered + 1 } := by
        simp [Tally.note, htriggered]
      let x := (e.scheduleIncrement ruleId).runFrom s log
      have hcounted : (do
          e.scheduleIncrement ruleId
          pure r : Action (EngineState ω) EvaluationResult).runFrom s log =
            ⟨.ok r, x.state, x.log⟩ := by
        rw [runFrom_bind, hschedule]
        rfl
      simp only [if_true]
      rw [runFrom_bind (Tally.aside _), runFrom_aside, hcounted]
      show (⟨x.outcome, (x.state, { t with results := t.results ++ [r], triggered := _ }), x.log⟩ :
        Ending _ Unit) = ⟨.ok (), (x.state, t.note (some r)), x.log⟩
      rw [hschedule, hnote]

theorem tallyRule_eq (entry : RuleInput) :
    e.tallyRule clock data context entry = (do
      let result ← Tally.aside (e.settleRule clock data context entry)
      modify fun s => (s.1, s.2.note (some result))) := by
  rw [tallyRule, settleRule, aside_bind, aside_ofExcept, bind_assoc]
  refine bind_congr fun rule => ?_
  rw [aside_bind, bind_assoc]
  exact bind_congr fun result => takeDown_eq e result rule.id

/-- An entry is settled, and what it came to is noted. -/
theorem evaluateEntry_eq (entry : RuleInput) :
    e.evaluateEntry clock data context entry = (do
      let result ← Tally.aside (e.settle clock data context entry)
      modify fun s => (s.1, s.2.note result)) := by
  refine Action.ext fun (s, t) log => ?_
  rw [evaluateEntry, settle, tallyRule_eq, runFrom_bind, runFrom_bind, runFrom_attempt,
    runFrom_bind, runFrom_aside, runFrom_aside, runFrom_bind, runFrom_attempt]
  generalize (e.settleRule clock data context entry).runFrom s log = settled
  obtain ⟨outcome, s', log'⟩ := settled
  cases outcome with
  | ok r => rfl
  | error fault =>
      unfold complain
      cases (idOf entry).display with
      | ok text => rfl
      | error fault => rfl

/-- What is noted of an entry is in the tally that the rest begin with. -/
theorem beside_noted (a : Action (EngineState ω) (Option EvaluationResult))
    (rest : Action (EngineState ω × Tally) Unit) (t : Tally) :
    (do
      let result ← Tally.aside a
      modify fun s : EngineState ω × Tally => (s.1, s.2.note result)
      rest).beside t = (do
        let result ← a
        rest.beside (t.note result)) := by
  refine Action.ext fun s log => ?_
  rw [runFrom_beside, runFrom_bind, runFrom_bind, runFrom_aside]
  generalize a.runFrom s log = ending
  obtain ⟨outcome, s', log'⟩ := ending
  cases outcome with
  | ok result => rfl
  | error fault => rfl

/-- Entries that are gone through beside a tally are settled, and what they came to is
noted: induction on the entries. -/
theorem beside_evaluateEntries (entries : List RuleInput) (t : Tally) :
    (e.evaluateEntries clock data context entries).beside t = (do
      let outcomes ← e.settleAll clock data context entries
      pure (outcomes.foldl Tally.note t)) := by
  induction entries generalizing t with
  | nil => rfl
  | cons entry rest ih =>
      rw [evaluateEntries, evaluateEntry_eq, bind_assoc, beside_noted, settleAll, bind_assoc]
      refine bind_congr fun result => ?_
      rw [ih, bind_assoc]
      rfl

theorem results_foldl (outcomes : List (Option EvaluationResult)) (t : Tally) :
    (outcomes.foldl Tally.note t).results = t.results ++ outcomes.reduceOption := by
  induction outcomes generalizing t with
  | nil => exact (List.append_nil _).symm
  | cons result rest ih =>
      rw [List.foldl_cons, ih]
      cases result with
      | none => rfl
      | some r => simp [Tally.note, List.reduceOption_cons_of_some]

theorem evaluateRules_eq (entries : List RuleInput) (payload : Payload) (input : ContextInput) :
    e.evaluateRules clock entries payload input = (do
      let context ← e.buildContext clock payload input
      let outcomes ← e.settleAll clock payload.value context entries
      countBatch entries.length (outcomes.foldl Tally.note {})
      stampBatch clock
      pure outcomes.reduceOption) := by
  unfold evaluateRules
  refine bind_congr fun context => ?_
  rw [beside_evaluateEntries, bind_assoc]
  refine bind_congr fun outcomes => ?_
  rw [pure_bind, results_foldl]
  rfl

end Engine

end AlertRules
