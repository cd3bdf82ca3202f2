import AlertRules.Proofs.Engine.Isolation

/-!
Rules that are there, and what comes of them.

Rules are there for a batch if they were loaded lately or the source hands them
out now (`Obtained`). Then they are loaded, and an evaluation returns what they
come to (`evaluate_outcome`). If none are there the evaluation returns as well, and if
their batch is lost: an engine does not fail, whatever its source, its channels and its
background do, and a fault counts as no results.
-/

namespace AlertRules

open AlertRules.Action

/-- Executing does not fail, if the rules of what failed can be named. -/
theorem Executor.execute_succeeds {ω : Type} (e : Executor ω) (clock : Clock)
    {submissions : List Submission} (hrules : ∀ s ∈ submissions, s.ruleId.hasText = true) :
    (e.execute clock submissions).Succeeds := by
  induction submissions with
  | nil => exact .pure _
  | cons submission rest ih =>
      obtain ⟨hrule, hrest⟩ := List.forall_mem_cons.mp hrules
      unfold execute
      split
      · exact ih hrest
      · refine .bind (.attempt _) fun outcome => ?_
        cases outcome with
        | ok id => exact .bind (ih hrest) fun _ => .pure _
        | error fault =>
            exact fun _ => .bind_written hrule (Succeeds.bind (.record _ _) (fun _ => ih hrest) _)

namespace Engine

variable {ω : Type} {e : Engine ω} {clock : Clock}

theorem evaluate_succeeds (e : Engine ω) (clock : Clock) (payload : Payload)
    (input : ContextInput) :
    (e.evaluate clock payload input).Succeeds := by
  refine .bind (.attempt _) fun outcome => ?_
  cases outcome with
  | ok results => exact .pure _
  | error fault => exact .bind (.record _ _) fun _ => .bind (.modify _) fun _ => .pure _

theorem executeActions_succeeds (e : Engine ω) (clock : Clock)
    (results : List EvaluationResult) : (e.executeActions clock results).Succeeds :=
  fun s log => e.executor.execute_succeeds clock (EvaluationResult.hasText_submissions results)
    s.desk log

theorem processEvent_succeeds (e : Engine ω) (clock : Clock) (payload : Payload)
    (input : ContextInput) : (e.processEvent clock payload input).Succeeds :=
  .bind (e.evaluate_succeeds clock payload input) fun results =>
    .bind (e.executeActions_succeeds clock results) fun _ => .pure _

/-- Processing an event does not fail, and it has the results of the evaluation. -/
theorem processEvent_outcome (payload : Payload) (input : ContextInput) (s : EngineState ω)
    (log : Log) :
    ((e.processEvent clock payload input).runFrom s log).outcome =
      ((e.evaluate clock payload input).runFrom s log).outcome := by
  obtain ⟨results, hresults⟩ := e.evaluate_succeeds clock payload input s log
  obtain ⟨ids, hids⟩ := e.executeActions_succeeds clock results
    ((e.evaluate clock payload input).runFrom s log).state
    ((e.evaluate clock payload input).runFrom s log).log
  rw [processEvent, runFrom_bind_ok hresults, runFrom_bind_ok hids, hresults]
  rfl

/-- Rules are there for a batch: they are fresh, or the source hands them out. -/
inductive Obtained (e : Engine ω) (clock : Clock) (s : EngineState ω) (log : Log)
    (rules : List RuleInput) : Prop where
  | kept (h : e.cachedRules clock s = .ok (some rules))
  | fetched (source : RuleSource ω) (found : RuleSet) (hstale : e.cachedRules clock s = .ok none)
      (hsource : e.source = some source)
      (hfetch : ((e.fetchRules source).runFrom s log).outcome = .ok found)
      (hlist : found.toList = .ok rules)

theorem Obtained.loaded {s : EngineState ω} {log : Log} {rules : List RuleInput}
    (h : e.Obtained clock s log rules) :
    ((e.loadRules clock).runFrom s log).outcome = .ok rules := by
  obtain ⟨outcome, s', houtcome, hloads⟩ : ∃ outcome s',
      ((e.loadRules clock).runFrom s log).outcome = outcome ∧ e.Loads clock s log outcome s' :=
    ⟨_, _, rfl, e.loadRules_loads clock s log⟩
  rw [houtcome]
  cases h with
  | kept h =>
      rcases hloads with hkept | hageless | ⟨hstale, -⟩ | ⟨hstale, -⟩
      · cases h.symm.trans hkept
        rfl
      · cases h.symm.trans hageless
      · cases h.symm.trans hstale
      · cases h.symm.trans hstale
  | fetched source found h hsource hfetch hlist =>
      rcases hloads with hkept | hageless | ⟨-, hnone⟩ | ⟨-, hasked, hanswer, hanswers⟩
      · cases h.symm.trans hkept
      · cases h.symm.trans hageless
      · cases hsource.symm.trans hnone
      · cases hsource.symm.trans hasked
        cases hanswer.symm.trans hfetch
        cases hanswers with
        | listed hlist' => exact hlist'.symm.trans hlist
        | unlisted hlist' => exact hlist'.symm.trans hlist

/-- At a time that the calendar has, a batch of rules that can be named does not fail. -/
theorem evaluateRules_succeeds {now : Moment} (hnow : clock.now = .ok now)
    {entries : List RuleInput} (hnamed : ∀ entry ∈ entries, (idOf entry).hasText = true)
    (payload : Payload) (input : ContextInput) :
    (e.evaluateRules clock entries payload input).Succeeds := by
  intro s log
  obtain ⟨-, ⟨houtcome, -⟩ | ⟨-, ⟨entry, hentry, htext⟩, -⟩⟩ :=
    evaluateRules_counted (e := e) hnow entries payload input s log
  · exact ⟨_, houtcome⟩
  · cases (hnamed entry hentry).symm.trans htext

/-- What loaded rules come to: nothing if there are none or their batch is lost, or else the
results of the batch. -/
theorem evaluate_outcome (payload : Payload) (input : ContextInput) {s : EngineState ω} {log : Log}
    {rules : List RuleInput} (hloaded : ((e.loadRules clock).runFrom s log).outcome = .ok rules) :
    let loaded := (e.loadRules clock).runFrom s log
    let batch := (e.evaluateRules clock rules payload input).runFrom loaded.state loaded.log
    ((e.evaluate clock payload input).runFrom s log).outcome =
      .ok (if rules.isEmpty then [] else batch.outcome.toOption.getD []) := by
  intro loaded batch
  -- the evaluation hands on what the evaluation of the loaded rules returns
  have hattempt : ((e.evaluate clock payload input).runFrom s log).outcome =
      .ok (((e.evaluateLoaded clock payload input).runFrom s log).outcome.toOption.getD []) := by
    rw [evaluate, runFrom_bind_ok rfl, runFrom_attempt]
    dsimp only
    cases ((e.evaluateLoaded clock payload input).runFrom s log).outcome <;> rfl
  rw [hattempt, evaluateLoaded, runFrom_bind_ok hloaded]
  cases rules.isEmpty with
  | true => cases e.isDebug <;> rfl
  | false =>
      simp only [Bool.false_eq_true, if_false]
      rw [runFrom_bind]
      cases batch.outcome with
      | error fault => rfl
      | ok results => cases e.isDebug <;> rfl

end Engine

end AlertRules
