import AlertRules.Proofs.Engine.Processing

/-!
One event at two times.

The clock stamps what is evaluated, and that is all it does. Two
evaluations of one event, at times that the calendar has, have the same
results but for the stamps (`Engine.resultsOf_stamped`), and what settles
a result settles it whatever its stamps are
(`Executor.absorbs_stamped`).
-/

namespace AlertRules

def EvaluationContext.stamped (c : EvaluationContext) (t : Moment) : EvaluationContext :=
  { c with timestamp := t }

def EvaluationResult.stamped (r : EvaluationResult) (t : Moment) : EvaluationResult :=
  { r with evaluatedAt := t, context := r.context.map (·.stamped t) }

def Part.stamped (p : Part EvaluationContext) (t : Moment) : Part EvaluationContext :=
  match p with
  | .absent => .absent
  | .held c => .held (c.stamped t)
  | .foreign => .foreign

def Submission.stamped (s : Submission) (t : Moment) : Submission :=
  { s with context := s.context.stamped t }

theorem Submission.ofResult_stamped (r : EvaluationResult) (t : Moment) :
    Submission.ofResult (r.stamped t) = (Submission.ofResult r).stamped t := by
  obtain ⟨ruleId, ruleName, triggered, severity, condition, title, message, actions, metadata, at_,
    context⟩ := r
  cases context <;> rfl

/-! ### Contexts -/

theorem EvaluationContext.ofParts_stamped (data : Schema.Checked Object) (now now' t : Moment)
    (o : Object) :
    (·.stamped t) <$> ofParts data (.ok now') o = (·.stamped t) <$> ofParts data (.ok now) o := by
  unfold ofParts
  cases Schema.required Schema.reference "organization_id" o <;>
    cases Schema.optional (Schema.nullable Schema.text) "module_name" none o <;>
    cases data <;>
    cases Schema.optional (Schema.nullable Schema.reference) "user_id" none o <;>
    cases Schema.optional (Schema.nullable Schema.object) "metadata" none o <;>
    cases Schema.optional (Schema.nullable Schema.reference) "entity_id" none o <;> rfl

namespace Engine

variable {ω : Type} {e : Engine ω} {clock clock' : Clock} {now now' : Moment}

def tableContext (e : Engine ω) (now : Moment) (payload : Payload) (table : Table) :
    Schema.Checked EvaluationContext :=
  let fields := e.contextFields table payload
  Schema.legibleNames fields <|
    (fun c () => c) <$> EvaluationContext.ofParts payload.checked
        (Schema.optional Schema.moment "timestamp" now fields) fields <*>
      Schema.noKeys .invalidKey [] table.otherKeys

theorem readContext_eq (hnow : clock.now = .ok now) (payload : Payload) (table : Table) :
    e.readContext clock payload table = .ok (e.tableContext now payload table) := by
  unfold readContext tableContext Schema.givenOr Schema.optional
  rw [hnow]
  dsimp only
  cases (e.contextFields table payload).get? "timestamp" <;> rfl

theorem tableContext_stamped (e : Engine ω) (now now' t : Moment) (payload : Payload)
    (table : Table) :
    (·.stamped t) <$> e.tableContext now' payload table =
      (·.stamped t) <$> e.tableContext now payload table := by
  unfold tableContext Schema.legibleNames Schema.optional
  dsimp only
  split
  · rfl
  · cases (e.contextFields table payload).get? "timestamp" with
    | some v => rfl
    | none =>
        -- no time is given, and the clock fills it in
        have hparts := EvaluationContext.ofParts_stamped payload.checked now now' t
          (e.contextFields table payload)
        dsimp only
        generalize EvaluationContext.ofParts payload.checked (.ok now') _ = parts' at hparts ⊢
        generalize EvaluationContext.ofParts payload.checked (.ok now) _ = parts at hparts ⊢
        cases Schema.noKeys .invalidKey [] table.otherKeys with
        | ok =>
            cases parts <;> cases parts' <;> exact hparts
        | bad issues =>
            cases parts <;> cases parts' <;> first | rfl | (cases hparts; rfl) | cases hparts

theorem contextOf_stamped (hnow : clock.now = .ok now) (hnow' : clock'.now = .ok now')
    (payload : Payload) (input : ContextInput) :
    ∃ c c', e.contextOf clock payload input = .ok c ∧ e.contextOf clock' payload input = .ok c' ∧
      ∀ t, c'.stamped t = c.stamped t := by
  have htable : ∀ table, ∃ c c', e.contextOf clock payload (.table table) = .ok c ∧
      e.contextOf clock' payload (.table table) = .ok c' ∧ ∀ t, c'.stamped t = c.stamped t := by
    intro table
    unfold contextOf checkContext
    dsimp only
    rw [readContext_eq hnow, readContext_eq hnow', hnow, hnow']
    have hstamped := fun t => e.tableContext_stamped now now' t payload table
    generalize e.tableContext now payload table = x at hstamped
    generalize e.tableContext now' payload table = x' at hstamped
    cases x with
    | ok c =>
        cases x' with
        | ok c' => exact ⟨c, c', rfl, rfl, fun t => Schema.Checked.ok.inj (hstamped t)⟩
        | bad issues' => cases hstamped now
    | bad issues =>
        cases x' with
        | ok c' => cases hstamped now
        | bad issues' => exact ⟨_, _, rfl, rfl, fun _ => rfl⟩
  cases input with
  | checked c =>
      -- a context that is given as one has its own time
      unfold contextOf checkContext
      dsimp only
      cases e.contextOver c payload with
      | ok c => exact ⟨c, c, rfl, rfl, fun _ => rfl⟩
      | bad issues =>
          rw [hnow, hnow']
          exact ⟨_, _, rfl, rfl, fun _ => rfl⟩
  | table table => exact htable table
  | document v =>
      -- a document is looked at as a table, an empty one if it is no object
      cases v with
      | object fields => exact htable (.ofObject fields)
      | _ => exact htable []

/-! ### Results -/

theorem quietResult_stamped (rule : Rule) (now t : Moment) (c : EvaluationContext) :
    (quietResult rule now c).stamped t = quietResult rule t (c.stamped t) := rfl

theorem triggeredResult_stamped (rule : Rule) (now t : Moment) (c : EvaluationContext)
    (wording : Wording) :
    (triggeredResult rule now c wording).stamped t =
      triggeredResult rule t (c.stamped t) wording := rfl

theorem assess_stamped (hnow : clock.now = .ok now) (hnow' : clock'.now = .ok now')
    {c c' : EvaluationContext} {t : Moment} (hcontext : c'.stamped t = c.stamped t) (rule : Rule)
    (data : Value) :
    (e.assess clock' rule data c').map (·.stamped t) =
      (e.assess clock rule data c).map (·.stamped t) := by
  unfold assess
  rw [hnow, hnow']
  cases e.verdict rule data with
  | error fault => rfl
  | ok met =>
      cases met with
      | false =>
          show Except.ok ((quietResult rule now' c').stamped t) =
            Except.ok ((quietResult rule now c).stamped t)
          rw [quietResult_stamped, quietResult_stamped, hcontext]
      | true =>
          cases e.wording rule data with
          | error fault => rfl
          | ok wording =>
              show Except.ok ((triggeredResult rule now' c' wording).stamped t) =
                Except.ok ((triggeredResult rule now c wording).stamped t)
              rw [triggeredResult_stamped, triggeredResult_stamped, hcontext]

theorem assessEntry_stamped (hnow : clock.now = .ok now) (hnow' : clock'.now = .ok now')
    {c c' : EvaluationContext} {t : Moment} (hcontext : c'.stamped t = c.stamped t) (data : Value)
    (entry : RuleInput) :
    (e.assessEntry clock' data c' entry).map (·.stamped t) =
      (e.assessEntry clock data c entry).map (·.stamped t) := by
  unfold assessEntry
  cases ruleOf entry with
  | error fault => rfl
  | ok rule => exact assess_stamped hnow hnow' hcontext rule data

theorem outcomeOf_stamped (hnow : clock.now = .ok now) (hnow' : clock'.now = .ok now')
    {c c' : EvaluationContext} {t : Moment} (hcontext : c'.stamped t = c.stamped t) (data : Value)
    (entry : RuleInput) :
    (e.outcomeOf clock' data c' entry).map (Option.map (·.stamped t)) =
      (e.outcomeOf clock data c entry).map (Option.map (·.stamped t)) := by
  have hassess := assessEntry_stamped (e := e) hnow hnow' hcontext data entry
  unfold outcomeOf
  cases hresult : e.assessEntry clock data c entry with
  | error fault =>
      cases hresult' : e.assessEntry clock' data c' entry with
      | error fault' => rfl
      | ok r' => rw [hresult, hresult'] at hassess; cases hassess
  | ok r =>
      cases hresult' : e.assessEntry clock' data c' entry with
      | error fault' => rw [hresult, hresult'] at hassess; cases hassess
      | ok r' =>
          rw [hresult, hresult'] at hassess
          exact congrArg (Except.map some) hassess

theorem resultsOf_stamped (hnow : clock.now = .ok now) (hnow' : clock'.now = .ok now')
    (rules : RuleSet) (payload : Payload) (input : ContextInput) (t : Moment) :
    (e.resultsOf rules clock' payload input).map (·.stamped t) =
      (e.resultsOf rules clock payload input).map (·.stamped t) := by
  obtain ⟨c, c', hc, hc', hcontext⟩ := contextOf_stamped (e := e) hnow hnow' payload input
  unfold resultsOf batchOf
  cases e.entriesOf rules with
  | error fault => rfl
  | ok entries =>
      rw [hc, hc', hnow, hnow']
      have houtcomes : (entries.mapM (e.outcomeOf clock' payload.value c')).map
          (List.map (Option.map (·.stamped t))) =
            (entries.mapM (e.outcomeOf clock payload.value c)).map
              (List.map (Option.map (·.stamped t))) := by
        rw [map_mapM, map_mapM]
        exact congrArg entries.mapM
          (funext (outcomeOf_stamped hnow hnow' (hcontext t) payload.value))
      dsimp only [bind, Except.bind]
      generalize entries.mapM (e.outcomeOf clock payload.value c) = outcomes at houtcomes
      generalize entries.mapM (e.outcomeOf clock' payload.value c') = outcomes' at houtcomes
      cases outcomes with
      | error fault =>
          cases outcomes' with
          | error fault' => rfl
          | ok results' => cases houtcomes
      | ok results =>
          cases outcomes' with
          | error fault' => cases houtcomes
          | ok results' =>
              show results'.reduceOption.map _ = results.reduceOption.map _
              rw [← List.reduceOption_map, ← List.reduceOption_map]
              exact congrArg List.reduceOption (Except.ok.inj houtcomes)

end Engine

/-! ### Submissions -/

namespace Executor

variable {ω : Type} {e : Executor ω}

theorem buildAlert_stamped (clock : Clock) (s : Submission) (t : Moment)
    (organizationId fingerprint : Value) :
    e.buildAlert clock (s.stamped t) organizationId fingerprint =
      e.buildAlert clock s organizationId fingerprint := by
  obtain ⟨ruleId, triggered, severity, title, message, metadata, actions, context⟩ := s
  cases context <;> rfl

/-- The times of a submission do not matter to whether it is settled. -/
theorem absorbs_stamped {alerts : List StoredAlert} {s : Submission} {t : Moment} :
    e.Absorbs alerts (s.stamped t) ↔ e.Absorbs alerts s := by
  unfold Absorbs
  simp only [buildAlert_stamped]
  obtain ⟨ruleId, triggered, severity, title, message, metadata, actions, context⟩ := s
  cases context with
  | absent => exact Iff.rfl
  | foreign => exact Iff.rfl
  | held c =>
      constructor
      · rintro h _ fingerprint ⟨⟩ hfingerprint
        exact h (some (c.stamped t)) fingerprint rfl hfingerprint
      · rintro h _ fingerprint ⟨⟩ hfingerprint
        exact h (some c) fingerprint rfl hfingerprint

end Executor

def EvaluationResult.triggeredIds (results : List EvaluationResult) : List String :=
  (results.filter (·.triggered)).map (·.ruleId)

namespace EvaluationResult

variable {results results' : List EvaluationResult} {t : Moment}

theorem triggered_stamped (results : List EvaluationResult) (t : Moment) :
    (results.map (·.stamped t)).filter (·.triggered) =
      (results.filter (·.triggered)).map (·.stamped t) := by
  rw [List.filter_map]
  rfl

theorem triggeredIds_of_stamped (h : results'.map (·.stamped t) = results.map (·.stamped t)) :
    triggeredIds results' = triggeredIds results := by
  have hids : ∀ results : List EvaluationResult,
      triggeredIds (results.map (·.stamped t)) = triggeredIds results := by
    intro results
    rw [triggeredIds, triggered_stamped, List.map_map]
    rfl
  rw [← hids results', h, hids]

theorem submissions_of_stamped (h : results'.map (·.stamped t) = results.map (·.stamped t)) :
    (submissions results').map (·.stamped t) = (submissions results).map (·.stamped t) := by
  have hsubmissions : ∀ results : List EvaluationResult,
      submissions (results.map (·.stamped t)) = (submissions results).map (·.stamped t) := by
    intro results
    rw [submissions, triggered_stamped, List.map_map, submissions, List.map_map]
    exact List.map_congr_left fun r _ => Submission.ofResult_stamped r t
  rw [← hsubmissions, h, hsubmissions]

end EvaluationResult

end AlertRules
