import AlertRules.Proofs.Engine.Times

/-!
What a batch counts.

The rules of a batch change nothing but the pool and the cached sets
(`settleAll_leaves`). Each entry that is gone through keeps the tally in balance
(`evaluateEntry_balanced`), and so do all of them (`evaluateEntries_balanced`): every
rule has a result or is counted as an error, and one increment is handed to the pool for
each result that triggered, if the source counts triggers and the pool is open. A batch
is counted when it comes to its end. It does not if a rule fails and cannot be named
(`evaluateRules_counted`).
-/

namespace AlertRules.Engine

open AlertRules.Action

variable {ω : Type} {e : Engine ω} {clock : Clock}

/-! ### What the rules of a batch leave alone -/

/-- A view of a state shows neither its pool nor its cached sets, which are all that the
rules of a batch change. -/
def Overlooks {β : Type} (view : EngineState ω → β) : Prop :=
  ∀ s pool sets, view { s with desk := { s.desk with pool }, sets } = view s

section Overlooks

variable {β : Type} {view : EngineState ω → β}

theorem scheduleIncrement_leaves
    (hpool : ∀ s pool, view { s with desk := { s.desk with pool } } = view s) (ruleId : String) :
    (e.scheduleIncrement ruleId).Leaves view := by
  have hsubmit : (EngineState.atDesk (Desk.submit (.increment ruleId)) :
      Action (EngineState ω) Bool).Leaves view := by
    rintro ⟨⟨world, isClosed, jobs⟩, cache, sets, statistics⟩ log
    cases isClosed with
    | false =>
        exact hpool ⟨⟨world, false, jobs⟩, cache, sets, statistics⟩
          ⟨false, jobs ++ [.increment ruleId]⟩
    | true => rfl
  unfold scheduleIncrement
  split
  · exact .pure _
  · refine .bind hsubmit fun taken => ?_
    split
    · exact .record _ _
    · exact .pure _

theorem evaluateRule_leaves (hsets : ∀ s sets, view { s with sets } = view s) (rule : Rule)
    (data : Value) (context : EvaluationContext) :
    (e.evaluateRule clock rule data context).Leaves view := by
  have hmeets : (e.meets rule data).Leaves view :=
    .bind (.ofExcept _) fun _ => .bind (.ofExcept _) fun _ => fun s _ => hsets s _
  refine .bind hmeets fun met => .bind (.ofExcept _) fun now => ?_
  cases met with
  | true => exact .bind (.ofExcept _) fun _ => .pure _
  | false => exact .pure _

variable (hview : Overlooks view)
include hview

theorem settle_leaves (data : Value) (context : EvaluationContext) (entry : RuleInput) :
    (e.settle clock data context entry).Leaves view := by
  have hrule : (e.settleRule clock data context entry).Leaves view := by
    refine .bind (.ofExcept _) fun rule =>
      .bind (evaluateRule_leaves (fun s => hview s s.desk.pool) rule data context) fun result => ?_
    split
    · exact .bind (scheduleIncrement_leaves (fun s pool => hview s pool s.sets) _) fun _ => .pure _
    · exact .pure _
  refine .bind (.attempt hrule) fun outcome => ?_
  cases outcome with
  | ok result => exact .pure _
  | error fault => exact .bind (.bind (.ofExcept _) fun _ => .record _ _) fun _ => .pure _

theorem settleAll_leaves (data : Value) (context : EvaluationContext)
    (entries : List RuleInput) :
    (e.settleAll clock data context entries).Leaves view := by
  induction entries with
  | nil => exact .pure _
  | cons entry rest ih =>
      exact .bind (settle_leaves hview data context entry) fun _ => .bind ih fun _ => .pure _

theorem evaluateRules_leaves (hcounts : ∀ s statistics, view { s with statistics } = view s)
    (entries : List RuleInput) (payload : Payload) (input : ContextInput) :
    (e.evaluateRules clock entries payload input).Leaves view := by
  have hcontext : (e.buildContext clock payload input : Action (EngineState ω) _).Leaves view :=
    fun s => (e.buildContext_ends clock payload input s).mono fun _ _ h => congrArg view h.2
  rw [evaluateRules_eq]
  exact .bind hcontext fun context => .bind (settleAll_leaves hview _ _ _) fun outcomes =>
    .bind (fun s _ => hcounts s _) fun _ =>
      .bind (.bind (.ofExcept _) fun now => fun s _ => hcounts s _) fun _ => .pure _

end Overlooks

theorem statistics_overlooks : Overlooks (EngineState.statistics : EngineState ω → Statistics) :=
  fun _ _ _ => rfl

/-! ### What is handed to the pool -/

/-- The increments that a pool takes for results: one for each that triggered, if triggers
are counted and the pool is open. -/
def increments (e : Engine ω) (pool : Pool) (results : List EvaluationResult) : List Job :=
  if (e.source.bind (·.increment)).isSome && !pool.isClosed then
    (EvaluationResult.triggeredIds results).map .increment
  else []

/-- The pool with the increments for results. -/
def handed (e : Engine ω) (pool : Pool) (results : List EvaluationResult) : Pool :=
  { pool with jobs := pool.jobs ++ e.increments pool results }

@[simp] theorem increments_nil (e : Engine ω) (pool : Pool) : e.increments pool [] = [] := by
  simp [increments, EvaluationResult.triggeredIds]

@[simp] theorem handed_nil (e : Engine ω) (pool : Pool) : e.handed pool [] = pool := by
  simp [handed]

theorem handed_append (e : Engine ω) (pool : Pool) (results more : List EvaluationResult) :
    e.handed (e.handed pool results) more = e.handed pool (results ++ more) := by
  unfold handed increments EvaluationResult.triggeredIds
  dsimp only
  split <;> simp

theorem handed_quiet {pool : Pool} {result : EvaluationResult} (h : result.triggered = false) :
    e.handed pool [result] = pool := by
  simp [handed, increments, EvaluationResult.triggeredIds, h]

theorem scheduleIncrement_hands {result : EvaluationResult} (h : result.triggered = true)
    (s : EngineState ω) :
    (e.scheduleIncrement result.ruleId).Ends s fun outcome s' =>
      outcome = .ok () ∧ s'.desk.pool = e.handed s.desk.pool [result] := by
  have hids : EvaluationResult.triggeredIds [result] = [result.ruleId] := by
    simp [EvaluationResult.triggeredIds, h]
  unfold scheduleIncrement handed increments
  rw [hids]
  cases e.source.bind (·.increment) with
  | none => exact .pure ⟨rfl, by simp⟩
  | some count =>
      have hsubmit : (EngineState.atDesk (Desk.submit (.increment result.ruleId))).Ends s
          fun outcome s' => ∃ taken, outcome = .ok taken ∧ s'.desk.pool = { s.desk.pool with
            jobs := s.desk.pool.jobs ++
              if (some count).isSome && !s.desk.pool.isClosed then [.increment result.ruleId]
              else [] } := by
        refine .within ((Desk.submit_ends _ s.desk).mono ?_)
        rintro _ d ⟨houtcome, -, hpool⟩
        refine ⟨_, houtcome, ?_⟩
        rw [hpool]
        cases s.desk.pool.isClosed <;> rfl
      refine .bind_returns hsubmit fun taken s' hpool => ?_
      split
      · exact .record ⟨rfl, hpool⟩
      · exact .pure ⟨rfl, hpool⟩

/-! ### The tally of a batch -/

/-- What comes of an entry: a result or none, with an increment if it triggered, or a
fault, if it fails and cannot be named. -/
theorem settle_hands (data : Value) (context : EvaluationContext) (entry : RuleInput)
    (s : EngineState ω) :
    (e.settle clock data context entry).Ends s fun outcome s' =>
      s'.statistics = s.statistics ∧
        ((∃ result, outcome = .ok result ∧
            s'.desk.pool = e.handed s.desk.pool result.toList) ∨
          outcome = .error .unwritable ∧ (idOf entry).hasText = false ∧
            s'.desk.pool = s.desk.pool) := by
  have hrule : (e.settleRule clock data context entry).Ends s fun outcome s' =>
      s'.desk.pool = e.handed s.desk.pool outcome.toOption.toList := by
    refine .bind_ofExcept (fun rule _ => ?_) fun fault _ => (e.handed_nil _).symm
    have hevaluated : (e.evaluateRule clock rule data context).Ends s fun outcome s₁ =>
        s₁.desk.pool = s.desk.pool ∧ ∀ r, outcome = .ok r → r.ruleId = rule.id :=
      ((evaluateRule_leaves (fun _ _ => rfl) rule data context s).and
        (e.evaluateRule_yields clock rule data context s trivial)).mono
          fun _ _ h => ⟨h.1, fun r hr => (h.2.2 r hr).1⟩
    refine .bind hevaluated ?_ fun fault s₁ h => h.1.trans (e.handed_nil _).symm
    rintro r s₁ ⟨hpool, hid⟩
    rw [← hid r rfl, ← hpool]
    split
    next htriggered =>
        exact .bind_ok (scheduleIncrement_hands htriggered s₁) fun s₂ hs₂ => .pure hs₂
    next hquiet => exact .pure (handed_quiet (Bool.eq_false_iff.mpr hquiet)).symm
  refine ((settle_leaves statistics_overlooks data context entry s).and ?_).mono fun _ _ h => h
  refine .bind_attempt hrule fun outcome s₁ hpool => ?_
  cases outcome with
  | ok r => exact .pure (.inl ⟨some r, rfl, hpool⟩)
  | error fault =>
      have hsame : s₁.desk.pool = s.desk.pool := hpool.trans (e.handed_nil _)
      refine .bind (complain_ends entry fault s₁) ?_ ?_
      · rintro _ _ ⟨-, rfl⟩
        exact .pure (.inl ⟨none, rfl, hpool⟩)
      · rintro fault' _ ⟨hnamed, rfl⟩
        cases hdisplay : (idOf entry).display with
        | ok text => rw [hdisplay] at hnamed; cases hnamed
        | error fault'' =>
            rw [hdisplay] at hnamed
            cases hnamed
            obtain ⟨htext, rfl⟩ := Value.fault_of_written hdisplay
            exact .inr ⟨rfl, htext, hsame⟩

/-- A tally is in balance with the entries that were gone through since some state: each
has a result or is an error, and since then the pool has taken an increment for each
result that triggered. -/
structure Balanced (e : Engine ω) (s₀ : EngineState ω) (seen : Nat)
    (s : EngineState ω × Tally) : Prop where
  entries : s.2.results.length + s.2.errors = seen
  triggered : s.2.triggered = (s.2.results.filter (·.triggered)).length
  pool : s.1.desk.pool = e.handed s₀.desk.pool s.2.results
  statistics : s.1.statistics = s₀.statistics

variable {s₀ : EngineState ω} {seen : Nat}

theorem Balanced.note {s₁ : EngineState ω} {s : EngineState ω × Tally}
    (h : e.Balanced s₀ seen s) {result : Option EvaluationResult}
    (hstatistics : s₁.statistics = s.1.statistics)
    (hpool : s₁.desk.pool = e.handed s.1.desk.pool result.toList) :
    e.Balanced s₀ (seen + 1) (s₁, s.2.note result) := by
  have hhanded : s₁.desk.pool = e.handed s₀.desk.pool (s.2.results ++ result.toList) := by
    rw [hpool, h.pool, handed_append]
  cases result with
  | none =>
      refine ⟨congrArg (· + 1) h.entries, h.triggered, ?_, hstatistics.trans h.statistics⟩
      simpa [Tally.note] using hhanded
  | some r =>
      refine ⟨?_, ?_, hhanded, hstatistics.trans h.statistics⟩
      · rw [← h.entries, Tally.note, List.length_append, List.length_singleton]
        exact Nat.add_right_comm _ _ _
      · rw [Tally.note, h.triggered, List.filter_append, List.length_append]
        cases htriggered : r.triggered <;> simp [htriggered]

/-- An entry keeps the tally in balance. One that fails and cannot be named is a fault, and is
not noted. -/
theorem evaluateEntry_balanced (data : Value) (context : EvaluationContext) (entry : RuleInput)
    {s : EngineState ω × Tally} (h : e.Balanced s₀ seen s) :
    (e.evaluateEntry clock data context entry).Ends s fun outcome s' =>
      (outcome = .ok () ∧ e.Balanced s₀ (seen + 1) s') ∨
        (outcome = .error .unwritable ∧ (idOf entry).hasText = false ∧ e.Balanced s₀ seen s') := by
  rw [evaluateEntry_eq]
  have hsettled : (Tally.aside (e.settle clock data context entry)).Ends s fun outcome s' =>
      s'.2 = s.2 ∧ s'.1.statistics = s.1.statistics ∧
        ((∃ result, outcome = .ok result ∧
            s'.1.desk.pool = e.handed s.1.desk.pool result.toList) ∨
          outcome = .error .unwritable ∧ (idOf entry).hasText = false ∧
            s'.1.desk.pool = s.1.desk.pool) :=
    fun log => ⟨rfl, settle_hands data context entry s.1 log⟩
  refine .bind hsettled ?_ ?_
  · rintro result ⟨s₁, _⟩ ⟨rfl, hstatistics, ⟨_, ⟨⟩, hpool⟩ | ⟨⟨⟩, -⟩⟩
    exact .modify (.inl ⟨rfl, h.note hstatistics hpool⟩)
  · rintro fault ⟨s₁, _⟩ ⟨rfl, hstatistics, ⟨_, ⟨⟩, -⟩ | ⟨hfault, htext, hpool⟩⟩
    cases hfault
    exact .inr ⟨rfl, htext, h.entries, h.triggered, hpool.trans h.pool,
      hstatistics.trans h.statistics⟩

/-- Entries keep the tally in balance, up to the first that fails and cannot be named:
induction on the entries. -/
theorem evaluateEntries_balanced (data : Value) (context : EvaluationContext)
    (entries : List RuleInput) {s : EngineState ω × Tally} (h : e.Balanced s₀ seen s) :
    (e.evaluateEntries clock data context entries).Ends s fun outcome s' =>
      (outcome = .ok () ∧ e.Balanced s₀ (seen + entries.length) s') ∨
        (outcome = .error .unwritable ∧ (∃ entry ∈ entries, (idOf entry).hasText = false) ∧
          ∃ gone, e.Balanced s₀ gone s') := by
  induction entries generalizing seen s with
  | nil => exact .pure (.inl ⟨rfl, h⟩)
  | cons entry rest ih =>
      refine .bind (evaluateEntry_balanced data context entry h) ?_ ?_
      · rintro _ s₁ (⟨-, hs₁⟩ | ⟨⟨⟩, -⟩)
        refine (ih hs₁).mono ?_
        rintro outcome s₂ (⟨houtcome, hs₂⟩ | ⟨houtcome, ⟨entry', hentry', htext⟩, hs₂⟩)
        · rw [Nat.add_right_comm] at hs₂
          exact .inl ⟨houtcome, hs₂⟩
        · exact .inr ⟨houtcome, ⟨entry', List.mem_cons_of_mem _ hentry', htext⟩, hs₂⟩
      · rintro fault s₁ (⟨⟨⟩, -⟩ | ⟨houtcome, htext, hs₁⟩)
        exact .inr ⟨houtcome, ⟨entry, List.mem_cons_self, htext⟩, seen, hs₁⟩

/-! ### What a batch counts -/

/-- The tally of a batch, up to its end or to where it is lost. -/
def tallied (e : Engine ω) (clock : Clock) (entries : List RuleInput) (payload : Payload)
    (input : ContextInput) (s : EngineState ω) (log : Log) : Tally :=
  let built := (e.buildContext clock payload input).runFrom s log
  match built.outcome with
  | .ok context =>
    ((e.evaluateEntries clock payload.value context entries).runFrom (built.state, {})
      built.log).state.2
  | .error _ => {}

/-- A batch of some size was counted, with its results and with so many failures besides:
every rule of the batch has a result or is an error. -/
structure Counted (size : Nat) (results : List EvaluationResult) (failures : Nat)
    (c c' : Statistics) : Prop where
  fits : results.length ≤ size
  total : c'.total = c.total + size
  triggered : c'.triggered = c.triggered + (results.filter (·.triggered)).length
  errors : c'.errors = c.errors + (size - results.length) + failures

theorem Counted.refl (c : Statistics) : Counted 0 [] 0 c c := ⟨Nat.le_refl 0, rfl, rfl, rfl⟩

theorem counted_of_balanced {s₁ : EngineState ω} {tally : Tally} {size : Nat}
    (h : e.Balanced s₀ size (s₁, tally)) {c : Statistics}
    (hc : (c.total, c.triggered, c.errors) = (s₁.statistics.total + size,
      s₁.statistics.triggered + tally.triggered, s₁.statistics.errors + tally.errors)) :
    Counted size tally.results 0 s₀.statistics c := by
  obtain ⟨hsize, htriggered, -, hstatistics⟩ := h
  dsimp only at hsize htriggered hstatistics
  simp only [Prod.mk.injEq, hstatistics] at hc
  obtain ⟨htotal, hcounted, herrors⟩ := hc
  refine ⟨?_, htotal, htriggered ▸ hcounted, ?_⟩
  · omega
  · omega

/-- At a time that the calendar has, a batch comes to its end and is counted, or it is lost,
for a rule that cannot be named, and is not. Increments are handed to the pool as it goes. -/
theorem evaluateRules_counted {now : Moment} (hnow : clock.now = .ok now)
    (entries : List RuleInput) (payload : Payload) (input : ContextInput) (s : EngineState ω)
    (log : Log) :
    (e.evaluateRules clock entries payload input).EndsAt s log fun outcome s' =>
      let tally := e.tallied clock entries payload input s log
      s'.desk.pool = e.handed s.desk.pool tally.results ∧
        ((outcome = .ok tally.results ∧
            Counted entries.length tally.results 0 s.statistics s'.statistics) ∨
          (outcome = .error .unwritable ∧ (∃ entry ∈ entries, (idOf entry).hasText = false) ∧
            s'.statistics = s.statistics)) := by
  obtain ⟨context, _, hcontext, -⟩ := contextOf_stamped (e := e) hnow hnow payload input
  obtain ⟨hbuilt, hstate⟩ := e.buildContext_ends clock payload input s log
  rw [hcontext] at hbuilt
  have hstart : e.Balanced s 0 (s, {}) := ⟨rfl, rfl, (e.handed_nil _).symm, rfl⟩
  have hentries : (e.evaluateEntries clock payload.value context entries).Ends (s, {}) _ :=
    evaluateEntries_balanced payload.value context entries hstart
  replace hentries := hentries ((e.buildContext clock payload input).runFrom s log).log
  have htally : e.tallied clock entries payload input s log =
      ((e.evaluateEntries clock payload.value context entries).runFrom (s, {})
        ((e.buildContext clock payload input).runFrom s log).log).state.2 := by
    unfold tallied
    dsimp only
    rw [hbuilt, hstate]
  unfold EndsAt
  dsimp only
  rw [htally, evaluateRules, runFrom_bind_ok hbuilt, runFrom_bind, runFrom_beside, hstate]
  dsimp only
  generalize (e.evaluateEntries clock payload.value context entries).runFrom (s, {}) _ =
    ending at hentries
  obtain ⟨outcome, ⟨s₁, tally⟩, log₁⟩ := ending
  rcases hentries with ⟨rfl, hbalanced⟩ | ⟨rfl, hunnamed, gone, hbalanced⟩
  · rw [Nat.zero_add] at hbalanced
    dsimp only [Except.map]
    rw [stampBatch, hnow]
    exact ⟨hbalanced.pool, .inl ⟨rfl, counted_of_balanced hbalanced rfl⟩⟩
  · exact ⟨hbalanced.pool, .inr ⟨rfl, hunnamed, hbalanced.statistics⟩⟩

end AlertRules.Engine
