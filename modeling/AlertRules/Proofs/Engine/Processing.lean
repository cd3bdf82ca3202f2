import AlertRules.Proofs.Engine.Fetching
import AlertRules.Proofs.Engine.Verdicts
import AlertRules.Proofs.Execution.Settling

/-!
Processing events.

An engine is reliable if its store is, and if its source does not fail
and always has the same rules. The rules it keeps are then those that the
source has, and the sets it keeps are those of plain lists
(`Engine.Ready`), whatever it has processed; so its results are a function
of the rules, the event and the clock (`Engine.resultsOf`). Processing an
event settles its results, and processing one whose results are settled
leaves alone whatever neither a look-up nor a refusal changes.
-/

namespace AlertRules

open AlertRules.Action

/-- Rules whose conditions are plain JSON, as far as they can be read. -/
def RuleSet.IsPlain (rules : RuleSet) : Prop :=
  ∀ entries, rules.toList = .ok entries → ∀ entry ∈ entries, entry.IsPlain

/-- The results that are acted on, as they are handed to the executor. -/
def EvaluationResult.submissions (results : List EvaluationResult) : List Submission :=
  (results.filter (·.triggered)).map Submission.ofResult

theorem EvaluationResult.hasText_submissions (results : List EvaluationResult) :
    ∀ s ∈ submissions results, s.ruleId.hasText = true := by
  intro s hs
  obtain ⟨r, -, rfl⟩ := List.mem_map.mp hs
  rfl

theorem EngineState.atDesk_ends {ω α : Type} {a : Action (Desk ω) α} {s : EngineState ω}
    {post : Except Fault α → Desk ω → Prop} (h : a.Ends s.desk post) :
    (EngineState.atDesk a).Ends s fun outcome s' =>
      post outcome s'.desk ∧ s'.cache = s.cache ∧ s'.sets = s.sets :=
  fun log => ⟨h log, rfl, rfl⟩

/-- Something done in the outside world changes nothing but the world. -/
theorem EngineState.outside_ends {ω α : Type} {a : Action ω α} {s : EngineState ω}
    {post : Except Fault α → ω → Prop} (h : a.Ends s.desk.world post) :
    (EngineState.outside a).Ends s fun outcome s' =>
      post outcome s'.desk.world ∧ s'.desk.pool = s.desk.pool ∧ s'.cache = s.cache ∧
        s'.sets = s.sets :=
  fun log => ⟨h log, rfl, rfl, rfl⟩

namespace Engine

variable {ω β : Type}

/-- Asking the source for rules leaves a view of the world alone. -/
def FetchLeaves (e : Engine ω) (view : ω → β) : Prop :=
  ∀ source, e.source = some source →
    (source.fetch e.configuration.organizationId e.configuration.moduleName
      e.configuration.maxRulesPerBatch).Leaves view

def IncrementLeaves (e : Engine ω) (view : ω → β) : Prop :=
  ∀ source count, e.source = some source → source.increment = some count →
    ∀ id, (count id).Leaves view

/-- An engine whose store and source do not fail. The source always has the
rules that `given` shows of the world: nothing that the engine does changes
them. -/
structure Reliable (e : Engine ω) (shared : SharedStore ω) (given : ω → RuleSet) : Prop where
  executor : e.executor.Reliable shared
  fetch : ∀ source, e.source = some source → ∀ w,
    (source.fetch e.configuration.organizationId e.configuration.moduleName
      e.configuration.maxRulesPerBatch).Ends w fun outcome _ => outcome = .ok (given w)
  fetchLeaves : e.FetchLeaves fun w => (given w, shared.alerts w)
  incrementLeaves : e.IncrementLeaves fun w => (given w, shared.alerts w)
  findLeaves : e.executor.FindLeaves given
  createLeaves : e.executor.CreateLeaves given
  sendLeaves : e.executor.SendLeaves given
  /-- The time for which rules are kept is one that ages compare with, as any
  number is. -/
  ages : ∀ age, ∃ fresh, (Value.float age).less e.configuration.ruleCacheTtl = .ok fresh

/-- The entries that the engine evaluates when the source has some rules. -/
def entriesOf (e : Engine ω) (rules : RuleSet) : Except Fault (List RuleInput) :=
  match e.source with
  | none => .ok []
  | some _ => rules.toList

def resultsOf (e : Engine ω) (rules : RuleSet) (clock : Clock) (payload : Payload)
    (input : ContextInput) : List EvaluationResult :=
  (do e.batchOf clock (← e.entriesOf rules) payload input :
    Except Fault (List EvaluationResult)).toOption.getD []

/-- What stays true of the state of a reliable engine. -/
structure Ready (e : Engine ω) (shared : SharedStore ω) (given : ω → RuleSet) (rules : RuleSet)
    (s : EngineState ω) : Prop where
  given_eq : given s.desk.world = rules
  cache : ∀ kept, s.cache = some kept → e.entriesOf rules = .ok kept.rules
  sets : s.sets.IsPlain
  named : Named (shared.alerts s.desk.world)

variable {e : Engine ω} {shared : SharedStore ω} {given : ω → RuleSet} {rules : RuleSet}
  {s s' : EngineState ω} {view : ω → β} {clock : Clock}

/-- A state with the same rules, plain sets and alerts that have grown is as
ready as before. -/
theorem Ready.of_desk (hs : e.Ready shared given rules s)
    (hgiven : given s'.desk.world = given s.desk.world)
    (hgrows : Grows (shared.alerts s.desk.world) (shared.alerts s'.desk.world))
    (hcache : s'.cache = s.cache) (hsets : s.sets.IsPlain → s'.sets.IsPlain) :
    e.Ready shared given rules s' :=
  ⟨hgiven.trans hs.given_eq, hcache ▸ hs.cache, hsets hs.sets, hgrows.2 hs.named⟩

theorem Ready.evaluated (hs : e.Ready shared given rules s) (h : s.Evaluated s') :
    e.Ready shared given rules s' :=
  hs.of_desk (congrArg given h.world) (.of_eq (congrArg shared.alerts h.world)) h.cache h.sets

/-! ### Loading -/

theorem isPlain_of_entriesOf (hplain : rules.IsPlain) {entries : List RuleInput}
    (h : e.entriesOf rules = .ok entries) : ∀ entry ∈ entries, entry.IsPlain := by
  unfold entriesOf at h
  split at h
  · cases h
    exact fun _ hentry => absurd hentry List.not_mem_nil
  · exact hplain entries h

theorem Reliable.exists_isFresh (h : e.Reliable shared given) (clock : Clock) (loadedAt : Double) :
    ∃ fresh, e.isFresh clock loadedAt = .ok fresh := by
  obtain ⟨fresh, hfresh⟩ := h.ages (clock.elapsed.add (isFresh.negate loadedAt))
  exact ⟨fresh, by simp only [isFresh, hfresh]⟩

theorem fetchRules_ends (h : e.Reliable shared given) (hview : e.FetchLeaves view)
    {source : RuleSource ω} (hsource : e.source = some source)
    (hs : e.Ready shared given rules s) :
    (e.fetchRules source).Ends s fun outcome s' =>
      outcome = .ok rules ∧ e.Ready shared given rules s' ∧
        view s'.desk.world = view s.desk.world ∧ s'.desk.pool = s.desk.pool := by
  refine (EngineState.outside_ends (((h.fetch source hsource _).and
    (h.fetchLeaves source hsource _)).and (hview source hsource _))).mono ?_
  rintro outcome s₁ ⟨⟨⟨houtcome, hsame⟩, hview₁⟩, hpool₁, hcache₁, hsets₁⟩
  obtain ⟨hgiven, halerts⟩ := Prod.mk.inj hsame
  refine ⟨hs.given_eq ▸ houtcome, ?_, hview₁, hpool₁⟩
  exact hs.of_desk hgiven (.of_eq halerts) hcache₁ fun hsets => hsets₁ ▸ hsets

theorem loadRules_ends (h : e.Reliable shared given) (hview : e.FetchLeaves view)
    (hs : e.Ready shared given rules s) :
    (e.loadRules clock).Ends s fun outcome s' =>
      outcome = e.entriesOf rules ∧ e.Ready shared given rules s' ∧
        view s'.desk.world = view s.desk.world ∧ s'.desk.pool = s.desk.pool := by
  refine .of_endsAt (e.loadRules_loads clock s) ?_
  rintro log _ _ (hkept | hageless | ⟨-, hnone⟩ | ⟨-, hsource, hfetch, hanswers⟩)
  case kept =>
      obtain ⟨kept, hcache, rfl⟩ := exists_of_cachedRules hkept
      exact ⟨(hs.cache kept hcache).symm, hs, rfl, rfl⟩
  case ageless =>
      obtain ⟨cached, hcached⟩ := exists_cachedRules (h.exists_isFresh clock) s
      cases hcached.symm.trans hageless
  case sourceless => exact ⟨by simp only [entriesOf, hnone], hs, rfl, rfl⟩
  case asked =>
      obtain ⟨houtcome, hs₁, hview₁, hpool₁⟩ := fetchRules_ends h hview hsource hs log
      cases hfetch.symm.trans houtcome
      have hentries : e.entriesOf rules = rules.toList := by
        simp only [entriesOf, hsource]
      cases hanswers with
      | listed hlist =>
          -- what is kept from now on is what the source has
          refine ⟨(hentries.trans hlist).symm, ⟨hs₁.given_eq, ?_, hs₁.sets, hs₁.named⟩, hview₁,
            hpool₁⟩
          rintro _ ⟨⟩
          exact hentries.trans hlist
      | unlisted hlist =>
          exact ⟨(hentries.trans hlist).symm, ⟨hs₁.given_eq, hs.cache, hs₁.sets, hs₁.named⟩,
            hview₁, hpool₁⟩

/-! ### Evaluating -/

/-- What evaluating an event leaves behind: a ready state, and increments for
the pool. -/
structure Evaluates (e : Engine ω) (shared : SharedStore ω) (given : ω → RuleSet)
    (rules : RuleSet) (view : ω → β) (s s' : EngineState ω) : Prop where
  ready : e.Ready shared given rules s'
  view : view s'.desk.world = view s.desk.world
  pool : ∃ ids : List String, s'.desk.pool =
    { s.desk.pool with jobs := s.desk.pool.jobs ++ ids.map Job.increment }

theorem batchOf_nil (e : Engine ω) (clock : Clock) (payload : Payload) (input : ContextInput) :
    (e.batchOf clock [] payload input).toOption.getD [] = [] := by
  unfold batchOf
  cases e.contextOf clock payload input with
  | error fault => rfl
  | ok context => cases clock.now <;> rfl

theorem Evaluates.evaluated {s₁ s₂ : EngineState ω}
    (h : e.Evaluates shared given rules view s s₁) (h' : s₁.Evaluated s₂) :
    e.Evaluates shared given rules view s s₂ := by
  obtain ⟨ids, hpool⟩ := h.pool
  obtain ⟨ids', hpool'⟩ := h'.pool
  refine ⟨h.ready.evaluated h', (congrArg view h'.world).trans h.view, ids ++ ids', ?_⟩
  rw [hpool', hpool, List.map_append, List.append_assoc]

theorem evaluateLoaded_ends (h : e.Reliable shared given) (hview : e.FetchLeaves view)
    (hplain : rules.IsPlain) (payload : Payload) (input : ContextInput)
    (hs : e.Ready shared given rules s) :
    (e.evaluateLoaded clock payload input).Ends s fun outcome s' =>
      outcome.toOption.getD [] = e.resultsOf rules clock payload input ∧
        e.Evaluates shared given rules view s s' := by
  unfold evaluateLoaded resultsOf
  refine .bind (loadRules_ends h hview hs) ?_ ?_
  · rintro entries s₁ ⟨hentries, hs₁, hview₁, hpool₁⟩
    have hquiet : e.Evaluates shared given rules view s s₁ := ⟨hs₁, hview₁, [], by simp [hpool₁]⟩
    rw [← hentries]
    split
    next hempty =>
        rw [List.isEmpty_iff.mp hempty]
        have hnone := (e.batchOf_nil clock payload input).symm
        split
        · exact .bind_record (.pure ⟨hnone, hquiet⟩)
        · exact .pure ⟨hnone, hquiet⟩
    next =>
        have hbatch := isPlain_of_entriesOf hplain hentries.symm
        refine .bind (evaluateRules_ends hbatch payload input hs₁.sets) ?_ ?_
        · rintro results s₂ ⟨hresults, hs₂⟩
          have hresult := congrArg (·.toOption.getD []) hresults
          have hdone := hquiet.evaluated hs₂
          split
          · exact .bind_record (.pure ⟨hresult, hdone⟩)
          · exact .pure ⟨hresult, hdone⟩
        · rintro fault s₂ ⟨hresults, hs₂⟩
          exact ⟨congrArg (·.toOption.getD []) hresults, hquiet.evaluated hs₂⟩
  · rintro fault s₁ ⟨hentries, hs₁, hview₁, hpool₁⟩
    rw [← hentries]
    exact ⟨rfl, hs₁, hview₁, [], by simp [hpool₁]⟩

theorem evaluate_ends (h : e.Reliable shared given) (hview : e.FetchLeaves view)
    (hplain : rules.IsPlain) (payload : Payload) (input : ContextInput)
    (hs : e.Ready shared given rules s) :
    (e.evaluate clock payload input).Ends s fun outcome s' =>
      outcome = .ok (e.resultsOf rules clock payload input) ∧
        e.Evaluates shared given rules view s s' := by
  unfold evaluate
  refine .bind_attempt (evaluateLoaded_ends h hview hplain payload input hs) ?_
  rintro outcome s₁ ⟨hresults, hs₁⟩
  rw [← hresults]
  cases outcome with
  | ok results => exact .pure ⟨rfl, hs₁⟩
  | error fault =>
      refine .bind_record (.bind_modify (.pure ⟨rfl, ?_⟩))
      exact hs₁.evaluated ⟨rfl, ⟨[], by simp⟩, rfl, id⟩

/-! ### Processing -/

def Settled (e : Engine ω) (alerts : List StoredAlert) (results : List EvaluationResult) : Prop :=
  ∀ submission ∈ EvaluationResult.submissions results,
    submission.triggered.truthy = true → submission.actions.isAbsent = false →
      e.executor.Absorbs alerts submission

theorem executeActions_settles (h : e.Reliable shared given) (results : List EvaluationResult)
    (hs : e.Ready shared given rules s) :
    (e.executeActions clock results).Ends s fun outcome s' =>
      ∃ ids, outcome = .ok ids ∧ e.Ready shared given rules s' ∧
        ∀ now, clock.now = .ok now → e.Settled (shared.alerts s'.desk.world) results := by
  have hnamed := EvaluationResult.hasText_submissions results
  refine (EngineState.atDesk_ends ((h.executor.execute_settles clock hnamed s.desk).and
    (Executor.execute_leaves h.findLeaves h.createLeaves h.sendLeaves clock _ s.desk))).mono ?_
  rintro outcome s' ⟨⟨⟨ids, houtcome, hgrows, hsettled⟩, hgiven⟩, hcache, hsets⟩
  exact ⟨ids, houtcome, hs.of_desk hgiven hgrows hcache fun h => hsets ▸ h, hsettled⟩

theorem processEvent_settles (h : e.Reliable shared given) (hplain : rules.IsPlain)
    (payload : Payload) (input : ContextInput) (hs : e.Ready shared given rules s) :
    (e.processEvent clock payload input).Ends s fun outcome s' =>
      outcome = .ok (e.resultsOf rules clock payload input) ∧
        e.Ready shared given rules s' ∧
        ∀ now, clock.now = .ok now →
          e.Settled (shared.alerts s'.desk.world) (e.resultsOf rules clock payload input) :=
  .bind_ok (evaluate_ends h h.fetchLeaves hplain payload input hs) fun _ hs₁ =>
    .bind_returns (executeActions_settles h _ hs₁.ready) fun _ _ hs₂ => .pure ⟨rfl, hs₂⟩

/-- Processing an event whose results are settled changes nothing but what
look-ups and refusals do, and hands nothing but increments to the pool. -/
theorem processEvent_absorbed (h : e.Reliable shared given) (hfetch : e.FetchLeaves view)
    (hfind : e.executor.FindLeaves view) (hrefuse : Executor.RefusalLeaves shared view)
    (hplain : rules.IsPlain) (payload : Payload) (input : ContextInput)
    (hs : e.Ready shared given rules s)
    (hsettled :
      e.Settled (shared.alerts s.desk.world) (e.resultsOf rules clock payload input)) :
    (e.processEvent clock payload input).Ends s fun outcome s' =>
      outcome = .ok (e.resultsOf rules clock payload input) ∧
        view s'.desk.world = view s.desk.world ∧
        ∃ ids : List String, s'.desk.pool =
          { s.desk.pool with jobs := s.desk.pool.jobs ++ ids.map Job.increment } := by
  -- what was settled before the evaluation is settled after it
  have hboth : e.FetchLeaves fun w => (shared.alerts w, view w) := fun source hsource =>
    ((h.fetchLeaves source hsource).comp Prod.snd).prod (hfetch source hsource)
  refine .bind_ok (evaluate_ends h hboth hplain payload input hs) fun s₁ hs₁ => ?_
  obtain ⟨halerts, hview⟩ := Prod.mk.inj hs₁.view
  have hexecute : (e.executeActions clock (e.resultsOf rules clock payload input)).Ends s₁
      fun outcome s₂ => outcome = .ok [] ∧ view s₂.desk.world = view s₁.desk.world ∧
        s₂.desk.pool = s₁.desk.pool :=
    (EngineState.atDesk_ends (h.executor.execute_absorbed hfind hrefuse clock
      (EvaluationResult.hasText_submissions _) hs₁.ready.named (halerts ▸ hsettled))).mono
      fun _ _ h => h.1
  refine .bind_ok hexecute ?_
  rintro s₂ ⟨hview₂, hpool₂⟩
  exact .pure ⟨rfl, hview₂.trans hview, hpool₂ ▸ hs₁.pool⟩

end Engine

end AlertRules
