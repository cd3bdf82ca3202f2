import AlertRules.Proofs.Condition.Document
import AlertRules.Proofs.Engine.Fetching
import AlertRules.Proofs.Engine.Increments
import AlertRules.Proofs.Engine.Requests

/-!
Batches and the rules in them.

All that an engine hands from one batch to the next, and from one rule to
the next, are the cached sets. As long as every rule it has ever seen is
plain, its sets are those of plain lists (`Engine.serveAll_plain`), and
then a batch is the sum of its rules: each yields what it yields on an
engine that has never seen another one, and counts as an error if that is
nothing (`Engine.batch_isolated`).
-/

namespace AlertRules

open AlertRules.Action

/-- The entries that were come by are plain, if any were. -/
def PlainEntries (found : Except Fault (List RuleInput)) : Prop :=
  ∀ entries, found = .ok entries → ∀ entry ∈ entries, entry.IsPlain

theorem plainEntries_ok {entries : List RuleInput} (h : ∀ entry ∈ entries, entry.IsPlain) :
    PlainEntries (.ok entries) := by
  rintro _ ⟨⟩
  exact h

structure EngineState.IsPlain {ω : Type} (s : EngineState ω) : Prop where
  sets : s.sets.IsPlain
  cache : ∀ kept, s.cache = some kept → ∀ entry ∈ kept.rules, entry.IsPlain

namespace Engine

variable {ω : Type} {e : Engine ω} {s : EngineState ω} {clock : Clock}

/-- What the source of an engine hands out is plain. -/
def HandsOutPlain (e : Engine ω) : Prop :=
  ∀ source, e.source = some source → ∀ w,
    (source.fetch e.configuration.organizationId e.configuration.moduleName
      e.configuration.maxRulesPerBatch).Ends w fun outcome _ =>
        ∀ rules, outcome = .ok rules → rules.IsPlain

def Request.IsPlain : Request ω → Prop
  | .batch _ rules _ _ => PlainEntries rules.iterate
  | _ => True

/-! ### What stays plain -/

theorem isPlain_initial {clock₀ : Clock} {start : ω}
    (h : EngineState.initial clock₀ start = .ok s) : s.IsPlain := by
  obtain ⟨now, -, h⟩ := exists_of_bind_eq_ok h
  cases h
  exact ⟨SetCache.isPlain_empty, nofun⟩

/-- A state with the same cached rules and sets that are plain. -/
theorem isPlain_of_evaluated {s' : EngineState ω} (hs : s.IsPlain) (h : s.Evaluated s') :
    s'.IsPlain :=
  ⟨h.sets hs.sets, h.cache ▸ hs.cache⟩

theorem atDesk_plain {α : Type} (a : Action (Desk ω) α) :
    (EngineState.atDesk a).Keeps EngineState.IsPlain :=
  fun _ hs _ => ⟨hs.sets, hs.cache⟩

theorem evaluateRules_plain {entries : List RuleInput} (hplain : ∀ entry ∈ entries, entry.IsPlain)
    (payload : Payload) (input : ContextInput) :
    (e.evaluateRules clock entries payload input).Keeps EngineState.IsPlain :=
  fun _ hs => (evaluateRules_ends hplain payload input hs.sets).mono fun _ _ h =>
    isPlain_of_evaluated hs h.2

/-- An evaluation of what is given keeps what the batch keeps, if there is one. -/
theorem evaluateGiven_keeps {good : EngineState ω → Prop} {rules : RuleSet} {payload : Payload}
    {input : ContextInput} (hbatch : ∀ entries, rules.iterate = .ok entries →
      (e.evaluateRules clock entries payload input).Keeps good) :
    (e.evaluateGiven clock rules payload input).Keeps good := by
  unfold evaluateGiven
  split
  next entries hentries => exact hbatch entries hentries
  next =>
      have hcontext : (e.buildContext clock payload input :
          Action (EngineState ω) EvaluationContext).Keeps good :=
        fun s hs => (e.buildContext_ends clock payload input s).mono fun _ _ h => h.2 ▸ hs
      exact .bind hcontext fun _ => .throw _

theorem loadRules_plain (h : e.HandsOutPlain) :
    (e.loadRules clock).Yields EngineState.IsPlain
      fun entries => ∀ entry ∈ entries, entry.IsPlain := by
  refine fun s hs => .of_endsAt (e.loadRules_loads clock s) ?_
  rintro log _ _ (hcached | _ | _ | ⟨-, hsource, hfetch, hlist | _ | _⟩)
  case kept =>
      obtain ⟨kept, hkept, rfl⟩ := exists_of_cachedRules hcached
      exact ⟨hs, by rintro _ ⟨⟩; exact hs.cache kept hkept⟩
  case ageless => exact ⟨hs, nofun⟩
  case sourceless => exact ⟨hs, by rintro _ ⟨⟩; exact List.forall_mem_nil _⟩
  case asked.listed =>
      have hplain := h _ hsource s.desk.world log _ hfetch _ hlist
      exact ⟨⟨hs.sets, by rintro _ ⟨⟩; exact hplain⟩, by rintro _ ⟨⟩; exact hplain⟩
  case asked.failed => exact ⟨⟨hs.sets, hs.cache⟩, by rintro _ ⟨⟩; exact List.forall_mem_nil _⟩
  case asked.unlisted => exact ⟨⟨hs.sets, hs.cache⟩, nofun⟩

/-- An evaluation keeps what loading, the batch of what is loaded and counting keep. -/
theorem evaluate_keeps {good : EngineState ω → Prop} {returned : List RuleInput → Prop}
    {payload : Payload} {input : ContextInput}
    (hload : (e.loadRules clock).Yields good returned)
    (hbatch : ∀ rules, returned rules → (e.evaluateRules clock rules payload input).Keeps good)
    (hcounts : ∀ s statistics, good s → good { s with statistics }) :
    (e.evaluate clock payload input).Keeps good := by
  have hloaded : (e.evaluateLoaded clock payload input).Keeps good := by
    refine fun s hs => .bind (hload s hs) ?_ fun _ _ h => h.1
    rintro rules s₁ ⟨hs₁, hrules⟩
    split
    · split
      · exact .bind_record (.pure hs₁)
      · exact .pure hs₁
    · refine .bind (hbatch rules (hrules rules rfl) s₁ hs₁) ?_ fun _ _ h => h
      intro results s₂ hs₂
      split
      · exact .bind_record (.pure hs₂)
      · exact .pure hs₂
  refine .bind (.attempt hloaded) fun outcome => ?_
  cases outcome with
  | ok results => exact .pure _
  | error fault =>
      exact .bind (.record _ _) fun _ => .bind (.modify fun s => hcounts s _) fun _ => .pure _

theorem evaluate_plain (h : e.HandsOutPlain) (payload : Payload) (input : ContextInput) :
    (e.evaluate clock payload input).Keeps EngineState.IsPlain :=
  evaluate_keeps (loadRules_plain h) (fun _ hplain => evaluateRules_plain hplain payload input)
    fun _ _ hs => ⟨hs.sets, hs.cache⟩

theorem executeActions_plain (results : List EvaluationResult) :
    (e.executeActions clock results).Keeps EngineState.IsPlain :=
  atDesk_plain _

theorem processEvent_plain (h : e.HandsOutPlain) (payload : Payload) (input : ContextInput) :
    (e.processEvent clock payload input).Keeps EngineState.IsPlain :=
  .bind (evaluate_plain h payload input) fun results =>
    .bind (executeActions_plain results) fun _ => .pure _

theorem runJob_plain (job : Job) : (e.runJob clock job).Keeps EngineState.IsPlain := by
  cases job with
  | deliver name n => exact atDesk_plain _
  | increment ruleId =>
      unfold runJob
      cases e.source.bind (·.increment) with
      | none => exact .pure _
      | some count =>
          refine .bind (.attempt (atDesk_plain _)) fun outcome => ?_
          cases outcome with
          | ok => exact .pure _
          | error fault => exact .record _ _

theorem runJobs_plain (jobs : List Job) : (e.runJobs clock jobs).Keeps EngineState.IsPlain := by
  induction jobs with
  | nil => exact .pure _
  | cons job rest ih => exact .bind (runJob_plain job) fun _ => ih

/-- What is asked of an engine keeps its state plain: one case for each request. -/
theorem serve_plain (h : e.HandsOutPlain) {request : Request ω} (hrequest : request.IsPlain) :
    (e.serve request).Keeps EngineState.IsPlain := by
  cases request with
  | load clock =>
      exact fun s hs => .bind (loadRules_plain h s hs) (fun _ _ h => .pure h.1) fun _ _ h => h.1
  | batch clock rules payload input =>
      exact .bind (evaluateGiven_keeps fun entries hentries =>
        evaluateRules_plain (hrequest entries hentries) payload input) fun _ => .pure _
  | evaluation clock payload input => exact .bind (evaluate_plain h payload input) fun _ => .pure _
  | event clock payload input => exact .bind (processEvent_plain h payload input) fun _ => .pure _
  | actions clock results => exact .bind (executeActions_plain results) fun _ => .pure _
  | drain clock => exact .bind (atDesk_plain _) fun jobs => runJobs_plain jobs
  | clearCache => exact .modify fun _ _ => ⟨SetCache.isPlain_empty, nofun⟩
  | resetStatistics clock =>
      exact .bind (.ofExcept _) fun _ => .modify fun _ hs => ⟨hs.sets, hs.cache⟩
  | close => exact atDesk_plain _
  | outside change => exact atDesk_plain _

theorem serveAll_plain (h : e.HandsOutPlain) {requests : List (Request ω)}
    (hrequests : ∀ request ∈ requests, request.IsPlain) :
    (e.serveAll requests).Keeps EngineState.IsPlain :=
  serveAll_keeps fun request hrequest => serve_plain h (hrequests request hrequest)

/-! ### Batches of plain rules -/

/-- A batch in a context has the results that its entries come to, and what it counts as
errors is how many more entries than results there are. If one of them fails and cannot be
named, the batch is not counted. -/
theorem evaluateRules_counts {entries : List RuleInput}
    (hplain : ∀ entry ∈ entries, entry.IsPlain) {payload : Payload} {input : ContextInput}
    {context : EvaluationContext} (hcontext : e.contextOf clock payload input = .ok context)
    {now : Moment} (hnow : clock.now = .ok now) (hs : s.IsPlain) :
    (e.evaluateRules clock entries payload input).Ends s fun outcome s' =>
      (∀ outcomes, entries.mapM (e.outcomeOf clock payload.value context) = .ok outcomes →
        outcome = .ok outcomes.reduceOption ∧ s'.statistics.errors =
          s.statistics.errors + (entries.length - outcomes.reduceOption.length)) ∧
      (∀ fault, entries.mapM (e.outcomeOf clock payload.value context) = .error fault →
        outcome = .error fault ∧ s'.statistics = s.statistics) := by
  intro log
  have houtcome : ((e.evaluateRules clock entries payload input).runFrom s log).outcome =
      e.batchOf clock entries payload input :=
    (evaluateRules_ends hplain payload input hs.sets log).1
  obtain ⟨-, hcounted⟩ := evaluateRules_counted (e := e) hnow entries payload input s log
  generalize (e.evaluateRules clock entries payload input).runFrom s log = ending at *
  rw [batchOf, hcontext, hnow] at houtcome
  refine ⟨fun outcomes houtcomes => ?_, fun fault hfault => ?_⟩
  · have hresults : ending.outcome = .ok outcomes.reduceOption := by
      rw [houtcome]
      simp only [bind, Except.bind, houtcomes]
      rfl
    refine ⟨hresults, ?_⟩
    rcases hcounted with ⟨htallied, hcounted⟩ | ⟨hlost, -⟩
    · rw [Except.ok.inj (hresults.symm.trans htallied)]
      exact hcounted.errors
    · cases hresults.symm.trans hlost
  · have hresults : ending.outcome = .error fault := by
      rw [houtcome]
      simp only [bind, Except.bind, hfault]
    refine ⟨hresults, ?_⟩
    rcases hcounted with ⟨htallied, -⟩ | ⟨-, -, hsame⟩
    · cases hresults.symm.trans htallied
    · exact hsame

/-! ### Entries by themselves -/

/-- The ways in which an entry can fail to have a result: it is no rule, its
conditions are too complex, cannot be read or cannot be compared, or they are
met by a payload that the rule cannot be worded for, because its entity cannot be told or
what it is to be told of has no text. -/
inductive Fails (e : Engine ω) (data : Value) (entry : RuleInput) : Prop where
  | malformed {fault : Fault} (h : ruleOf entry = .error fault)
  | faulty {rule : Rule} {fault : Fault} (hrule : ruleOf entry = .ok rule)
      (h : e.verdict rule data = .error fault)
  | unworded {rule : Rule} {fault : Fault} (hrule : ruleOf entry = .ok rule)
      (hmet : e.verdict rule data = .ok true) (h : e.wording rule data = .error fault)

/-- An entry comes to a part of the results by itself: to one result, to none if it fails,
or to the loss of the batch if it fails and cannot be named. But for its times it is what
any engine of this configuration makes of it that has done nothing before. -/
structure YieldsAlone (e : Engine ω) (payload : Payload) (input : ContextInput)
    (entry : RuleInput) (part : Except Fault (List EvaluationResult)) : Prop where
  cases : (∃ r, part = .ok [r]) ∨ part = .ok [] ∨ part = .error .unwritable
  none_iff : part = .ok [] ↔ e.Fails payload.value entry ∧ (idOf entry).hasText = true
  lost_iff : part = .error .unwritable ↔
    e.Fails payload.value entry ∧ (idOf entry).hasText = false
  alone : ∀ {ω' : Type} (fresh : Engine ω') (clock₀ clock : Clock) (now : Moment) (world : ω')
    (s₀ : EngineState ω') (log : Log), fresh.configuration = e.configuration →
    EngineState.initial clock₀ world = .ok s₀ → clock.now = .ok now →
    ∀ t, ((fresh.evaluateGiven clock (.entries [entry]) payload input).runFrom s₀
        log).outcome.map (List.map (·.stamped t)) = part.map (List.map (·.stamped t))

/-- An entry that can be named does not take the batch with it. -/
theorem YieldsAlone.exists_ok {payload : Payload} {input : ContextInput} {entry : RuleInput}
    {part : Except Fault (List EvaluationResult)} (h : e.YieldsAlone payload input entry part)
    (hnamed : (idOf entry).hasText = true) : ∃ results, part = .ok results := by
  rcases h.cases with ⟨r, hpart⟩ | hpart | hpart
  · exact ⟨_, hpart⟩
  · exact ⟨_, hpart⟩
  · cases hnamed.symm.trans (h.lost_iff.mp hpart).2

theorem fails_iff {data : Value} {entry : RuleInput} {rule : Rule}
    (hrule : ruleOf entry = .ok rule) :
    e.Fails data entry ↔ (∃ fault, e.verdict rule data = .error fault) ∨
      (e.verdict rule data = .ok true ∧ ∃ fault, e.wording rule data = .error fault) := by
  constructor
  · intro hfails
    cases hfails with
    | malformed h => cases hrule.symm.trans h
    | faulty hrule' h =>
        cases hrule.symm.trans hrule'
        exact .inl ⟨_, h⟩
    | unworded hrule' hmet h =>
        cases hrule.symm.trans hrule'
        exact .inr ⟨hmet, _, h⟩
  · rintro (⟨fault, h⟩ | ⟨hmet, fault, h⟩)
    · exact .faulty hrule h
    · exact .unworded hrule hmet h

theorem assessEntry_fails_iff {now : Moment} (hnow : clock.now = .ok now) (data : Value)
    (context : EvaluationContext) (entry : RuleInput) :
    (∃ fault, e.assessEntry clock data context entry = .error fault) ↔ e.Fails data entry := by
  unfold assessEntry
  cases hrule : ruleOf entry with
  | error fault => exact ⟨fun _ => .malformed hrule, fun _ => ⟨fault, rfl⟩⟩
  | ok rule =>
      show (∃ fault, e.assess clock rule data context = .error fault) ↔ _
      rw [fails_iff hrule, assess, hnow]
      cases e.verdict rule data with
      | error fault => exact ⟨fun _ => .inl ⟨fault, rfl⟩, fun _ => ⟨fault, rfl⟩⟩
      | ok met =>
          cases met with
          | false => exact ⟨nofun, by rintro (⟨_, ⟨⟩⟩ | ⟨⟨⟩, -⟩)⟩
          | true =>
              cases e.wording rule data with
              | error fault => exact ⟨fun _ => .inr ⟨rfl, fault, rfl⟩, fun _ => ⟨fault, rfl⟩⟩
              | ok wording => exact ⟨nofun, by rintro (⟨_, ⟨⟩⟩ | ⟨-, _, ⟨⟩⟩)⟩

/-- What an entry comes to: one case for each way. -/
theorem outcomeOf_cases {now : Moment} (hnow : clock.now = .ok now) (data : Value)
    (context : EvaluationContext) (entry : RuleInput) :
    (∃ r, e.outcomeOf clock data context entry = .ok (some r) ∧ ¬e.Fails data entry) ∨
      (e.outcomeOf clock data context entry = .ok none ∧ e.Fails data entry ∧
        (idOf entry).hasText = true) ∨
      (e.outcomeOf clock data context entry = .error .unwritable ∧ e.Fails data entry ∧
        (idOf entry).hasText = false) := by
  have hfails := assessEntry_fails_iff (e := e) hnow data context entry
  unfold outcomeOf
  cases hassess : e.assessEntry clock data context entry with
  | ok r =>
      refine .inl ⟨r, rfl, fun h => ?_⟩
      obtain ⟨fault, hfault⟩ := hfails.mpr h
      cases hassess.symm.trans hfault
  | error fault =>
      have hfailed := hfails.mp ⟨fault, hassess⟩
      dsimp only
      cases htext : (idOf entry).hasText with
      | true =>
          rw [Value.display, Value.written_of_hasText htext]
          exact .inr (.inl ⟨rfl, hfailed, rfl⟩)
      | false =>
          rw [Value.display, Value.written_of_not_hasText htext]
          exact .inr (.inr ⟨rfl, hfailed, rfl⟩)

/-- What an entry comes to depends on nothing of an engine but its configuration. -/
theorem outcomeOf_congr {ω' : Type} {fresh : Engine ω'}
    (h : fresh.configuration = e.configuration) (clock : Clock) (data : Value)
    (context : EvaluationContext) (entry : RuleInput) :
    fresh.outcomeOf clock data context entry = e.outcomeOf clock data context entry := by
  obtain ⟨configuration, source, executor, named⟩ := e
  obtain ⟨configuration', source', executor', named'⟩ := fresh
  cases h
  rfl

theorem contextOf_congr {ω' : Type} {fresh : Engine ω'}
    (h : fresh.configuration = e.configuration) (clock : Clock) (payload : Payload)
    (input : ContextInput) :
    fresh.contextOf clock payload input = e.contextOf clock payload input := by
  obtain ⟨configuration, source, executor, named⟩ := e
  obtain ⟨configuration', source', executor', named'⟩ := fresh
  cases h
  rfl

def partOf (e : Engine ω) (clock : Clock) (data : Value) (context : EvaluationContext)
    (entry : RuleInput) : Except Fault (List EvaluationResult) :=
  (e.outcomeOf clock data context entry).map Option.toList

theorem partOf_stamped {clock' : Clock} {now now' : Moment} (hnow : clock.now = .ok now)
    (hnow' : clock'.now = .ok now') {c c' : EvaluationContext} {t : Moment}
    (hcontext : c'.stamped t = c.stamped t) (data : Value) (entry : RuleInput) :
    (e.partOf clock' data c' entry).map (List.map (·.stamped t)) =
      (e.partOf clock data c entry).map (List.map (·.stamped t)) := by
  have hlists : ∀ outcome : Except Fault (Option EvaluationResult),
      (outcome.map Option.toList).map (List.map (·.stamped t)) =
        (outcome.map (Option.map (·.stamped t))).map Option.toList := by
    rintro (fault | _ | r) <;> rfl
  unfold partOf
  rw [hlists, hlists, outcomeOf_stamped hnow hnow' hcontext]

theorem evaluateRules_singleton {entry : RuleInput} (hplain : entry.IsPlain) {payload : Payload}
    {input : ContextInput} {context : EvaluationContext}
    (hcontext : e.contextOf clock payload input = .ok context) {now : Moment}
    (hnow : clock.now = .ok now) (hs : s.IsPlain) :
    (e.evaluateRules clock [entry] payload input).Ends s fun outcome _ =>
      outcome = e.partOf clock payload.value context entry := by
  have hentries : ∀ entry' ∈ [entry], entry'.IsPlain := fun _ h => List.mem_singleton.mp h ▸ hplain
  refine (evaluateRules_counts hentries hcontext hnow hs).mono ?_
  rintro outcome s' ⟨hok, herror⟩
  unfold partOf
  cases hentry : e.outcomeOf clock payload.value context entry with
  | ok result =>
      refine (hok [result] (mapM_eq_ok (by simp [hentry]))).1.trans ?_
      rw [List.reduceOption_singleton]
      rfl
  | error fault =>
      refine (herror fault (mapM_eq_error ?_ ⟨entry, List.mem_singleton_self _, hentry⟩)).1
      intro a ha other hother
      rw [List.mem_singleton.mp ha] at hother
      exact Except.error.inj (hother.symm.trans hentry)

theorem yieldsAlone (hnow : clock.now = .ok now) {payload : Payload} {input : ContextInput}
    {context : EvaluationContext} (hcontext : e.contextOf clock payload input = .ok context)
    {entry : RuleInput} (hplain : entry.IsPlain) :
    e.YieldsAlone payload input entry (e.partOf clock payload.value context entry) := by
  have halone : ∀ {ω' : Type} (fresh : Engine ω') (clock₀ clock' : Clock) (now' : Moment)
      (world : ω') (s₀ : EngineState ω') (log : Log), fresh.configuration = e.configuration →
      EngineState.initial clock₀ world = .ok s₀ → clock'.now = .ok now' →
      ∀ t, ((fresh.evaluateGiven clock' (.entries [entry]) payload input).runFrom s₀
        log).outcome.map (List.map (·.stamped t)) =
          (e.partOf clock payload.value context entry).map (List.map (·.stamped t)) := by
    intro ω' fresh clock₀ clock' now' world s₀ log hconfiguration hinitial hnow' t
    obtain ⟨c, c', hc, hc', hstamped⟩ := contextOf_stamped (e := e) hnow hnow' payload input
    cases hcontext.symm.trans hc
    rw [← contextOf_congr hconfiguration] at hc'
    have houtcome := evaluateRules_singleton hplain hc' hnow' (isPlain_initial hinitial) log
    have hpart : fresh.partOf clock' payload.value c' entry =
        e.partOf clock' payload.value c' entry :=
      congrArg (Except.map Option.toList) (outcomeOf_congr hconfiguration _ _ _ _)
    rw [← partOf_stamped hnow hnow' (hstamped t), ← hpart]
    exact congrArg (Except.map _) houtcome
  unfold partOf at halone ⊢
  rcases outcomeOf_cases (e := e) hnow payload.value context entry with
    ⟨r, houtcome, hfails⟩ | ⟨houtcome, hfails, htext⟩ | ⟨houtcome, hfails, htext⟩
  · rw [houtcome] at halone ⊢
    exact ⟨.inl ⟨r, rfl⟩, ⟨nofun, fun h => absurd h.1 hfails⟩, ⟨nofun, fun h => absurd h.1 hfails⟩,
      halone⟩
  · rw [houtcome] at halone ⊢
    exact ⟨.inr (.inl rfl), ⟨fun _ => ⟨hfails, htext⟩, fun _ => rfl⟩,
      ⟨nofun, fun h => by cases htext.symm.trans h.2⟩, halone⟩
  · rw [houtcome] at halone ⊢
    exact ⟨.inr (.inr rfl), ⟨nofun, fun h => by cases htext.symm.trans h.2⟩,
      ⟨fun _ => ⟨hfails, htext⟩, fun _ => rfl⟩, halone⟩

theorem countP_isEmpty (outcomes : List (Option EvaluationResult)) :
    (outcomes.map Option.toList).countP List.isEmpty =
      outcomes.length - outcomes.reduceOption.length := by
  have hle := List.reduceOption_length_le outcomes
  induction outcomes with
  | nil => rfl
  | cons result rest ih =>
      have hle' := List.reduceOption_length_le rest
      rw [List.map_cons, List.countP_cons, ih hle']
      cases result with
      | none =>
          simp only [List.reduceOption_cons_of_none, List.length_cons, Option.toList_none,
            List.isEmpty_nil, if_true]
          omega
      | some r => simp

/-- A batch is the sum of its rules, whatever was asked of the engine before: if each entry
comes to results or to none by itself, its results are these, in their order, and an error
is counted for each entry that yields none. An entry that fails and cannot be named takes
the whole batch with it, and nothing is counted then. -/
theorem batch_isolated (h : e.HandsOutPlain) {clock₀ : Clock} {start : ω} {s₀ : EngineState ω}
    (hinitial : EngineState.initial clock₀ start = .ok s₀) {history : List (Request ω)}
    (hhistory : ∀ request ∈ history, request.IsPlain) {entries : List RuleInput}
    (hplain : ∀ entry ∈ entries, entry.IsPlain) {now : Moment} (hnow : clock.now = .ok now)
    (payload : Payload) (input : ContextInput) (log log' : Log) :
    let s := ((e.serveAll history).runFrom s₀ log).state
    let ending := (e.evaluateGiven clock (.entries entries) payload input).runFrom s log'
    ∃ parts : List (Except Fault (List EvaluationResult)),
      List.Forall₂ (e.YieldsAlone payload input) entries parts ∧
      (∀ kept : List (List EvaluationResult), parts = kept.map .ok →
        ending.outcome = .ok kept.flatten ∧
          ending.state.statistics.errors = s.statistics.errors + kept.countP List.isEmpty) ∧
      (.error .unwritable ∈ parts →
        ending.outcome = .error .unwritable ∧ ending.state.statistics = s.statistics) := by
  intro s ending
  have hs : s.IsPlain := serveAll_plain h hhistory s₀ (isPlain_initial hinitial) log
  obtain ⟨context, _, hcontext, -⟩ := contextOf_stamped (e := e) hnow hnow payload input
  obtain ⟨hok, herror⟩ := evaluateRules_counts (e := e) hplain hcontext hnow hs log'
  refine ⟨entries.map (e.partOf clock payload.value context), ?_, fun kept hkept => ?_,
    fun hlost => ?_⟩
  · rw [List.forall₂_map_right_iff, List.forall₂_same]
    exact fun entry hentry => yieldsAlone hnow hcontext (hplain entry hentry)
  · have hparts := mapM_eq_ok hkept
    unfold partOf at hparts
    rw [← map_mapM] at hparts
    obtain ⟨outcomes, houtcomes, rfl⟩ := map_eq_ok.mp hparts
    obtain ⟨hresults, herrors⟩ := hok outcomes houtcomes
    have hlength : outcomes.length = entries.length := by
      simpa using (congrArg List.length hkept).symm
    refine ⟨hresults.trans ?_, herrors.trans ?_⟩
    · rw [List.reduceOption, List.filterMap_eq_flatMap_toList, List.flatMap_def]
      rfl
    · rw [countP_isEmpty, hlength]
  · obtain ⟨entry, hentry, hpart⟩ := List.mem_map.mp hlost
    refine herror .unwritable (mapM_eq_error ?_ ⟨entry, hentry, ?_⟩)
    · intro entry' _ fault hfault
      rcases outcomeOf_cases (e := e) hnow payload.value context entry' with
        ⟨r, houtcome, -⟩ | ⟨houtcome, -⟩ | ⟨houtcome, -⟩
      · cases houtcome.symm.trans hfault
      · cases houtcome.symm.trans hfault
      · exact (Except.error.inj (houtcome.symm.trans hfault)).symm
    · unfold partOf at hpart
      cases houtcome : e.outcomeOf clock payload.value context entry with
      | ok result => rw [houtcome] at hpart; cases hpart
      | error fault => rw [houtcome] at hpart; cases hpart; rfl

def codeIn (items : List Value) : Rule where
  id := "rule-1"
  organizationId := "org-1"
  moduleName := none
  name := "Known Code"
  kind := "threshold"
  conditions := [("field", .text "code"), ("operator", .text "in"), ("value", .list items)]
  actions := {}
  severity := .warning
  enabled := true
  priority := 0
  metadata := []
  triggerCount := 0
  createdAt := none
  updatedAt := none

theorem isPlain_codeIn {items : List Value} (h : ∀ v ∈ items, v.IsKeyed) :
    (codeIn items).IsPlain := by
  intro c hc
  have hname : Schema.IsName "code" := ⟨by decide, by decide⟩
  have hparsed : Condition.parse (.object (codeIn items).conditions) =
      .ok (.leaf ⟨"code", .isIn, .literal (.list items)⟩) :=
    Condition.parse_toValue (.leaf ⟨"code", .isIn, .literal (.list items)⟩) ⟨hname, rfl⟩
  rw [hparsed] at hc
  cases hc
  rintro _ ⟨⟩
  exact h

/-- An engine that looks lists up as sets from two items on, with one rule. -/
def lookingUp (rule : Rule) : Engine Unit :=
  let configuration : Configuration := .ofSettings {
    organizationId := "org-1", moduleName := none, warehouseDsn := none, maxRulesPerBatch := 100
    ruleCacheTtl := .ofInt 30, inSetThreshold := 2, maxDepth := 3, maxConditionsPerLevel := 10
    openAlertStatuses := [], entityIdFields := ["id"], backgroundWorkers := 1
    dryRun := false, debug := false }
  { configuration
    source := some ⟨fun _ _ _ => pure (.entries [.rule rule]), none⟩
    executor := { configuration, store := none, outlets := [], usesPool := false }
    named := ⟨rfl, rfl⟩ }

def untouched : EngineState Unit where
  desk := { world := () }
  statistics := { lastEvaluationAt := ⟨2026, 1, 1, 0, 0, 0, 0, some 0⟩ }

/-- A batch of a rule and of something that is none, after another batch. -/
theorem batch_isolated_codes :
    let rule := codeIn [.int 1, .int 2]
    let e := lookingUp rule
    let payload := Payload.ofValue (.object [("code", .int 2)])
    let history : List (Request Unit) :=
      [.batch {} (.entries [.rule rule]) payload (.document .null), .clearCache]
    let entries : List RuleInput := [.rule rule, .document (.int 5)]
    let s := ((e.serveAll history).runFrom untouched []).state
    let ending := (e.evaluateGiven {} (.entries entries) payload (.document .null)).runFrom s []
    ∃ parts : List (List EvaluationResult), ending.outcome = .ok parts.flatten ∧
      List.Forall₂ (fun entry part => e.YieldsAlone payload (.document .null) entry (.ok part))
        entries parts ∧
      ending.state.statistics.errors = s.statistics.errors + parts.countP List.isEmpty := by
  intro rule e payload history entries
  have hrule : rule.IsPlain := isPlain_codeIn (by simp [Value.IsKeyed])
  have hentry : (RuleInput.rule rule).IsPlain := by
    rintro _ ⟨⟩
    exact hrule
  have hnow : ({} : Clock).now = .ok ⟨2026, 1, 1, 0, 0, 0, 0, some 0⟩ := by decide +kernel
  have hinitial : EngineState.initial {} () = .ok untouched := by
    rw [EngineState.initial, hnow]
    rfl
  have hsource : e.HandsOutPlain := by
    rintro source ⟨⟩ w
    refine .pure ?_
    rintro _ ⟨⟩
    exact plainEntries_ok (by simpa using hentry)
  have hhistory : ∀ request ∈ history, request.IsPlain :=
    List.forall_mem_cons.mpr ⟨plainEntries_ok (by simpa using hentry),
      List.forall_mem_singleton.mpr trivial⟩
  have hplain : ∀ entry ∈ entries, entry.IsPlain :=
    List.forall_mem_cons.mpr ⟨hentry, List.forall_mem_singleton.mpr fun _ h => by cases h⟩
  -- What the engine computes is not to be computed here.
  clear_value e
  obtain ⟨_, hparts, hkept, -⟩ :=
    batch_isolated hsource hinitial hhistory hplain hnow payload (.document .null) [] []
  obtain ⟨_, _, hfirst, hrest, rfl⟩ := List.forall₂_cons_left_iff.mp hparts
  obtain ⟨_, _, hsecond, hnil, rfl⟩ := List.forall₂_cons_left_iff.mp hrest
  cases hnil
  obtain ⟨first, rfl⟩ := hfirst.exists_ok rfl
  obtain ⟨second, rfl⟩ := hsecond.exists_ok rfl
  obtain ⟨houtcome, herrors⟩ := hkept [first, second] rfl
  exact ⟨[first, second], houtcome, .cons hfirst (.cons hsecond .nil), herrors⟩

/-- What a batch with decimal numbers leaves behind stands in the way of a later
batch: its rule does not trigger, as it does on an engine that has done nothing. -/
theorem batch_shadowed_by_decimals :
    let e := lookingUp (codeIn [])
    let payload := Payload.ofValue (.object [("code", .text "1")])
    let batch := fun items : List Value => RuleSet.entries [.rule (codeIn items)]
    let numbers : List Value := [.decimal (.finite false 1 0), .decimal (.finite false 2 0)]
    let texts : List Value := [.text "1", .text "2"]
    let earlier : List (Request Unit) := [.batch {} (batch numbers) payload (.document .null)]
    let later := e.evaluateGiven {} (batch texts) payload (.document .null)
    let triggered : EngineState Unit → Option (List Bool) := fun s =>
      (later.runFrom s []).outcome.toOption.map (·.map (·.triggered))
    triggered ((e.serveAll earlier).runFrom untouched []).state = some [false] ∧
      triggered untouched = some [true] := by
  decide +kernel

end Engine

end AlertRules
