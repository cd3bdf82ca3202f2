import AlertRules.Proofs.Engine.Fetching
import AlertRules.Proofs.Engine.Requests
import AlertRules.Proofs.Engine.Tally
import AlertRules.Proofs.Execution.Mirror

/-!
Engines in two worlds.

An engine mirrors one in a world that its own world shows if it has the same
configuration and its source and its executor mirror those of the other. Then it does
there what the other does, whatever is asked of it (`Engine.IsMirror.serve`).
-/

namespace AlertRules

open AlertRules.Action

variable {ω ω' α : Type} {view : ω' → ω}

def EngineState.seen (view : ω' → ω) (s : EngineState ω') : EngineState ω :=
  ⟨s.desk.seen view, s.cache, s.sets, s.statistics⟩

/-- The first source does on the world that is shown what the second does; it counts
triggers if the second does. -/
structure RuleSource.IsMirror (view : ω' → ω) (source' : RuleSource ω') (source : RuleSource ω) :
    Prop where
  fetch : ∀ organizationId moduleName limit, Action.Mirrors view
    (source'.fetch organizationId moduleName limit) (source.fetch organizationId moduleName limit)
  increment : Option.Rel (fun count' count => ∀ id, Action.Mirrors view (count' id) (count id))
    source'.increment source.increment

/-- The first engine has the source and the executor of the second in the world that is
shown, and is otherwise the same. -/
structure Engine.IsMirror (view : ω' → ω) (e' : Engine ω') (e : Engine ω) : Prop where
  configuration : e'.configuration = e.configuration
  source : Option.Rel (RuleSource.IsMirror view) e'.source e.source
  executor : e'.executor.IsMirror view e.executor

/-! ### Parts of a state -/

theorem EngineState.atDesk_mirrors {a : Action (Desk ω') α} {b : Action (Desk ω) α}
    (h : Action.Mirrors (Desk.seen view) a b) :
    Action.Mirrors (EngineState.seen view) (EngineState.atDesk a) (EngineState.atDesk b) := by
  intro s log
  rw [EngineState.atDesk, EngineState.atDesk, runFrom_within, runFrom_within]
  show (⟨(b.runFrom (s.desk.seen view) log).outcome,
    ⟨(b.runFrom (s.desk.seen view) log).state, s.cache, s.sets, s.statistics⟩,
    (b.runFrom (s.desk.seen view) log).log⟩ : Ending (EngineState ω) α) = _
  rw [h s.desk log]
  rfl

theorem EngineState.outside_mirrors {a : Action ω' α} {b : Action ω α}
    (h : Action.Mirrors view a b) :
    Action.Mirrors (EngineState.seen view) (EngineState.outside a) (EngineState.outside b) :=
  atDesk_mirrors (Desk.outside_mirrors h)

theorem EngineState.withSets_mirrors (view : ω' → ω) (a : Action SetCache α) :
    Action.Mirrors (EngineState.seen view) (EngineState.withSets a) (EngineState.withSets a) :=
  fun _ _ => rfl

namespace Engine.IsMirror

variable {e' : Engine ω'} {e : Engine ω} (h : e'.IsMirror view e)
include h

/-! ### Loading -/

theorem isDebug : e'.isDebug = e.isDebug := congrArg (·.debug.truthy) h.configuration

theorem fetchRules {source' : RuleSource ω'} {source : RuleSource ω}
    (hsource : source'.IsMirror view source) :
    Action.Mirrors (EngineState.seen view) (e'.fetchRules source') (e.fetchRules source) := by
  unfold Engine.fetchRules
  rw [h.configuration]
  exact EngineState.outside_mirrors (hsource.fetch _ _ _)

theorem loadRules (clock : Clock) :
    Action.Mirrors (EngineState.seen view) (e'.loadRules clock) (e.loadRules clock) := by
  refine loadRules_mirrors h.configuration (fun _ _ => rfl) (fun _ => rfl) ?_
  have hsource := h.source
  generalize e'.source = source', e.source = source at hsource ⊢
  cases hsource with
  | none => exact .none
  | some hsource => exact .some (h.fetchRules hsource)

/-! ### Evaluating -/

theorem meets (rule : Rule) (data : Value) :
    Action.Mirrors (EngineState.seen view) (e'.meets rule data) (e.meets rule data) := by
  unfold Engine.meets Engine.limits Engine.comparator
  rw [h.configuration]
  exact .bind (.ofExcept _) fun _ => .bind (.ofExcept _) fun _ =>
    EngineState.withSets_mirrors view _

theorem wording (rule : Rule) (data : Value) : e'.wording rule data = e.wording rule data := by
  unfold Engine.wording Engine.entityIn
  rw [h.configuration]

theorem evaluateRule (clock : Clock) (rule : Rule) (data : Value) (context : EvaluationContext) :
    Action.Mirrors (EngineState.seen view) (e'.evaluateRule clock rule data context)
      (e.evaluateRule clock rule data context) := by
  refine .bind (h.meets rule data) fun met => .bind (.ofExcept _) fun now => ?_
  rw [h.wording]
  cases met with
  | true => exact .bind (.ofExcept _) fun wording => .pure _
  | false => exact .pure _

theorem scheduleIncrement (ruleId : String) :
    Action.Mirrors (EngineState.seen view) (e'.scheduleIncrement ruleId)
      (e.scheduleIncrement ruleId) := by
  unfold Engine.scheduleIncrement
  have hsource := h.source
  generalize e'.source = source', e.source = source at hsource
  cases hsource with
  | none => exact .pure ()
  | @some source' source hsource =>
      have hincrement := hsource.increment
      simp only [Option.bind_some]
      generalize source'.increment = count', source.increment = count at hincrement
      cases hincrement with
      | none => exact .pure ()
      | some hcount =>
          refine .bind (EngineState.atDesk_mirrors (Desk.submit_mirrors _)) fun taken => ?_
          cases taken with
          | false => exact .record _ _
          | true => exact .pure ()

theorem settle (clock : Clock) (data : Value) (context : EvaluationContext) (entry : RuleInput) :
    Action.Mirrors (EngineState.seen view) (e'.settle clock data context entry)
      (e.settle clock data context entry) := by
  have hrule : Action.Mirrors (EngineState.seen view) (e'.settleRule clock data context entry)
      (e.settleRule clock data context entry) := by
    refine .bind (.ofExcept _) fun rule => .bind (h.evaluateRule clock rule data context)
      fun result => ?_
    split
    · exact .bind (h.scheduleIncrement rule.id) fun _ => .pure result
    · exact .pure result
  refine .bind (.attempt hrule) fun outcome => ?_
  cases outcome with
  | ok result => exact .pure _
  | error fault =>
      exact .bind (.bind (.ofExcept _) fun _ => .record _ _) fun _ => .pure none

theorem settleAll (clock : Clock) (data : Value) (context : EvaluationContext)
    (entries : List RuleInput) :
    Action.Mirrors (EngineState.seen view) (e'.settleAll clock data context entries)
      (e.settleAll clock data context entries) := by
  induction entries with
  | nil => exact .pure []
  | cons entry rest ih =>
      exact .bind (h.settle clock data context entry) fun result =>
        .bind ih fun results => .pure _

theorem buildContext (clock : Clock) (payload : Payload) (input : ContextInput) :
    Action.Mirrors (EngineState.seen view) (e'.buildContext clock payload input)
      (e.buildContext clock payload input) := by
  unfold Engine.buildContext Engine.plainContext Engine.checkContext Engine.readContext
    Engine.contextFields Engine.contextOver
  rw [h.configuration]
  refine .bind (.ofExcept _) fun checked => ?_
  cases checked with
  | ok c => exact .pure c
  | bad issues => exact .bind (.record _ _) fun _ => .bind (.ofExcept _) fun now => .pure _

theorem evaluateRules (clock : Clock) (entries : List RuleInput) (payload : Payload)
    (input : ContextInput) :
    Action.Mirrors (EngineState.seen view) (e'.evaluateRules clock entries payload input)
      (e.evaluateRules clock entries payload input) := by
  rw [evaluateRules_eq, evaluateRules_eq]
  exact .bind (h.buildContext clock payload input) fun context =>
    .bind (h.settleAll clock payload.value context entries) fun outcomes =>
      .bind (.modify fun _ => rfl) fun _ =>
        .bind (.bind (.ofExcept _) fun _ => .modify fun _ => rfl) fun _ => .pure _

theorem evaluateGiven (clock : Clock) (rules : RuleSet) (payload : Payload)
    (input : ContextInput) :
    Action.Mirrors (EngineState.seen view) (e'.evaluateGiven clock rules payload input)
      (e.evaluateGiven clock rules payload input) := by
  unfold Engine.evaluateGiven
  cases rules.iterate with
  | ok entries => exact h.evaluateRules clock entries payload input
  | error fault => exact .bind (h.buildContext clock payload input) fun _ => .throw fault

theorem evaluateLoaded (clock : Clock) (payload : Payload) (input : ContextInput) :
    Action.Mirrors (EngineState.seen view) (e'.evaluateLoaded clock payload input)
      (e.evaluateLoaded clock payload input) := by
  refine .bind (h.loadRules clock) fun rules => ?_
  rw [h.isDebug]
  split
  · split
    · exact .bind (.record _ _) fun _ => .pure []
    · exact .pure []
  · refine .bind (h.evaluateRules clock rules payload input) fun results => ?_
    split
    · exact .bind (.record _ _) fun _ => .pure results
    · exact .pure results

theorem evaluate (clock : Clock) (payload : Payload) (input : ContextInput) :
    Action.Mirrors (EngineState.seen view) (e'.evaluate clock payload input)
      (e.evaluate clock payload input) := by
  refine .bind (.attempt (h.evaluateLoaded clock payload input)) fun outcome => ?_
  cases outcome with
  | ok results => exact .pure results
  | error fault => exact .bind (.record _ _) fun _ => .bind (.modify fun s => rfl) fun _ => .pure []

/-! ### Acting -/

theorem executeActions (clock : Clock) (results : List EvaluationResult) :
    Action.Mirrors (EngineState.seen view) (e'.executeActions clock results)
      (e.executeActions clock results) :=
  EngineState.atDesk_mirrors (h.executor.execute clock _)

theorem processEvent (clock : Clock) (payload : Payload) (input : ContextInput) :
    Action.Mirrors (EngineState.seen view) (e'.processEvent clock payload input)
      (e.processEvent clock payload input) :=
  .bind (h.evaluate clock payload input) fun results =>
    .bind (h.executeActions clock results) fun _ => .pure results

theorem runJob (clock : Clock) (job : Job) :
    Action.Mirrors (EngineState.seen view) (e'.runJob clock job) (e.runJob clock job) := by
  cases job with
  | deliver name n => exact EngineState.atDesk_mirrors (h.executor.runJob clock _)
  | increment ruleId =>
      unfold Engine.runJob
      have hsource := h.source
      generalize e'.source = source', e.source = source at hsource
      cases hsource with
      | none => exact .pure ()
      | @some source' source hsource =>
          have hincrement := hsource.increment
          simp only [Option.bind_some]
          generalize source'.increment = count', source.increment = count at hincrement
          cases hincrement with
          | none => exact .pure ()
          | some hcount =>
              refine .bind (.attempt (EngineState.outside_mirrors (hcount ruleId)))
                fun outcome => ?_
              cases outcome with
              | ok => exact .pure ()
              | error fault => exact .record _ _

theorem runJobs (clock : Clock) (jobs : List Job) :
    Action.Mirrors (EngineState.seen view) (e'.runJobs clock jobs) (e.runJobs clock jobs) := by
  induction jobs with
  | nil => exact .pure ()
  | cons job rest ih => exact .bind (h.runJob clock job) fun _ => ih

/-- The first engine does what the second does: one case for each request. -/
theorem serve {lift : (ω → ω) → ω' → ω'}
    (hlift : ∀ change w, view (lift change w) = change (view w)) (request : Request ω) :
    Action.Mirrors (EngineState.seen view) (e'.serve (request.lift lift)) (e.serve request) := by
  cases request with
  | load clock => exact .bind (h.loadRules clock) fun _ => .pure ()
  | batch clock rules payload input =>
      exact .bind (h.evaluateGiven clock rules payload input) fun _ => .pure ()
  | evaluation clock payload input => exact .bind (h.evaluate clock payload input) fun _ => .pure ()
  | event clock payload input => exact .bind (h.processEvent clock payload input) fun _ => .pure ()
  | actions clock results => exact .bind (h.executeActions clock results) fun _ => .pure ()
  | drain clock =>
      exact .bind (EngineState.atDesk_mirrors fun _ _ => rfl) fun jobs => h.runJobs clock jobs
  | clearCache => exact .modify fun _ => rfl
  | resetStatistics clock => exact .bind (.ofExcept _) fun _ => .modify fun _ => rfl
  | close => exact EngineState.atDesk_mirrors (.modify fun _ => rfl)
  | outside change =>
      exact EngineState.outside_mirrors (.modify fun w => (hlift change w).symm)

end Engine.IsMirror

end AlertRules
