import AlertRules.Proofs.Engine.Isolation
import AlertRules.Proofs.Engine.Watched
import AlertRules.Proofs.Execution.Interleaving
import AlertRules.Proofs.Number.Ages

/-!
Events that are delivered again.

Between two deliveries of an event much may happen: whatever can be asked
of the engine, and others work on the alerts. If every alert is still there and in the state in
which the first delivery left it, the second delivery is absorbed
(`Engine.redelivery_absorbed`): it has the same results but for their
times, it leaves the alerts alone, and all that it does to others is to
have alerts refused.

The second delivery is watched, so that what it does can be told.
-/

namespace AlertRules

open AlertRules.Action

variable {ω : Type}

/-! ### Watched stores and sources -/

/-- Whether a deed is an alert that the store refused. -/
def Deed.isRefusal : Deed → Bool
  | .created _ (.ok none) => true
  | _ => false

/-- The deeds that are more than a refusal. -/
def Watched.effects (w : Watched ω) : List Deed := w.deeds.filter (!·.isRefusal)

namespace SharedStore

def watched (shared : SharedStore ω) : SharedStore (Watched ω) where
  store := shared.store.watched
  alerts w := shared.alerts w.world
  find_alerts organizationId fingerprint statuses w := fun log =>
    shared.find_alerts organizationId fingerprint statuses w.world log
  create_refuses a w hopen := by
    intro log
    rw [Executor.runFrom_create]
    exact shared.create_refuses a w.world hopen log
  create_inserts a w hnone := by
    intro log
    rw [Executor.runFrom_create]
    exact shared.create_inserts a w.world hnone log

theorem watched_refusalLeaves (shared : SharedStore ω) :
    Executor.RefusalLeaves shared.watched Watched.effects := by
  intro a w hopen log
  obtain ⟨hrefused, -⟩ := shared.create_refuses a w.world hopen log
  show Watched.effects ((shared.store.watched.create a).runFrom w log).state = w.effects
  rw [Executor.runFrom_create]
  simp [Watched.effects, hrefused, Deed.isRefusal]

end SharedStore

namespace Executor

variable {e : Executor ω} {shared : SharedStore ω} {β : Type} {view : ω → β}

/-! ### Watched executors -/

theorem FindLeaves.watched (h : e.FindLeaves view) :
    e.watched.FindLeaves fun w => view w.world := by
  intro store' hstore' organizationId fingerprint w log
  obtain ⟨store, hstore, rfl⟩ := Option.map_eq_some_iff.mp hstore'
  exact h store hstore organizationId fingerprint w.world log

theorem CreateLeaves.watched (h : e.CreateLeaves view) :
    e.watched.CreateLeaves fun w => view w.world := by
  intro store' hstore' a w log
  obtain ⟨store, hstore, rfl⟩ := Option.map_eq_some_iff.mp hstore'
  rw [runFrom_create]
  exact h store hstore a w.world log

theorem SendLeaves.watched (h : e.SendLeaves view) :
    e.watched.SendLeaves fun w => view w.world := by
  intro outlet' houtlet' clock n w log
  obtain ⟨outlet, houtlet, rfl⟩ := List.mem_map.mp houtlet'
  exact h outlet houtlet clock n w.world log

theorem watched_findLeaves (e : Executor ω) : e.watched.FindLeaves Watched.effects := by
  intro store' hstore' organizationId fingerprint w log
  obtain ⟨store, -, rfl⟩ := Option.map_eq_some_iff.mp hstore'
  rfl

theorem Reliable.watched (h : e.Reliable shared) : e.watched.Reliable shared.watched where
  store := by
    show e.store.map AlertStore.watched = some shared.store.watched
    rw [h.store, Option.map_some]
  send := SendLeaves.watched (e := e) h.send
  find organizationId fingerprint w := fun log => h.find organizationId fingerprint w.world log
  named a w := by
    intro log
    show ((shared.store.watched.create a).runFrom w log).outcome ≠ .ok (some "")
    rw [runFrom_create]
    exact h.named a w.world log

end Executor

namespace Engine

variable {e : Engine ω} {shared : SharedStore ω} {given : ω → RuleSet} {rules : RuleSet}
  {s : EngineState ω}

/-! ### Watched engines -/

theorem FetchLeaves.watched {view : ω → RuleSet × List StoredAlert} (h : e.FetchLeaves view) :
    e.watched.FetchLeaves fun w => view w.world := by
  intro source' hsource' w log
  obtain ⟨source, hsource, rfl⟩ := Option.map_eq_some_iff.mp hsource'
  exact h source hsource w.world log

theorem watched_fetchLeaves (e : Engine ω) : e.watched.FetchLeaves Watched.effects := by
  intro source' hsource' w log
  obtain ⟨source, -, rfl⟩ := Option.map_eq_some_iff.mp hsource'
  rfl

theorem Reliable.watched (h : e.Reliable shared given) :
    e.watched.Reliable shared.watched fun w => given w.world where
  executor := h.executor.watched
  fetch source' hsource' w log := by
    obtain ⟨source, hsource, rfl⟩ := Option.map_eq_some_iff.mp hsource'
    exact h.fetch source hsource w.world log
  fetchLeaves := h.fetchLeaves.watched
  incrementLeaves source' count' hsource' hcount' id w log := by
    obtain ⟨source, hsource, rfl⟩ := Option.map_eq_some_iff.mp hsource'
    obtain ⟨count, hcount, rfl⟩ := Option.map_eq_some_iff.mp hcount'
    exact h.incrementLeaves source count hsource hcount id w.world log
  findLeaves := h.findLeaves.watched
  createLeaves := h.createLeaves.watched
  sendLeaves := h.sendLeaves.watched
  ages := h.ages

theorem entriesOf_watched (e : Engine ω) (rules : RuleSet) :
    e.watched.entriesOf rules = e.entriesOf rules := by
  unfold entriesOf watched
  cases e.source <;> rfl

theorem resultsOf_watched (e : Engine ω) (rules : RuleSet) (clock : Clock) (payload : Payload)
    (input : ContextInput) :
    e.watched.resultsOf rules clock payload input = e.resultsOf rules clock payload input := by
  unfold resultsOf
  rw [entriesOf_watched]
  rfl

theorem Ready.watched (hs : e.Ready shared given rules s) :
    e.watched.Ready shared.watched (fun w => given w.world) rules s.watched where
  given_eq := hs.given_eq
  cache kept hkept := (e.entriesOf_watched rules).trans (hs.cache kept hkept)
  sets := hs.sets
  named := hs.named

/-! ### Runs -/

/-- A request leaves alone what events are told again by: the world changes in a way that
leaves the rules alone and takes no ids from alerts. -/
def Request.Spares (shared : SharedStore ω) (given : ω → RuleSet) : Request ω → Prop
  | .outside change => (∀ w, given (change w) = given w) ∧
      ∀ w, Named (shared.alerts w) → Named (shared.alerts (change w))
  | _ => True

theorem runJob_ready (h : e.Reliable shared given) (clock : Clock) (job : Job)
    (hs : e.Ready shared given rules s) :
    (e.runJob clock job).Ends s fun _ s' => e.Ready shared given rules s' := by
  cases job with
  | deliver name n =>
      have hsend := Executor.runJob_leaves (fun outlet houtlet clock n =>
        (h.sendLeaves outlet houtlet clock n).prod (h.executor.send outlet houtlet clock n)) clock
          (.deliver name n) s.desk
      refine (EngineState.atDesk_ends hsend).mono ?_
      rintro outcome s' ⟨hsame, hcache, hsets⟩
      obtain ⟨hgiven, halerts⟩ := Prod.mk.inj hsame
      exact hs.of_desk hgiven (.of_eq halerts) hcache fun h => hsets ▸ h
  | increment ruleId =>
      unfold runJob
      cases hsource : e.source with
      | none => exact .pure hs
      | some source =>
          cases hcount : source.increment with
          | none =>
              simp only [Option.bind_some, hcount]
              exact .pure hs
          | some count =>
              simp only [Option.bind_some, hcount]
              refine .bind_attempt (EngineState.outside_ends
                (h.incrementLeaves source count hsource hcount ruleId s.desk.world)) ?_
              rintro outcome s' ⟨hsame, -, hcache, hsets⟩
              obtain ⟨hgiven, halerts⟩ := Prod.mk.inj hsame
              have hs' := hs.of_desk hgiven (.of_eq halerts) hcache fun h => hsets ▸ h
              cases outcome with
              | ok => exact .pure hs'
              | error fault => exact .record hs'

theorem runJobs_ready (h : e.Reliable shared given) (clock : Clock) (jobs : List Job)
    (hs : e.Ready shared given rules s) :
    (e.runJobs clock jobs).Ends s fun _ s' => e.Ready shared given rules s' := by
  induction jobs generalizing s with
  | nil => exact .pure hs
  | cons job rest ih =>
      exact .bind (runJob_ready h clock job hs) (fun _ _ hs' => ih hs') fun _ _ hs' => hs'

/-- What is asked of a reliable engine keeps its state ready: one case for each request. -/
theorem serve_ready (h : e.Reliable shared given) (hplain : rules.IsPlain) {request : Request ω}
    (hrequest : request.IsPlain) (hspares : request.Spares shared given) :
    (e.serve request).Keeps (e.Ready shared given rules) := by
  intro s hs
  cases request with
  | load clock =>
      exact .bind (loadRules_ends h h.fetchLeaves hs) (fun _ _ hs' => .pure hs'.2.1)
        fun _ _ hs' => hs'.2.1
  | batch clock batch payload input =>
      have hbatch : (e.evaluateGiven clock batch payload input).Keeps
          (e.Ready shared given rules) :=
        evaluateGiven_keeps fun entries hentries _ hs =>
          (evaluateRules_ends (hrequest entries hentries) payload input hs.sets).mono
            fun _ _ hs' => hs.evaluated hs'.2
      exact .bind (hbatch s hs) (fun _ _ hs' => .pure hs') fun _ _ hs' => hs'
  | evaluation clock payload input =>
      exact .bind (evaluate_ends h h.fetchLeaves hplain payload input hs)
        (fun _ _ hs' => .pure hs'.2.ready) fun _ _ hs' => hs'.2.ready
  | event clock payload input =>
      exact .bind (processEvent_settles h hplain payload input hs) (fun _ _ hs' => .pure hs'.2.1)
        fun _ _ hs' => hs'.2.1
  | actions clock results =>
      exact .bind_returns (executeActions_settles h results hs) fun _ _ hs' => .pure hs'.1
  | drain clock =>
      have htake : (EngineState.atDesk (Desk.takeJobs : Action (Desk ω) (List Job))).Ends s
          fun _ s' => e.Ready shared given rules s' :=
        fun _ => ⟨hs.given_eq, hs.cache, hs.sets, hs.named⟩
      exact .bind htake (fun jobs _ hs' => runJobs_ready h clock jobs hs') fun _ _ hs' => hs'
  | clearCache => exact .modify ⟨hs.given_eq, nofun, SetCache.isPlain_empty, hs.named⟩
  | resetStatistics clock =>
      exact .bind_ofExcept (fun _ _ => .modify ⟨hs.given_eq, hs.cache, hs.sets, hs.named⟩)
        fun _ _ => hs
  | close => exact fun _ => ⟨hs.given_eq, hs.cache, hs.sets, hs.named⟩
  | outside change =>
      exact fun _ => ⟨(hspares.1 _).trans hs.given_eq, hs.cache, hs.sets, hspares.2 _ hs.named⟩

theorem serveAll_ready (h : e.Reliable shared given) (hplain : rules.IsPlain)
    {requests : List (Request ω)}
    (hrequests : ∀ request ∈ requests, request.IsPlain ∧ request.Spares shared given) :
    (e.serveAll requests).Keeps (e.Ready shared given rules) :=
  serveAll_keeps fun request hrequest =>
    serve_ready h hplain (hrequests request hrequest).1 (hrequests request hrequest).2

theorem ready_initial {clock : Clock} {start : ω} (hnamed : Named (shared.alerts start))
    (h : EngineState.initial clock start = .ok s) :
    e.Ready shared given (given start) s := by
  obtain ⟨now, -, h⟩ := exists_of_bind_eq_ok h
  cases h
  exact ⟨rfl, nofun, SetCache.isPlain_empty, hnamed⟩

/-! ### The second delivery -/

/-- What settled the results of an event settles them at another time, as long
as the alerts stand. -/
theorem Settled.again {clock clock' : Clock} {now now' : Moment} (hnow : clock.now = .ok now)
    (hnow' : clock'.now = .ok now') {payload : Payload} {input : ContextInput}
    {alerts alerts' : List StoredAlert} (hsub : alerts ⊆ alerts')
    (h : e.Settled alerts (e.resultsOf rules clock payload input)) :
    e.Settled alerts' (e.resultsOf rules clock' payload input) := by
  intro submission hsubmission htriggered hactions
  have hstamped := EvaluationResult.submissions_of_stamped
    (resultsOf_stamped (e := e) hnow hnow' rules payload input now)
  have hmem := List.mem_map_of_mem (f := (·.stamped now)) hsubmission
  rw [hstamped] at hmem
  obtain ⟨earlier, hearlier, heq⟩ := List.mem_map.mp hmem
  have htriggered' : earlier.triggered = submission.triggered := by
    simpa [Submission.stamped] using congrArg Submission.triggered heq
  have hactions' : earlier.actions = submission.actions := by
    simpa [Submission.stamped] using congrArg Submission.actions heq
  have hsettled := h earlier hearlier (htriggered' ▸ htriggered) (hactions' ▸ hactions)
  rw [← Executor.absorbs_stamped, heq, Executor.absorbs_stamped] at hsettled
  exact hsettled.mono hsub

/-- An event that was processed before, and whose alerts stand as they did then,
is absorbed: the second delivery triggers the rules that the first did, leaves
the alerts alone, and comes to refusals and to increments for the pool. -/
theorem redelivery_absorbed (h : e.Reliable shared given) {start : ω}
    (hplain : (given start).IsPlain) (hnamed : Named (shared.alerts start)) {clock₀ : Clock}
    {s₀ : EngineState ω} (hinitial : EngineState.initial clock₀ start = .ok s₀)
    {before after : List (Request ω)}
    (hbefore : ∀ request ∈ before, request.IsPlain ∧ request.Spares shared given)
    (hafter : ∀ request ∈ after, request.IsPlain ∧ request.Spares shared given)
    {clock clock' : Clock} {now now' : Moment} (hnow : clock.now = .ok now)
    (hnow' : clock'.now = .ok now') (payload : Payload) (input : ContextInput)
    (log₁ log₂ log₃ log₄ : Log) :
    let s₁ := ((e.serveAll before).runFrom s₀ log₁).state
    let first := (e.processEvent clock payload input).runFrom s₁ log₂
    let s₂ := ((e.serveAll after).runFrom first.state log₃).state
    let second := (e.watched.processEvent clock' payload input).runFrom s₂.watched log₄
    shared.alerts first.state.desk.world ⊆ shared.alerts s₂.desk.world →
      (e.processEvent clock' payload input).runFrom s₂ log₄ =
          ⟨second.outcome, second.state.unwatched, second.log⟩ ∧
        shared.alerts second.state.desk.world.world = shared.alerts s₂.desk.world ∧
        (∀ deed ∈ second.state.desk.world.deeds, deed.isRefusal = true) ∧
        (∃ ids : List String,
          second.state.desk.pool.jobs = s₂.desk.pool.jobs ++ ids.map Job.increment) ∧
        ∃ results results', first.outcome = .ok results ∧ second.outcome = .ok results' ∧
          (∀ t, results'.map (·.stamped t) = results.map (·.stamped t)) ∧
          EvaluationResult.triggeredIds results' = EvaluationResult.triggeredIds results := by
  intro s₁ first s₂ second hsub
  have hs₁ : e.Ready shared given (given start) s₁ :=
    serveAll_ready h hplain hbefore _ (ready_initial hnamed hinitial) log₁
  obtain ⟨hfirst, hready, hsettled⟩ := processEvent_settles h hplain payload input hs₁ log₂
  have hs₂ : e.Ready shared given (given start) s₂ := serveAll_ready h hplain hafter _ hready log₃
  have hagain := Settled.again hnow hnow' hsub (hsettled now hnow)
  rw [← resultsOf_watched] at hagain
  have hfetch : e.watched.FetchLeaves shared.watched.alerts := fun source hsource =>
    (h.fetchLeaves.watched source hsource).comp Prod.snd
  -- one view of the watched world shows the alerts, another the deeds
  obtain ⟨hsecond, halerts, ids, hpool⟩ := processEvent_absorbed h.watched hfetch
    h.executor.watched.findLeaves (Executor.refusalLeaves_alerts shared.watched) hplain payload
    input hs₂.watched hagain log₄
  obtain ⟨-, heffects, -⟩ := processEvent_absorbed h.watched e.watched_fetchLeaves
    e.executor.watched_findLeaves shared.watched_refusalLeaves hplain payload input hs₂.watched
    hagain log₄
  have hstamped := resultsOf_stamped (e := e) hnow hnow' (given start) payload input
  rw [resultsOf_watched] at hsecond
  refine ⟨e.processEvent_mirrors clock' payload input s₂.watched log₄, halerts, ?_, ⟨ids, ?_⟩,
    _, _, hfirst, hsecond, hstamped, EvaluationResult.triggeredIds_of_stamped (hstamped now)⟩
  · intro deed hdeed
    have hnone := List.filter_eq_nil_iff.mp heffects deed hdeed
    simpa using hnone
  · exact congrArg Pool.jobs hpool

/-- An engine with one rule, the store in memory and one channel. -/
def withRule (rule : Rule) : Engine (List StoredAlert) where
  configuration := (Executor.withSlack ledger.store).configuration
  source := some ⟨fun _ _ _ => pure (.entries [.rule rule]), none⟩
  executor := .withSlack ledger.store
  named := ⟨rfl, rfl⟩

theorem reliable_withRule (rule : Rule) :
    (withRule rule).Reliable ledger fun _ => .entries [.rule rule] where
  executor := Executor.reliable_ledger (Team.shares_withSlack ledger) fun _ => ⟨_, rfl⟩
  fetch source hsource w := by
    cases hsource
    exact .pure rfl
  fetchLeaves source hsource := by
    cases hsource
    exact .pure _
  incrementLeaves source count hsource hcount := by
    cases hsource
    cases hcount
  findLeaves _ _ _ _ _ _ := rfl
  createLeaves _ _ _ _ _ := rfl
  sendLeaves _ _ _ _ _ _ := rfl
  ages age := ⟨_, Value.less_float age _⟩

def rushOrder : Rule where
  id := "rule-1"
  organizationId := "org-1"
  moduleName := none
  name := "Rush Order"
  kind := "threshold"
  conditions := [("field", .text "kind"), ("operator", .text "in"),
    ("value", .list [.int 1, .int 2])]
  actions := { notify := ["slack"] }
  severity := .warning
  enabled := true
  priority := 0
  metadata := []
  triggerCount := 0
  createdAt := none
  updatedAt := none

theorem isPlain_rushOrder : (RuleSet.entries [.rule rushOrder]).IsPlain := by
  intro entries hentries entry hentry rule hrule condition hcondition
  cases hentries
  cases List.mem_singleton.mp hentry
  cases hrule
  have hparsed : Condition.parse (.object rushOrder.conditions) =
      .ok (.leaf ⟨"kind", .isIn, .literal (.list [.int 1, .int 2])⟩) := by rfl
  rw [hparsed] at hcondition
  cases hcondition
  intro items hitems item hitem
  cases hitems
  simp only [List.mem_cons, List.not_mem_nil, or_false] at hitem
  rcases hitem with rfl | rfl
  · trivial
  · trivial

theorem now_start : ({} : Clock).now = .ok ⟨2026, 1, 1, 0, 0, 0, 0, some 0⟩ := by
  decide +kernel

/-- An order that is delivered twice raises one alert, also when the rules are
forgotten in between. -/
theorem redelivery_absorbed_order :
    let e := withRule rushOrder
    let payload := Payload.ofValue (.object [("id", .text "o-1"), ("kind", .int 2)])
    let now : Moment := ⟨2026, 1, 1, 0, 0, 0, 0, some 0⟩
    let before : List (Request (List StoredAlert)) := []
    let after : List (Request (List StoredAlert)) := [.clearCache]
    let s₀ : EngineState (List StoredAlert) :=
      { desk := { world := [] }, statistics := { lastEvaluationAt := now } }
    let s₁ := ((e.serveAll before).runFrom s₀ []).state
    let first := (e.processEvent {} payload (.document .null)).runFrom s₁ []
    let s₂ := ((e.serveAll after).runFrom first.state []).state
    let second := (e.watched.processEvent {} payload (.document .null)).runFrom s₂.watched []
    (ledger.alerts first.state.desk.world).map StoredAlert.id = ["alert-1"] ∧
      ledger.alerts second.state.desk.world.world = ledger.alerts s₂.desk.world ∧
      ∀ deed ∈ second.state.desk.world.deeds, deed.isRefusal = true := by
  intro e payload now before after s₀ s₁ first s₂ second
  have hinitial : EngineState.initial {} ([] : List StoredAlert) = .ok s₀ := by
    rw [EngineState.initial, now_start]
    rfl
  have hnamed : Named (ledger.alerts []) := fun _ h => absurd h List.not_mem_nil
  have hreliable : e.Reliable ledger fun _ => .entries [.rule rushOrder] := reliable_withRule _
  have hraised : (ledger.alerts first.state.desk.world).map StoredAlert.id = ["alert-1"] := by
    decide +kernel
  have hbefore : ∀ request ∈ before, request.IsPlain ∧
      request.Spares ledger fun _ => .entries [.rule rushOrder] := List.forall_mem_nil _
  have hafter : ∀ request ∈ after, request.IsPlain ∧
      request.Spares ledger fun _ => .entries [.rule rushOrder] :=
    List.forall_mem_singleton.mpr ⟨trivial, trivial⟩
  -- What the engine computes is not to be computed again.
  clear_value e
  have hkept : s₂.desk.world = first.state.desk.world := rfl
  obtain ⟨-, halerts, hdeeds, -⟩ := redelivery_absorbed hreliable isPlain_rushOrder hnamed hinitial
    hbefore hafter now_start now_start payload (.document .null) [] [] [] []
    (hkept ▸ List.Subset.refl _)
  exact ⟨hraised, halerts, hdeeds⟩

end Engine

end AlertRules
