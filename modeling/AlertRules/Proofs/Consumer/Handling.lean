import AlertRules.Consumer.Rules
import AlertRules.Proofs.Consumer.Acknowledgement
import AlertRules.Proofs.Engine.Loading
import AlertRules.Proofs.Enrichment

/-!
Which events are handled, and which are evaluated.

Handling an event works as soon as its context and its payload can be read: a
source that fails, rules that are no list and a batch that is lost all count as no
results. An event that was handled was evaluated exactly if rules were there for
it and their batch came to its end (`acknowledged_iff`); while the source fails, events
are acknowledged that no rule ever saw (`acknowledged_during_outage`).
-/

namespace AlertRules

open AlertRules.Action

/-! ### Reading an event -/

namespace RuleHandler

variable {ω : Type} {h : RuleHandler ω} {event : Event} {clock : Clock}

/-- The payload that is evaluated for a module, if it can be told. -/
def payloadOf (h : RuleHandler ω) (moduleName data : Value) : Except Fault Payload :=
  match h.enrichment with
  | none => .ok (.ofValue data)
  | some enrichment =>
    if moduleName.truthy then .ofTable <$> enrichment.derived moduleName data
    else .ok (.ofValue data)

/-- The context and the payload of an event, if they can be read. -/
def read (h : RuleHandler ω) (event : Event) : Except Fault (Table × Payload) := do
  let context ← Table.ofValue (event.context.orElse (.object []))
  let payload ← h.payloadOf (h.moduleFor context) (event.data.orElse (.object []))
  pure (context, payload)

/-- Whether an event can be read. -/
def canRead (h : RuleHandler ω) (event : Event) : Bool := (h.read event).toOption.isSome

theorem canRead_iff :
    h.canRead event ↔ ∃ context payload, h.read event = .ok (context, payload) := by
  unfold canRead
  cases h.read event with
  | ok parts => exact ⟨fun _ => ⟨parts.1, parts.2, rfl⟩, fun _ => rfl⟩
  | error fault =>
      constructor
      · intro h
        cases h
      · rintro ⟨_, _, h⟩
        cases h

def prepare {σ : Type} (h : RuleHandler ω) (event : Event) : Action σ (Table × Payload) := do
  let context ← Action.ofExcept (Table.ofValue (event.context.orElse (.object [])))
  let payload ← h.payloadFor (h.moduleFor context) (event.data.orElse (.object []))
  pure (context, payload)

theorem payloadFor_ends {σ : Type} (h : RuleHandler ω) (moduleName data : Value) (s : σ) :
    (h.payloadFor moduleName data).Ends s fun outcome s' =>
      outcome = h.payloadOf moduleName data ∧ s' = s := by
  unfold payloadFor payloadOf
  cases h.enrichment with
  | none => exact .pure ⟨rfl, rfl⟩
  | some enrichment =>
      dsimp only
      split
      · refine .map ((enrichment.enrich_ends moduleName data s).mono ?_)
        rintro outcome s' ⟨rfl, rfl⟩
        exact ⟨rfl, rfl⟩
      · exact .pure ⟨rfl, rfl⟩

theorem prepare_ends {σ : Type} (h : RuleHandler ω) (event : Event) (s : σ) :
    (h.prepare event).Ends s fun outcome s' => outcome = h.read event ∧ s' = s := by
  refine .bind_ofExcept_computes rfl fun context _ => ?_
  refine .bind_computes (h.payloadFor_ends _ _ s) ?_ fun _ hs => hs
  rintro payload _ - rfl
  exact .pure ⟨rfl, rfl⟩

theorem evaluate_eq (h : RuleHandler ω) (clock : Clock) (event : Event) :
    h.evaluate clock event = (do
      let parts ← h.prepare event
      h.engine.processEvent clock parts.2 (.table parts.1)) := by
  unfold evaluate prepare
  simp only [bind_assoc, pure_bind]

end RuleHandler

/-! ### Handling -/

namespace RuleHandler

variable {ω : Type} {h : RuleHandler ω} {event : Event} {clock : Clock}

theorem handle_ends (h : RuleHandler ω) (clock : Clock) (event : Event) (s : EngineState ω) :
    (h.handle clock event).Ends s fun outcome _ => outcome = .ok (h.canRead event) := by
  have hevaluate : (h.evaluate clock event).Ends s fun outcome _ =>
      outcome.toOption.isSome = h.canRead event := by
    rw [evaluate_eq, canRead]
    refine .bind (h.prepare_ends event s) ?_ ?_
    · rintro parts _ ⟨hparts, rfl⟩
      rw [← hparts]
      refine (h.engine.processEvent_succeeds clock parts.2 (.table parts.1) _).mono ?_
      rintro _ _ ⟨results, rfl⟩
      rfl
    · rintro fault _ ⟨hfault, rfl⟩
      rw [← hfault]
      rfl
  refine .bind_attempt hevaluate fun outcome s' houtcome => ?_
  rw [← houtcome]
  cases outcome with
  | ok results =>
      dsimp only
      split
      · exact .bind_record (.pure rfl)
      · exact .pure rfl
  | error fault => exact .bind_record (.pure rfl)

/-- In a run with a new broker, only what is malformed and what can be read is
acknowledged. -/
theorem run_warranted (h : RuleHandler ω) (clock : Clock) (w : Worker) (streams : List String)
    (quota : Quota) (rounds : Nat) {b : Broker} (hnew : b.calls = []) (s : EngineState ω) :
    ((Consumer.ofBroker w (h.handle clock)).run streams quota rounds).Ends (b, s) fun _ s' =>
      ∀ call ∈ s'.1.calls, call.Warranted w b.reads h.canRead :=
  Consumer.run_warranted (h.handle_ends clock) streams quota rounds s hnew

def batch (h : RuleHandler ω) (clock : Clock) (event : Event) (s : EngineState ω) (log : Log)
    (context : Table) (payload : Payload) (rules : List RuleInput) :
    Except Fault (List EvaluationResult) :=
  let loaded := (h.engine.loadRules clock).runFrom s ((h.prepare event).runFrom s log).log
  if rules.isEmpty then .ok []
  else ((h.engine.evaluateRules clock rules payload (.table context)).runFrom loaded.state
    loaded.log).outcome

/-- An event was evaluated: it could be read, rules were there for it, and its
results are what they come to. -/
structure Evaluated (h : RuleHandler ω) (clock : Clock) (event : Event) (s : EngineState ω)
    (log : Log) (context : Table) (payload : Payload) (rules : List RuleInput)
    (results : List EvaluationResult) : Prop where
  read : h.read event = .ok (context, payload)
  obtained : h.engine.Obtained clock s ((h.prepare event).runFrom s log).log rules
  evaluate : ((h.evaluate clock event).runFrom s log).outcome = .ok results
  batch : h.batch clock event s log context payload rules = .ok results

/-- An event that can be read is evaluated by the rules that are there for it, if their batch
comes to its end. -/
theorem evaluated_of_batch {s : EngineState ω} {log : Log} {context : Table} {payload : Payload}
    {rules : List RuleInput} {results : List EvaluationResult}
    (hread : h.read event = .ok (context, payload))
    (hobtained : h.engine.Obtained clock s ((h.prepare event).runFrom s log).log rules)
    (hbatch : h.batch clock event s log context payload rules = .ok results) :
    h.Evaluated clock event s log context payload rules results := by
  obtain ⟨hprepare, hstate⟩ := h.prepare_ends event s log
  rw [hread] at hprepare
  have houtcome := h.engine.evaluate_outcome payload (.table context) hobtained.loaded
  refine ⟨hread, hobtained, ?_, hbatch⟩
  rw [evaluate_eq, runFrom_bind_ok hprepare, hstate, Engine.processEvent_outcome, houtcome]
  unfold batch at hbatch
  dsimp only at hbatch
  split at hbatch
  next hempty => rw [if_pos hempty, ← Except.ok.inj hbatch]
  next hsome =>
      rw [if_neg hsome, hbatch]
      rfl

theorem exists_batch {now : Moment} (hnow : clock.now = .ok now) {rules : List RuleInput}
    (hnamed : ∀ entry ∈ rules, (Engine.idOf entry).hasText = true) (event : Event)
    (s : EngineState ω) (log : Log) (context : Table) (payload : Payload) :
    ∃ results, h.batch clock event s log context payload rules = .ok results := by
  unfold batch
  dsimp only
  split
  · exact ⟨[], rfl⟩
  · exact Engine.evaluateRules_succeeds hnow hnamed payload (.table context) _ _

/-- An event is acknowledged if it can be read, and only then. That an event whose
handling worked was evaluated holds exactly if rules are there for it whenever it
can be read, and their batch comes to its end. It does if they can all be named. -/
theorem acknowledged_iff (h : RuleHandler ω) {clock : Clock} {now : Moment}
    (hnow : clock.now = .ok now) (event : Event) (s : EngineState ω) (log : Log) (w : Worker)
    (stream : String) (b : Broker) :
    let handled := (h.handle clock event).runFrom s log
    let consumed :=
      ((Consumer.ofBroker w (h.handle clock)).processEvent stream event).runFrom (b, s) log
    let obtained := h.engine.Obtained clock s ((h.prepare event).runFrom s log).log
    handled.outcome = .ok (h.canRead event) ∧
      consumed.state.1.calls =
        b.calls ++ (if h.canRead event then [.acknowledge stream w.group event.id] else []) ∧
      ((handled.outcome = .ok true → ∃ context payload rules results,
          h.Evaluated clock event s log context payload rules results) ↔
        (h.canRead event → ∃ context payload rules, h.read event = .ok (context, payload) ∧
          obtained rules ∧ ∃ results, h.batch clock event s log context payload rules =
            .ok results)) ∧
      ∀ rules, obtained rules → (∀ entry ∈ rules, (Engine.idOf entry).hasText = true) →
        handled.outcome = .ok true → ∃ context payload results,
          h.Evaluated clock event s log context payload rules results := by
  intro handled consumed obtained
  have hhandled : handled.outcome = .ok (h.canRead event) := h.handle_ends clock event s log
  have hcalls := (Consumer.processEvent_acknowledges (w := w) (b := b) stream
    (h.handle_ends clock event s) log).1
  refine ⟨hhandled, hcalls, ⟨?_, ?_⟩, ?_⟩
  · intro hevaluated hread
    obtain ⟨context, payload, rules, results, hevaluated⟩ :=
      hevaluated (hhandled.trans (congrArg _ hread))
    exact ⟨context, payload, rules, hevaluated.read, hevaluated.obtained, results,
      hevaluated.batch⟩
  · intro hobtained htrue
    have hread : h.canRead event = true := Except.ok.inj (hhandled.symm.trans htrue)
    obtain ⟨context, payload, rules, hparts, hrules, results, hbatch⟩ := hobtained hread
    exact ⟨context, payload, rules, results, evaluated_of_batch hparts hrules hbatch⟩
  · intro rules hrules hnamed htrue
    have hread : h.canRead event = true := Except.ok.inj (hhandled.symm.trans htrue)
    obtain ⟨context, payload, hparts⟩ := canRead_iff.mp hread
    obtain ⟨results, hbatch⟩ := exists_batch (h := h) hnow hnamed event s log context payload
    exact ⟨context, payload, results, evaluated_of_batch hparts hrules hbatch⟩

def asking : Engine ListSource :=
  let configuration := (Engine.lookingUp (Engine.codeIn [])).configuration
  { configuration
    source := some (ListSource.source true)
    executor := { configuration, store := none, outlets := [], usesPool := false }
    named := ⟨rfl, rfl⟩ }

def beside (fetchFault : Option Fault) : EngineState ListSource where
  desk := { world := { rules := .entries [.rule (Engine.codeIn [.int 1])], fetchFault } }
  statistics := Engine.untouched.statistics

def coded : Event where
  id := "1-0"
  stream := "alerts:events"
  kind := .text "order.created"
  timestamp := .null
  data := .object [("code", .int 1)]
  context := .object [("module_name", .text "kitchen")]

/-- An order is evaluated by the rules of a list, and acknowledged. -/
theorem acknowledged_coded :
    let h : RuleHandler ListSource := {
      engine := asking
      enrichment := some [⟨"kitchen", .weightedSum "total" [("code", .int 2)]⟩] }
    let s := beside none
    let consumed :=
      ((Consumer.ofBroker ⟨"engine", "worker-1"⟩ (h.handle {})).processEvent "orders"
        coded).runFrom ({}, s) []
    consumed.state.1.calls = [.acknowledge "orders" "engine" "1-0"] ∧
      ∃ context payload rules results,
        h.Evaluated {} coded s [] context payload rules results := by
  intro h s consumed
  have hnow : ({} : Clock).now = .ok ⟨2026, 1, 1, 0, 0, 0, 0, some 0⟩ := by decide +kernel
  have hread : h.canRead coded = true := by decide +kernel
  have hobtained : h.engine.Obtained {} s ((h.prepare coded).runFrom s []).log
      [.rule (Engine.codeIn [.int 1])] := .fetched _ _ rfl rfl rfl rfl
  -- What the engine computes is not to be computed here.
  clear_value h s
  obtain ⟨hhandled, hcalls, -, hevaluated⟩ :=
    acknowledged_iff h hnow coded s [] ⟨"engine", "worker-1"⟩ "orders" {}
  rw [hread] at hhandled hcalls
  have hnamed : ∀ entry ∈ [RuleInput.rule (Engine.codeIn [.int 1])],
      (Engine.idOf entry).hasText = true := List.forall_mem_singleton.mpr rfl
  obtain ⟨context, payload, results, hresults⟩ := hevaluated _ hobtained hnamed hhandled
  exact ⟨hcalls, context, payload, _, results, hresults⟩

/-- While the source of the rules fails, an event is acknowledged that no rule was
there for. -/
theorem acknowledged_during_outage :
    let h : RuleHandler ListSource := { engine := asking }
    let s := beside (some (.service .databaseConnection "connection refused"))
    let w : Worker := ⟨"engine", "worker-1"⟩
    let consumed :=
      ((Consumer.ofBroker w (h.handle {})).processEvent "orders" coded).runFrom ({}, s) []
    ((h.handle {} coded).runFrom s []).outcome = .ok true ∧
      consumed.state.1.calls = [.acknowledge "orders" "engine" "1-0"] ∧
      ¬ ∃ context payload rules results,
        h.Evaluated {} coded s [] context payload rules results := by
  intro h s w consumed
  have hread : h.canRead coded = true := by decide +kernel
  have hhandle : (h.handle {} coded).Ends s fun outcome _ => outcome = .ok true :=
    (h.handle_ends {} coded s).mono fun _ _ houtcome => houtcome.trans (congrArg _ hread)
  have hcalls := (Consumer.processEvent_acknowledges (w := w) (b := {}) "orders" hhandle []).1
  refine ⟨hhandle [], hcalls, ?_⟩
  rintro ⟨context, payload, rules, results, hevaluated⟩
  cases hevaluated.obtained with
  | kept h => cases h
  | fetched source found hstale hsource hfetch hlist =>
      cases hsource
      cases hfetch

end RuleHandler

end AlertRules
