import AlertRules.Consumer.Basic
import AlertRules.Proofs.Action

/-!
A run of a consumer in steps.

A run is three loops inside each other, and what it has processed is known only
to the loops. Here the same run is a walk from point to point: before each call
of the consumer's three actions there is a point, which says what the run has
processed and what lies ahead of it. A run, cut off after any number of rounds,
ends at a point of the walk (`Consumer.run_walks`), so what holds at every point
holds all along the run.
-/

namespace AlertRules

open AlertRules.Action

structure Arrival where
  stream : String
  event : Event

/-- Where a run of a consumer is. -/
inductive Point where
  /-- Before it receives from the next of the streams that are left of a round. -/
  | receiving (processed : Nat) (streams : List String)
  /-- Before it handles the next event of a batch. -/
  | handling (processed : Nat) (batch : List Arrival) (streams : List String)
  /-- Before it acknowledges an event that was handled. -/
  | acknowledging (processed : Nat) (arrival : Arrival) (later : List Arrival)
      (streams : List String)
  /-- At its end, with what is left of the batch. -/
  | stopped (processed : Nat) (why : Finish) (later : List Arrival)

namespace Point

def processed : Point → Nat
  | receiving processed _ | handling processed _ _ | acknowledging processed _ _ _
  | stopped processed _ _ => processed

def progress : Point → Progress
  | stopped processed why _ => .finished processed why
  | p => .going p.processed

end Point

/-- The point at which a run is that goes on with some streams, or has stopped with
some events left. -/
def Progress.point (streams : List String) (later : List Arrival) : Progress → Point
  | .going processed => .receiving processed streams
  | .finished processed why => .stopped processed why later

theorem Progress.progress_point (streams : List String) (later : List Arrival) (p : Progress) :
    (p.point streams later).progress = p := by
  cases p <;> rfl

namespace Consumer

variable {σ : Type} {c : Consumer σ} {quota : Quota} {streams : List String}

/-! ### Steps -/

/-- Goes on with the events that come later, unless the quota is reached. -/
def goOn (quota : Quota) (processed : Nat) (later : List Arrival) (rest : List String) :
    Action σ Point :=
  if quota.isReached processed then do
    Action.info ("Processed " ++ Value.intText processed ++ " events, stopping")
    pure (.stopped processed .enough later)
  else pure (.handling processed later rest)

def step (c : Consumer σ) (quota : Quota) (streams : List String) : Point → Action σ Point
  | .receiving processed [] => pure (.receiving processed streams)
  | .receiving processed (stream :: rest) => do
    match ← c.receive stream with
    | none => pure (.stopped processed .exhausted [])
    | some events => pure (.handling processed (events.map fun event => ⟨stream, event⟩) rest)
  | .handling processed [] rest => pure (.receiving processed rest)
  | .handling processed (arrival :: later) rest => do
    match ← (c.handle arrival.event).attempt with
    | .ok true => pure (.acknowledging processed arrival later rest)
    | .ok false =>
      Action.warn ("Failed to process event " ++ arrival.event.id)
      goOn quota processed later rest
    | .error fault =>
      Action.error ("Error processing event " ++ arrival.event.id ++ ": " ++ fault.message)
      goOn quota processed later rest
  | .acknowledging processed arrival later rest => do
    match ← (c.acknowledge arrival.stream arrival.event).attempt with
    | .ok () =>
      Action.info ("Processed event " ++ arrival.event.id)
      goOn quota (processed + 1) later rest
    | .error fault =>
      Action.error ("Error processing event " ++ arrival.event.id ++ ": " ++ fault.message)
      goOn quota processed later rest
  | .stopped processed why later => pure (.stopped processed why later)

def walk (c : Consumer σ) (quota : Quota) (streams : List String) : Nat → Point → Action σ Point
  | 0, p => pure p
  | steps + 1, p => do c.walk quota streams steps (← c.step quota streams p)

/-- Goes so many steps from the start of a run. -/
def after (c : Consumer σ) (streams : List String) (quota : Quota) (steps : Nat) :
    Action σ Point := do
  Action.info ("Starting consumer for streams: " ++
    (Value.list (streams.map .text)).inspectText)
  c.walk quota streams steps (.receiving 0 [])

/-! ### Walks -/

theorem walk_add (c : Consumer σ) (quota : Quota) (streams : List String) (steps more : Nat)
    (p : Point) :
    c.walk quota streams (steps + more) p =
      c.walk quota streams steps p >>= c.walk quota streams more := by
  induction steps generalizing p with
  | zero => rw [Nat.zero_add, walk, pure_bind]
  | succ steps ih =>
      rw [Nat.succ_add, walk, walk, bind_assoc]
      exact congrArg _ (funext ih)

/-- Some number of steps, no less than a given one, from where an action leads ends like
this. -/
def Leads (c : Consumer σ) (quota : Quota) (streams : List String) (least : Nat)
    (a : Action σ Point) (s : σ) (log : Log) (e : Ending σ Point) : Prop :=
  ∃ steps, least ≤ steps ∧ (a >>= c.walk quota streams steps).runFrom s log = e

variable {a b : Action σ Point} {s s' : σ} {log log' : Log} {e : Ending σ Point} {p : Point}
  {least : Nat}

theorem Leads.here : c.Leads quota streams 0 (pure p) s log ⟨.ok p, s, log⟩ :=
  ⟨0, Nat.le_refl 0, rfl⟩

theorem Leads.stopped {processed : Nat} {why : Finish} {later : List Arrival} :
    c.Leads quota streams least (pure (.stopped processed why later)) s log
      ⟨.ok (.stopped processed why later), s, log⟩ := by
  refine ⟨least, Nat.le_refl least, ?_⟩
  induction least with
  | zero => rfl
  | succ least ih => exact ih

theorem Leads.advance (h : c.Leads quota streams least (c.step quota streams p) s log e) :
    c.Leads quota streams (least + 1) (pure p) s log e := by
  obtain ⟨steps, hleast, h⟩ := h
  exact ⟨steps + 1, Nat.succ_le_succ hleast, h⟩

theorem Leads.step (h : c.Leads quota streams least (c.step quota streams p) s log e) :
    c.Leads quota streams least (pure p) s log e := by
  obtain ⟨steps, hleast, h⟩ := h.advance
  exact ⟨steps, Nat.le_of_succ_le hleast, h⟩

theorem Leads.congr (h : c.Leads quota streams least b s' log' e)
    (hab : a.runFrom s log = b.runFrom s' log') : c.Leads quota streams least a s log e := by
  obtain ⟨steps, hleast, h⟩ := h
  refine ⟨steps, hleast, ?_⟩
  rw [runFrom_bind, hab, ← runFrom_bind, h]

theorem runFrom_walk_add (steps more : Nat) :
    (a >>= c.walk quota streams (steps + more)).runFrom s log =
      ((a >>= c.walk quota streams steps) >>= c.walk quota streams more).runFrom s log := by
  rw [bind_assoc, funext (walk_add c quota streams steps more)]

theorem Leads.failed {less : Nat} {fault : Fault}
    (h : c.Leads quota streams less a s log ⟨.error fault, s', log'⟩) :
    c.Leads quota streams least a s log ⟨.error fault, s', log'⟩ := by
  obtain ⟨steps, -, h⟩ := h
  refine ⟨steps + least, Nat.le_add_left _ _, ?_⟩
  rw [runFrom_walk_add, runFrom_bind, h]

theorem Leads.error {fault : Fault} (h : a.runFrom s log = ⟨.error fault, s', log'⟩) :
    c.Leads quota streams least a s log ⟨.error fault, s', log'⟩ := by
  refine ⟨least, Nat.le_refl least, ?_⟩
  rw [runFrom_bind, h]

theorem Leads.trans {less : Nat} (h : c.Leads quota streams less a s log ⟨.ok p, s', log'⟩)
    (h' : c.Leads quota streams least (pure p) s' log' e) :
    c.Leads quota streams least a s log e := by
  obtain ⟨steps, -, h⟩ := h
  obtain ⟨more, hleast, h'⟩ := h'
  refine ⟨steps + more, Nat.le_trans hleast (Nat.le_add_left _ _), ?_⟩
  rw [runFrom_walk_add, runFrom_bind, h]
  exact h'

end Consumer

def Ending.at {σ : Type} (e : Ending σ Progress) (streams : List String) (later : List Arrival) :
    Ending σ Point :=
  ⟨e.outcome.map (·.point streams later), e.state, e.log⟩

namespace Consumer

variable {σ : Type} {s s' : σ} {log log' : Log}

/-! ### Runs -/

def afterEvent (c : Consumer σ) (quota : Quota) (stream : String) (processed : Nat)
    (rest : List Event) : Action σ Progress :=
  if quota.isReached processed then do
    Action.info ("Processed " ++ Value.intText processed ++ " events, stopping")
    pure (.finished processed .enough)
  else c.processEvents quota stream processed rest

theorem processEvents_cons {c : Consumer σ} {stream : String} {event : Event} {worked : Bool}
    (quota : Quota) (processed : Nat) (rest : List Event)
    (h : (c.processEvent stream event).runFrom s log = ⟨.ok worked, s', log'⟩) :
    (c.processEvents quota stream processed (event :: rest)).runFrom s log =
      (c.afterEvent quota stream (if worked then processed + 1 else processed) rest).runFrom
        s' log' := by
  rw [processEvents, runFrom_bind, h]
  rfl

variable (c : Consumer σ) (quota : Quota) (streams : List String)

/-- Processing an event is a step or two, after which the walk goes on with the later
events. -/
theorem processEvent_walks (stream : String) (event : Event) (processed : Nat)
    (later : List Arrival) (rest : List String) (s : σ) (log : Log) :
    ∃ worked s' log', (c.processEvent stream event).runFrom s log = ⟨.ok worked, s', log'⟩ ∧
      ∀ e, c.Leads quota streams 0
          (goOn quota (if worked then processed + 1 else processed) later rest) s' log' e →
        c.Leads quota streams 0 (pure (.handling processed (⟨stream, event⟩ :: later) rest))
          s log e := by
  have hprocess : (c.processEvent stream event).runFrom s log = _ := runFrom_bind _ _ _ _
  have hstep : (c.step quota streams (.handling processed (⟨stream, event⟩ :: later) rest)).runFrom
      s log = _ := runFrom_bind _ _ _ _
  rw [runFrom_attempt] at hprocess hstep
  rw [runFrom_bind] at hprocess
  generalize (c.handle event).runFrom s log = handled at hprocess hstep
  obtain ⟨outcome, s₁, log₁⟩ := handled
  rcases outcome with fault | _ | _
  · exact ⟨false, _, _, hprocess, fun e he => .step (he.congr hstep)⟩
  · exact ⟨false, _, _, hprocess, fun e he => .step (he.congr hstep)⟩
  · have hstep' : (c.step quota streams (.acknowledging processed ⟨stream, event⟩ later
        rest)).runFrom s₁ log₁ = _ := runFrom_bind _ _ _ _
    rw [runFrom_attempt] at hstep'
    dsimp only at hprocess
    rw [if_pos rfl, runFrom_bind] at hprocess
    generalize (c.acknowledge stream event).runFrom s₁ log₁ = acknowledged at hprocess hstep'
    obtain ⟨outcome, s₂, log₂⟩ := acknowledged
    rcases outcome with fault | _
    · exact ⟨false, _, _, hprocess, fun e he => .step (.congr (.step (he.congr hstep')) hstep)⟩
    · exact ⟨true, _, _, hprocess, fun e he => .step (.congr (.step (he.congr hstep')) hstep)⟩

theorem processEvents_walks (stream : String) (rest : List String) (events : List Event)
    (processed : Nat) (s : σ) (log : Log) :
    ∃ later, c.Leads quota streams 0
      (pure (.handling processed (events.map fun event => ⟨stream, event⟩) rest)) s log
      (((c.processEvents quota stream processed events).runFrom s log).at rest later) := by
  induction events generalizing processed s log with
  | nil => exact ⟨[], .step .here⟩
  | cons event events ih =>
      obtain ⟨worked, s', log', hprocess, hwalk⟩ := processEvent_walks c quota streams stream event
        processed (events.map fun event => ⟨stream, event⟩) rest s log
      rw [processEvents_cons quota processed events hprocess]
      generalize (if worked then processed + 1 else processed) = now at hwalk
      unfold afterEvent
      split
      · rename_i hreached
        refine ⟨events.map fun event => ⟨stream, event⟩, hwalk _ ?_⟩
        rw [goOn, if_pos hreached]
        exact Leads.congr .here rfl
      · rename_i hreached
        rw [goOn, if_neg hreached] at hwalk
        obtain ⟨later, hlater⟩ := ih now s' log'
        exact ⟨later, hwalk _ hlater⟩

/-- Going once round the streams is a walk: induction on the streams. -/
theorem goRound_walks (rest : List String) (processed : Nat) (s : σ) (log : Log) :
    ∃ later, c.Leads quota streams 0 (pure (.receiving processed rest)) s log
      (((c.goRound quota processed rest).runFrom s log).at [] later) := by
  induction rest generalizing processed s log with
  | nil => exact ⟨[], .here⟩
  | cons stream rest ih =>
      have hround : (c.goRound quota processed (stream :: rest)).runFrom s log = _ :=
        runFrom_bind _ _ _ _
      have hstep : (c.step quota streams (.receiving processed (stream :: rest))).runFrom s log =
          _ := runFrom_bind _ _ _ _
      generalize (c.receive stream).runFrom s log = received at hround hstep
      obtain ⟨outcome, s₁, log₁⟩ := received
      rcases outcome with fault | _ | events
      · exact ⟨[], .step (hround ▸ .error hstep)⟩
      · exact ⟨[], .step (hround ▸ .congr .here hstep)⟩
      · obtain ⟨later, hbatch⟩ :=
          processEvents_walks c quota streams stream rest events processed s₁ log₁
        dsimp only at hround
        rw [runFrom_bind] at hround
        generalize (c.processEvents quota stream processed events).runFrom s₁ log₁ = ending
          at hbatch hround
        obtain ⟨outcome, s₂, log₂⟩ := ending
        rcases outcome with fault | now | ⟨now, why⟩
        · exact ⟨later, hround ▸ .step (.congr hbatch hstep)⟩
        · obtain ⟨later', hrest⟩ := ih now s₂ log₂
          exact ⟨later', hround ▸ .step (.congr (.trans hbatch hrest) hstep)⟩
        · exact ⟨later, hround ▸ .step (.congr hbatch hstep)⟩

theorem goRounds_walks (rounds processed : Nat) (s : σ) (log : Log) :
    ∃ later, c.Leads quota streams rounds (pure (.receiving processed [])) s log
      (((c.goRounds quota streams rounds processed).runFrom s log).at [] later) := by
  induction rounds generalizing processed s log with
  | zero => exact ⟨[], .here⟩
  | succ rounds ih =>
      have hrounds : (c.goRounds quota streams (rounds + 1) processed).runFrom s log = _ :=
        runFrom_bind _ _ _ _
      obtain ⟨later, hround⟩ := goRound_walks c quota streams streams processed s log
      generalize (c.goRound quota processed streams).runFrom s log = ending at hround hrounds
      obtain ⟨outcome, s₁, log₁⟩ := ending
      rcases outcome with fault | now | ⟨now, why⟩
      · exact ⟨later, hrounds ▸ .advance hround.failed⟩
      · obtain ⟨later', hrest⟩ := ih now s₁ log₁
        exact ⟨later', hrounds ▸ .advance (.trans hround hrest)⟩
      · exact ⟨later, hrounds ▸ .advance (.trans hround .stopped)⟩

/-- A run of some rounds ends where the walk is after some number of steps, of no fewer
than there were to be rounds: the walk has stopped where the run stops. -/
theorem run_walks (rounds : Nat) (s : σ) (log : Log) :
    ∃ steps later, rounds ≤ steps ∧ (c.after streams quota steps).runFrom s log =
      ((c.run streams quota rounds).runFrom s log).at [] later := by
  have hrounds := goRounds_walks c quota streams rounds 0 s
  generalize hgreeting : "Starting consumer for streams: " ++
    (Value.list (streams.map .text)).inspectText = greeting
  obtain ⟨later, steps, hrounds, h⟩ := hrounds (log ++ [⟨.info, greeting⟩])
  refine ⟨steps, later, hrounds, ?_⟩
  unfold after run
  rw [hgreeting]
  exact h

end Consumer

end AlertRules
