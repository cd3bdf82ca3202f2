import AlertRules.Stream.Delivery

/-!
Consumers.

A consumer goes round its streams, receives the next events of each, and
handles them one by one. An event that was handled is acknowledged, and
only then does it count as processed; an event that was not, or whose
acknowledgement failed, stays pending, and the consumer goes on with the
next one. After every event the consumer looks whether it has processed
as many as it was asked to, and stops if it has, so that the later
events of a batch are neither handled nor acknowledged.

What receiving, handling and acknowledging do is up to the consumer's
three actions. They may live in any state, and only the first can say
that there is nothing more to receive.
-/

namespace AlertRules

structure Consumer (σ : Type) where
  /-- The next events of a stream, or nothing if there will be no more. -/
  receive : String → Action σ (Option (List Event))
  /-- Handles an event; the result is whether that worked. -/
  handle : Event → Action σ Bool
  /-- Acknowledges an event of a stream. -/
  acknowledge : String → Event → Action σ Unit

inductive Finish where
  | enough
  | exhausted
  deriving DecidableEq, Repr

/-- How far a consumer is: it has processed so many events and goes on, or
it has stopped. -/
inductive Progress where
  | going (processed : Nat)
  | finished (processed : Nat) (why : Finish)
  deriving DecidableEq, Repr

/-- How many events to process before stopping; zero and nothing are no
limit. -/
abbrev Quota := Option Int

def Quota.isReached (quota : Quota) (processed : Nat) : Bool :=
  match quota with
  | none => false
  | some limit => limit ≠ 0 ∧ limit ≤ processed

namespace Consumer

variable {σ : Type}

/-- Handles an event and acknowledges it if that worked. The result is
whether both worked. -/
def processEvent (c : Consumer σ) (stream : String) (event : Event) : Action σ Bool := do
  let processing : Action σ Bool := do
    if ← c.handle event then
      c.acknowledge stream event
      pure true
    else pure false
  match ← processing.attempt with
  | .ok true =>
    Action.info ("Processed event " ++ event.id)
    pure true
  | .ok false =>
    Action.warn ("Failed to process event " ++ event.id)
    pure false
  | .error fault =>
    Action.error ("Error processing event " ++ event.id ++ ": " ++ fault.message)
    pure false

/-- Goes through received events, as long as the quota is not reached. -/
def processEvents (c : Consumer σ) (quota : Quota) (stream : String) :
    Nat → List Event → Action σ Progress
  | processed, [] => pure (.going processed)
  | processed, event :: rest => do
    let now := if ← c.processEvent stream event then processed + 1 else processed
    if quota.isReached now then
      Action.info ("Processed " ++ Value.intText now ++ " events, stopping")
      pure (.finished now .enough)
    else c.processEvents quota stream now rest

def goRound (c : Consumer σ) (quota : Quota) : Nat → List String → Action σ Progress
  | processed, [] => pure (.going processed)
  | processed, stream :: rest => do
    match ← c.receive stream with
    | none => pure (.finished processed .exhausted)
    | some events =>
      match ← c.processEvents quota stream processed events with
      | .going now => c.goRound quota now rest
      | .finished now why => pure (.finished now why)

def goRounds (c : Consumer σ) (quota : Quota) (streams : List String) :
    Nat → Nat → Action σ Progress
  | 0, processed => pure (.going processed)
  | rounds + 1, processed => do
    match ← c.goRound quota processed streams with
    | .going now => c.goRounds quota streams rounds now
    | .finished now why => pure (.finished now why)

/-- Runs a consumer on some streams until its quota is reached, until there
is nothing more to receive, or for at most so many rounds. -/
def run (c : Consumer σ) (streams : List String) (quota : Quota) (rounds : Nat) :
    Action σ Progress := do
  Action.info ("Starting consumer for streams: " ++
    (Value.list (streams.map .text)).inspectText)
  c.goRounds quota streams rounds 0

/-- A consumer that receives from a broker, and whose events are handled
elsewhere. It acknowledges no event before it was handled. -/
def ofBroker {τ : Type} (w : Worker) (handle : Event → Action τ Bool) : Consumer (Broker × τ) where
  receive stream :=
    (Broker.receive w stream { autoAcknowledge := false }).within Prod.fst fun s b => (b, s.2)
  handle event := (handle event).within Prod.snd fun s t => (s.1, t)
  acknowledge stream event :=
    (Broker.acknowledge stream w.group event.id).within Prod.fst fun s b => (b, s.2)

def greet (w : Worker) : Action σ Unit :=
  Action.info ("EventConsumer " ++ w.name ++ " initialized for group " ++ w.group)

/-- Handling for a consumer that was given none. -/
def unhandled (_ : Event) : Action σ Bool := throw .unimplementedConsumer

end Consumer

namespace Broker

/-- Enough rounds to come to the end of a broker's script: to receive from
a stream uses up an entry. -/
def roundsLeft (b : Broker) : Nat := b.reads.length + b.groupFaults.length + 1

end Broker

/-- Handling by a list of outcomes: what is left of it, and which events
were seen. Without an outcome, handling works. -/
structure Rehearsal where
  outcomes : List (Except Fault Bool) := []
  seen : List String := []

namespace Rehearsal

def handle (event : Event) : Action Rehearsal Bool := do
  let r ← get
  set { r with outcomes := r.outcomes.tail, seen := r.seen ++ [event.id] }
  Action.ofExcept (r.outcomes.headD (.ok true))

end Rehearsal

end AlertRules
