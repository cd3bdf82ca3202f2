import AlertRules.Stream.Broker
import AlertRules.Text.Occurrence
import AlertRules.Time.Clock

/-!
Delivery: publishing events and receiving them.

A malformed message can never be delivered, so it is acknowledged at
once instead of being read again for ever. Any other failure while
messages are received ends the delivery with no events at all; what was
acknowledged before it stays acknowledged.
-/

namespace AlertRules

/-- A reader of streams, one of a group that shares the messages. -/
structure Worker where
  group : String
  name : String
  deriving DecidableEq, Repr

/-- How events are received: how many at most, how long to wait, and
whether they are acknowledged when they are received. -/
structure Intake where
  count : Value := .int 10
  block : Value := .int 1000
  autoAcknowledge : Bool := true

namespace Broker

/-- Publishes an event; the result is its id. -/
def publish (clock : Clock) (stream : String) (a : Announcement) : Action Broker String := do
  let request : Action Broker String := do
    let now ← Action.ofExcept clock.now
    append stream (← Action.ofExcept (a.fields now))
  match ← request.attempt with
  | .ok id =>
    Action.info ("Published " ++ a.kind ++ " to " ++ stream ++ ": " ++ id)
    pure id
  | .error fault =>
    Action.error ("Error publishing event: " ++ fault.message)
    throw fault

def isGroupExists : Fault → Bool
  | .service .streamReply message => Text.occursIn "BUSYGROUP".toList message.toList
  | _ => false

def ensureGroup (stream group : String) : Action Broker Unit := do
  match ← (createGroup stream group).attempt with
  | .ok () => pure ()
  | .error fault => if isGroupExists fault then pure () else throw fault

/-- Takes one message of a batch: the event it carries, unless it is
malformed. -/
def takeMessage (w : Worker) (stream : String) (autoAcknowledge : Bool) (source : String)
    (m : Message) : Action Broker (Option Event) :=
  match Event.ofMessage source m with
  | .ok event => do
    if autoAcknowledge then acknowledge stream w.group m.id
    pure (some event)
  | .error fault =>
    if fault.isMalformed then do
      Action.error ("Discarding malformed event " ++ m.id ++ ": " ++ fault.message)
      acknowledge stream w.group m.id
      pure none
    else throw fault

def takeMessages (w : Worker) (stream : String) (autoAcknowledge : Bool) (source : String) :
    List Message → Action Broker (List Event)
  | [] => pure []
  | m :: rest => do
    let event ← takeMessage w stream autoAcknowledge source m
    let events ← takeMessages w stream autoAcknowledge source rest
    pure (event.toList ++ events)

def takeBatches (w : Worker) (stream : String) (autoAcknowledge : Bool) :
    List Batch → Action Broker (List Event)
  | [] => pure []
  | batch :: rest => do
    let events ← takeMessages w stream autoAcknowledge batch.stream batch.messages
    let more ← takeBatches w stream autoAcknowledge rest
    pure (events ++ more)

/-- Receives events, and fails if anything goes wrong. -/
def receiveAll (w : Worker) (stream : String) (intake : Intake) :
    Action Broker (Option (List Event)) := do
  ensureGroup stream w.group
  match ← read w.group w.name stream intake.count intake.block with
  | none => pure none
  | some batches => some <$> takeBatches w stream intake.autoAcknowledge batches

/-- Receives the next events of a stream, and none if anything goes wrong.
Nothing means that the broker has no more to read out. -/
def receive (w : Worker) (stream : String) (intake : Intake) :
    Action Broker (Option (List Event)) := do
  match ← (receiveAll w stream intake).attempt with
  | .ok received => pure received
  | .error fault =>
    Action.error ("Error consuming events: " ++ fault.message)
    pure (some [])

end Broker

end AlertRules
