import AlertRules.Action
import AlertRules.Settings.Configuration
import AlertRules.Stream.Event

/-!
The broker, which keeps the streams.

What the broker does on a request is the next entry of its script: it
reads out messages or fails, it creates a group or fails, and so on. A
broker without an entry gives every message the same id, creates every
group and accepts every acknowledgement; but it has no more messages to
read out, and says so. Every request is recorded, in order, whether it
succeeds or not.
-/

namespace AlertRules

structure Batch where
  stream : String
  messages : List Message

inductive BrokerCall where
  | connect (address : String)
  | append (stream : String) (fields : Object)
  | createGroup (stream group : String)
  | read (group worker stream : String) (count block : Value)
  | acknowledge (stream group id : String)
  | close

/-- A broker: what it is going to do, and what it was asked to do. -/
structure Broker where
  reads : List (Except Fault (List Batch)) := []
  groupFaults : List (Option Fault) := []
  appends : List (Except Fault String) := []
  acknowledgeFaults : List (Option Fault) := []
  calls : List BrokerCall := []

namespace Broker

/-- Where the broker is if nobody says where. -/
def defaultAddress : String := "redis://localhost:6379/0"

/-- Where the broker is: at the address that is given, or else where the
environment says. -/
def addressOf (env : Environment) (given : String) : String :=
  if given.isEmpty then env.getD "REDIS_URL" defaultAddress else given

/-- The id of a message that the script gives none. -/
def defaultId : String := "1-0"

def note (c : BrokerCall) : Action Broker Unit :=
  modify fun b => { b with calls := b.calls ++ [c] }

/-- Fails if the script says so. -/
def obey : Option (Option Fault) → Action Broker Unit
  | some (some fault) => throw fault
  | _ => pure ()

def connect (address : String) : Action Broker Unit := do
  note (.connect address)
  Action.info ("EventStream connected to " ++ address)

/-- Adds a message to a stream; the broker gives it an id. -/
def append (stream : String) (fields : Object) : Action Broker String := do
  note (.append stream fields)
  let b ← get
  set { b with appends := b.appends.tail }
  Action.ofExcept (b.appends.headD (.ok defaultId))

/-- Creates a group of readers, and the stream if there is none. -/
def createGroup (stream group : String) : Action Broker Unit := do
  note (.createGroup stream group)
  let b ← get
  set { b with groupFaults := b.groupFaults.tail }
  obey b.groupFaults.head?

/-- Reads messages that no reader of the group has been given yet; nothing
if the broker has no more to read out. -/
def read (group worker stream : String) (count block : Value) :
    Action Broker (Option (List Batch)) := do
  note (.read group worker stream count block)
  let b ← get
  set { b with reads := b.reads.tail }
  match b.reads with
  | [] => pure none
  | reply :: _ => some <$> Action.ofExcept reply

/-- Acknowledges a message: the group is done with it. -/
def acknowledge (stream group id : String) : Action Broker Unit := do
  note (.acknowledge stream group id)
  let b ← get
  set { b with acknowledgeFaults := b.acknowledgeFaults.tail }
  obey b.acknowledgeFaults.head?

def close : Action Broker Unit := note .close

end Broker

end AlertRules
