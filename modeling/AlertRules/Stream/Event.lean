import AlertRules.Time.Moment
import AlertRules.Value.Shown

/-!
Events, and the messages that carry them.

A stream carries messages, which are named texts. An event is written
into the four fields of a message: its type, the time at which it was
published, and its payload and its context as JSON text, which may nest
no deeper than can be read. Reading takes the fields apart again; a
payload or a context that is missing or empty is an empty object, and
one that is no JSON text makes the message malformed.
-/

namespace AlertRules

/-- A message of a stream: its id and its fields. A message that has been
trimmed away since has no fields. -/
structure Message where
  id : String
  fields : Option Object

structure Announcement where
  kind : String
  data : Value
  context : Value := .null

structure Event where
  id : String
  stream : String
  kind : Value
  timestamp : Value
  data : Value
  context : Value

namespace Announcement

/-- The context of an announcement; one that counts as false is empty. -/
def contextOrEmpty (a : Announcement) : Value := a.context.orElse (.object [])

/-- The JSON text of a part of an announcement, unless it nests too deep. -/
def writePart (v : Value) : Except Fault Value :=
  if Json.nesting v ≤ Json.depthLimit then .text <$> Json.spaced v
  else .error (.json .tooDeep)

def fields (a : Announcement) (now : Moment) : Except Fault Object := do
  let data ← writePart a.data
  let context ← writePart a.contextOrEmpty
  pure [("event_type", .text a.kind), ("timestamp", .text now.isoText), ("data", data),
    ("context", context)]

end Announcement

namespace Event

/-- The value that a field of a message writes. -/
def readPart (v : Value) : Except Fault Value :=
  match v.orElse (.text "\x7b\x7d") with
  | .text s => (Json.read s).mapError .json
  | _ => .error .unsupported

def ofFields (stream id : String) (fields : Object) : Except Fault Event := do
  let data ← readPart (Object.getOrNull fields "data")
  let context ← readPart (Object.getOrNull fields "context")
  pure {
    id, stream, data, context
    kind := Object.getOrNull fields "event_type"
    timestamp := Object.getOrNull fields "timestamp" }

def ofMessage (stream : String) (m : Message) : Except Fault Event :=
  match m.fields with
  | some fields => ofFields stream m.id fields
  | none => .error .unsupported

end Event

/-- Whether a fault is a JSON text that is malformed. An integer that is
too long is another matter. -/
def Fault.isMalformed : Fault → Bool
  | .json (.malformed ..) => true
  | _ => false

end AlertRules
