import AlertRules.Action
import AlertRules.Alert
import AlertRules.Text.Occurrence
import AlertRules.Value.Parts

/-!
Alert stores.

A store can be asked for an open alert and given a new one. Both may
fail. The store has the last word on duplicates: `create` yields no id
when an open alert with the same organization and fingerprint exists by
the time it gets to insert. `ω` is whatever the store lives in.
-/

namespace AlertRules

structure AlertStore (ω : Type) where
  /-- The id of an alert of an organization, with a fingerprint and one of
  some states. -/
  findOpen : Value → Value → Value → Action ω (Option String)
  /-- The id of a new alert, none if it lost to an open one. -/
  create : Alert → Action ω (Option String)

/-- Whether a text is among the parts of a value: an item of a sequence, a
field of an object, a piece of a text. -/
def Value.holds (v : Value) (s : String) : Except Fault Bool :=
  match v with
  | .list items | .tuple items =>
    .ok (items.any fun item => match item with
      | .text t => t == s
      | _ => false)
  | .object fields => .ok (Object.contains fields s)
  | .text t => .ok (Text.occursIn (Text.codes s.toList) (Text.codes t.toList))
  | _ => .error .unsupported

def Value.isText (v : Value) (s : String) : Bool :=
  match v with
  | .text t => t == s
  | _ => false

end AlertRules
