import AlertRules.Fault

/-!
The parts of a value.

Where a sequence is wanted, everything that has parts will do.
-/

namespace AlertRules

namespace Value

/-- The parts of a value one by one, if it has parts: the items of a
sequence, the characters of a text, the names of an object's fields. -/
def parts? : Value → Option (List Value)
  | .list items | .tuple items => some items
  | .text s => some ((Text.codes s.toList).map fun n => .text (String.ofList (Text.charsOf n)))
  | .object fields => some (fields.map fun (k, _) => .text k)
  | _ => none

mutual

/-- Whether a value can be looked up in a table of names: lists and objects
cannot, whether alone or inside a tuple. -/
def isKey : Value → Bool
  | .list _ | .object _ => false
  | .tuple items => areKeys items
  | .decimal d => !d.isSignalling
  | _ => true

def areKeys : List Value → Bool
  | [] => true
  | v :: rest => isKey v && areKeys rest

end

end Value

end AlertRules
