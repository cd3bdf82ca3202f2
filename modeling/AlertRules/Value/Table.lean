import AlertRules.Value.Order
import AlertRules.Value.Parts

/-!
Tables: what a sequence of pairs says.

Where an object is wanted, so will a sequence of pairs of a key and a
value do. A key is usually a name, but any value that can be looked up
serves as well, and a table keeps such keys apart from all names. Keys
are the same when they are equal, so that a number is one key in all its
forms; the key that came first stays and the value that came last stands.

What is asked for is always asked for by name, so all else that a table
holds can only be listed (`otherKeys`).
-/

namespace AlertRules

abbrev Table := List (Value × Value)

namespace Table

def sameKey (v w : Value) : Bool :=
  v.identical w ||
    match v.equal w with
    | .ok answer => answer
    | .error _ => false

/-- Sets the value of a key: in place if it is there, at the end if not. -/
def insert (t : Table) (key v : Value) : Table :=
  match t with
  | [] => [(key, v)]
  | (k, w) :: rest => if sameKey k key then (k, v) :: rest else (k, w) :: insert rest key v

def update (t : Table) (other : Table) : Table :=
  other.foldl (fun acc (k, v) => insert acc k v) t

def ofObject (o : Object) : Table := o.map fun (name, v) => (.text name, v)

def fields (t : Table) : Object :=
  t.filterMap fun (key, v) =>
    match key with
    | .text name => some (name, v)
    | _ => none

def otherKeys (t : Table) : List Value :=
  (t.map Prod.fst).filter fun key =>
    match key with
    | .text _ => false
    | _ => true

/-- The key and the value of a pair, the `index`-th of a sequence. -/
def readPair (index : Nat) (v : Value) : Except Fault (Value × Value) :=
  match v.parts? with
  | some [key, item] => if key.isKey then .ok (key, item) else .error .unsupported
  | some parts => .error (.pairLength index parts.length)
  | none => .error .unsupported

def readPairs : Nat → List Value → Except Fault (List (Value × Value))
  | _, [] => .ok []
  | index, v :: rest => do
    let pair ← readPair index v
    let pairs ← readPairs (index + 1) rest
    pure (pair :: pairs)

/-- A value taken as a table: an object, or a sequence of pairs. -/
def ofValue (v : Value) : Except Fault Table :=
  match v with
  | .object fields => .ok (ofObject fields)
  | _ =>
    match v.parts? with
    | some parts => update [] <$> readPairs 0 parts
    | none => .error .unsupported

end Table

end AlertRules
