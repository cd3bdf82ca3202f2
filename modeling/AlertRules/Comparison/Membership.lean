import AlertRules.Value.Order
import AlertRules.Value.Shown

/-!
Membership in a list.

A value is a member of a list when its key is. Keys keep the kinds apart
that a list of identifiers must not confuse: the number one, the text
`1` and the truth value are three keys, while a whole number has one key
in all its forms. Containers are keyed by their canonical JSON text, and
one that has no text has no key.

A list is gone through from the left, up to the first member that is
found. Long lists are turned into their keys once instead. `SetCache`
holds the keys of each list it has seen, under the canonical text of the
list, which therefore has to have one as a whole; the keys computed first
for a text stay.
-/

namespace AlertRules

/-- The key of a number: a whole number exactly, any other number as a
floating-point one, or the text of a number that has no such form. -/
inductive NumberKey where
  | whole (i : Int)
  | float (x : Double)
  | text (s : String)
  deriving DecidableEq, Repr

inductive MemberKey where
  | null
  | bool (b : Bool)
  | number (key : NumberKey)
  | text (s : String)
  | json (s : String)
  deriving DecidableEq, Repr

namespace NumberKey

def ofDouble (x : Double) : NumberKey :=
  match x.toInt? with
  | some i => .whole i
  | none => .float x

/-- The key of a decimal number. One that is not whole is keyed by the
nearest floating-point number. -/
def ofDecimal (d : Decimal) : NumberKey :=
  match d.toInt? with
  | some i => .whole i
  | none =>
    match d.toDouble? with
    | some x => .float x
    | none => .text d.text

/-- Whether two keys are of one number. Of the undefined numbers only the
one that documents name has a key that equals a key. -/
def same : NumberKey → NumberKey → Bool
  | .whole i, .whole j => i == j
  | .float x, .float y => x.eqv y || x.bothNamed y
  | .whole i, .float y => y.toInt? == some i
  | .float x, .whole j => x.toInt? == some j
  | .text s, .text t => s == t
  | _, _ => false

end NumberKey

namespace MemberKey

def ofValue : Value → MemberKey
  | .null | .missing => .null
  | .bool b => .bool b
  | .int i => .number (.whole i)
  | .float x => .number (.ofDouble x)
  | .decimal d => .number (.ofDecimal d)
  | .text s => .text s
  | v => .json (Json.canonicalText v)

def same : MemberKey → MemberKey → Bool
  | .null, .null => true
  | .bool a, .bool b => a == b
  | .number a, .number b => a.same b
  | .text s, .text t => s == t
  | .json s, .json t => s == t
  | _, _ => false

end MemberKey

namespace Value

/-- The items of a sequence. -/
def items? : Value → Option (List Value)
  | .list items | .tuple items => some items
  | _ => none

def isScalar : Value → Bool
  | .list _ | .tuple _ | .object _ => false
  | _ => true

/-- The key of a value. What has parts is keyed by its text. -/
def key (v : Value) : Except Fault MemberKey :=
  if v.isScalar || v.hasText then .ok (.ofValue v) else .error .unwritable

def keys : List Value → Except Fault (List MemberKey)
  | [] => .ok []
  | v :: rest => do
    let first ← v.key
    let others ← keys rest
    pure (first :: others)

end Value

/-- Whether a key is the key of one of the items. The items after it are
not looked at. -/
def memberOf (key : MemberKey) : List Value → Except Fault Bool
  | [] => .ok false
  | item :: rest => do
    if (← item.key).same key then pure true else memberOf key rest

/-- The keys of the lists seen so far, each under the canonical text of
its list. -/
structure SetCache where
  sets : List (String × List MemberKey) := []
  deriving Repr, DecidableEq

namespace SetCache

def empty : SetCache := {}

def size (c : SetCache) : Nat := c.sets.length

/-- The keys of a list, computed if the cache does not hold them, and the
cache that holds them. -/
def keysOf (c : SetCache) (items : List Value) : Except Fault (List MemberKey × SetCache) := do
  let text ← Json.canonical (.list items)
  match c.sets.lookup text with
  | some keys => pure (keys, c)
  | none =>
    let keys ← Value.keys items
    pure (keys, { sets := c.sets ++ [(text, keys)] })

end SetCache

end AlertRules
