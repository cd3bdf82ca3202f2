import AlertRules.Number.Decimal

/-!
Payload values.

A payload is a document of unknown shape, and so are the operands, the
settings of a channel and the fields of a rule before they are checked.
`Value` is that shape: the document types, the three kinds of number
kept apart, two kinds of sequence, and `missing`, the value of a field
that is not there, which is not the same as `null`.

An object keeps the order of its fields, because texts made from it show
that order. `Object.insert` replaces a field where it stands and appends
a new one, so a list built by `Object.ofList` has each name once.
-/

namespace AlertRules

inductive Value where
  | null
  | bool (b : Bool)
  | int (i : Int)
  | float (x : Double)
  | decimal (d : Decimal)
  | text (s : String)
  | list (items : List Value)
  | tuple (items : List Value)
  | object (fields : List (String × Value))
  | missing
  deriving Repr, Inhabited

abbrev Object := List (String × Value)

namespace Object

def get? (o : Object) (key : String) : Option Value := o.lookup key

def contains (o : Object) (key : String) : Bool := (o.get? key).isSome

/-- The value of a field, `null` when there is no such field. -/
def getOrNull (o : Object) (key : String) : Value := (o.get? key).getD .null

/-- Sets a field: in place if it is there, at the end if not. -/
def insert (o : Object) (key : String) (v : Value) : Object :=
  match o with
  | [] => [(key, v)]
  | (k, w) :: rest => if k == key then (k, v) :: rest else (k, w) :: insert rest key v

def update (o : Object) (other : Object) : Object :=
  other.foldl (fun acc (k, v) => insert acc k v) o

/-- The object with the given fields; of two fields of one name the later
value stands, at the place of the earlier. -/
def ofList (fields : List (String × Value)) : Object := update [] fields

def keys (o : Object) : List String := o.map Prod.fst

theorem get?_cons (k : String) (w : Value) (rest : Object) (name : String) :
    get? ((k, w) :: rest) name = if name = k then some w else get? rest name := by
  rw [get?, List.lookup_cons]
  by_cases hname : name = k
  · rw [if_pos hname, beq_iff_eq.mpr hname]
  · rw [if_neg hname, beq_eq_false_iff_ne.mpr hname]
    rfl

/-- A field that is set has its new value, and no other field has another. -/
theorem get?_insert (o : Object) (key : String) (v : Value) (name : String) :
    get? (insert o key v) name = if name = key then some v else get? o name := by
  induction o with
  | nil => exact get?_cons key v [] name
  | cons field rest ih =>
      obtain ⟨k, w⟩ := field
      by_cases hk : k = key
      · rw [insert, if_pos (beq_iff_eq.mpr hk), get?_cons, get?_cons, hk]
        split
        · rfl
        · rfl
      · rw [insert, if_neg (by simpa using hk), get?_cons, get?_cons, ih]
        by_cases hname : name = k
        · rw [if_pos hname, if_pos hname, if_neg (hname ▸ hk)]
        · rw [if_neg hname, if_neg hname]

end Object

namespace Value

def kindName : Value → String
  | .null => "NoneType"
  | .bool _ => "bool"
  | .int _ => "int"
  | .float _ => "float"
  | .decimal _ => "Decimal"
  | .text _ => "str"
  | .list _ => "list"
  | .tuple _ => "tuple"
  | .object _ => "dict"
  | .missing => "_Missing"

/-- Whether a value counts as true: not absent, not zero, not empty. -/
def truthy : Value → Bool
  | .null | .missing => false
  | .bool b => b
  | .int i => i != 0
  | .float x => !x.isZero
  | .decimal d => !d.isZero
  | .text s => !s.isEmpty
  | .list items | .tuple items => !items.isEmpty
  | .object fields => !fields.isEmpty

/-- The first of two values unless it counts as false. -/
def orElse (v w : Value) : Value := if v.truthy then v else w

/-- Whether there is nothing to compare: the value is absent or null. -/
def isAbsent : Value → Bool
  | .null | .missing => true
  | _ => false

def ofText? : Option String → Value
  | some s => .text s
  | none => .null

def isObject : Value → Bool
  | .object _ => true
  | _ => false

end Value

end AlertRules
