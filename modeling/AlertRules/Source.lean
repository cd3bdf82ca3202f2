import AlertRules.Database.Repository

/-!
Rule sources.

An engine asks a source for the rules of its organization, its module,
and at most so many of them. A source may also count how often a rule
triggers. What a source hands out is not checked: it may be rules, or
documents that may or may not turn out to be rules, or no list at all.

`ListSource` hands out the same list every time and remembers what it
was asked.
-/

namespace AlertRules

inductive RuleInput where
  | rule (r : Rule)
  | document (v : Value)

/-- What a source hands out: entries in a list, or a value that is no
list. -/
inductive RuleSet where
  | entries (rules : List RuleInput)
  | value (v : Value)

namespace RuleSet

/-- The entries of what a source handed out; nothing is no entries. -/
def toList : RuleSet → Except Fault (List RuleInput)
  | .entries rules => .ok rules
  | .value v =>
    if v.truthy then
      match v.parts? with
      | some parts => .ok (parts.map .document)
      | none => .error .unsupported
    else .ok []

def iterate : RuleSet → Except Fault (List RuleInput)
  | .entries rules => .ok rules
  | .value v =>
    match v.parts? with
    | some parts => .ok (parts.map .document)
    | none => .error .unsupported

end RuleSet

/-- A place where rules come from. `ω` is whatever the source lives in. -/
structure RuleSource (ω : Type) where
  /-- The rules of an organization and a module, at most so many. -/
  fetch : Value → Value → Value → Action ω RuleSet
  /-- Counts a trigger of a rule, if the source does that. -/
  increment : Option (String → Action ω Unit)

namespace RuleSource

variable {ω τ : Type}

def within (get : ω → τ) (put : ω → τ → ω) (s : RuleSource τ) : RuleSource ω where
  fetch o m l := (s.fetch o m l).within get put
  increment := s.increment.map fun count id => (count id).within get put

def ofDatabase (dsn : Value) : RuleSource Database where
  fetch o m l := do
    let rules ← Repository.fetchActiveRules dsn o m l
    pure (.entries (rules.map .rule))
  increment := some fun id => do
    let _ ← Repository.incrementTriggerCount dsn (.text id)
    pure ()

end RuleSource

/-- A fixed set of rules, and what it was asked for. -/
structure ListSource where
  rules : RuleSet := .entries []
  fetchFault : Option Fault := none
  incrementFault : Option Fault := none
  fetches : List (Value × Value × Value) := []
  incremented : List String := []

namespace ListSource

/-- At most so many entries of a list; without a limit, all of them. -/
def limited (limit : Value) (rules : List RuleInput) : Except Fault (List RuleInput) :=
  let cut (n : Int) : List RuleInput :=
    match n with
    | .ofNat k => rules.take k
    | .negSucc k => rules.take (rules.length - (k + 1))
  match limit with
  | .int n => .ok (cut n)
  | .bool b => .ok (cut (if b then 1 else 0))
  | .null => .ok rules
  | _ => .error .unsupported

def fetch (organizationId moduleName limit : Value) : Action ListSource RuleSet := do
  modify fun s => { s with fetches := s.fetches ++ [(organizationId, moduleName, limit)] }
  let s ← get
  match s.fetchFault with
  | some fault => throw fault
  | none =>
    match s.rules with
    | .entries rules => .entries <$> Action.ofExcept (limited limit rules)
    | .value v => pure (.value v)

def increment (id : String) : Action ListSource Unit := do
  let s ← get
  match s.incrementFault with
  | some fault => throw fault
  | none => set { s with incremented := s.incremented ++ [id] }

def source (counts : Bool) : RuleSource ListSource where
  fetch := fetch
  increment := if counts then some increment else none

end ListSource

end AlertRules
