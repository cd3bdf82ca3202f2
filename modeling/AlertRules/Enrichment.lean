import AlertRules.Action
import AlertRules.Comparison.Numeric
import AlertRules.Value.Shown
import AlertRules.Value.Table

/-!
Enrichment: deriving fields of a payload before it is evaluated.

An enricher looks at what has been gathered so far and returns fields to
add. Enrichers are registered for a module or for all modules; those for
all modules run first, and each group runs in the order of registration.
An enricher that fails is logged and adds nothing.

The payload and what an enricher returns need not be objects; tables will
do.
-/

namespace AlertRules

namespace Value

def factor : Value → Except Fault Double
  | .bool b => .ok (.ofInt (if b then 1 else 0))
  | .int i =>
    let x := Double.ofInt i
    if x.isFinite then .ok x else .error .unsupported
  | .float x => .ok x
  | _ => .error .unsupported

end Value

abbrev Enricher := Table → Except Fault Value

structure Registration where
  moduleName : String
  enricher : Enricher

abbrev Enrichment := List Registration

namespace Enrichment

/-- The name that stands for all modules. -/
def allModules : String := "*"

def register {σ : Type} (e : Enrichment) (r : Registration) : Action σ Enrichment := do
  Action.info ("Registered enricher for module: " ++ r.moduleName)
  pure (e ++ [r])

def named (e : Enrichment) (name : String) : List Enricher :=
  (e.filter (·.moduleName == name)).map (·.enricher)

def enrichersFor (e : Enrichment) (moduleName : Value) : Except Fault (List Enricher) :=
  match moduleName with
  | .text name => .ok (e.named allModules ++ e.named name)
  | v => if v.isKey then .ok (e.named allModules) else .error .unsupported

def applyOne {σ : Type} (moduleName : Value) (payload : Table) (enricher : Enricher) :
    Action σ Table :=
  match enricher payload with
  | .error fault => do
    Action.error ("Enricher failed for module " ++ (← Action.ofExcept moduleName.display) ++ ": " ++
      fault.message)
    pure payload
  | .ok derived =>
    if derived.truthy then do
      pure (payload.update (← Action.ofExcept (Table.ofValue derived)))
    else pure payload

def applyAll {σ : Type} (moduleName : Value) : Table → List Enricher → Action σ Table
  | payload, [] => pure payload
  | payload, enricher :: rest => do
    applyAll moduleName (← applyOne moduleName payload enricher) rest

/-- The payload with the fields that the enrichers for a module derive. -/
def enrich {σ : Type} (e : Enrichment) (moduleName data : Value) : Action σ Table := do
  let payload ← Action.ofExcept (Table.ofValue data)
  let enrichers ← Action.ofExcept (e.enrichersFor moduleName)
  applyAll moduleName payload enrichers

end Enrichment

namespace Enricher

/-- Adds the numbers of fields times their weights to a sum. The sum is
absent as long as no field was a number. -/
def addWeighted (fields : Object) :
    Option Double → List (String × Value) → Except Fault (Option Double)
  | sum, [] => .ok sum
  | sum, (key, weight) :: rest => do
    match ← (fields.getOrNull key).toNumber with
    | none => addWeighted fields sum rest
    | some x =>
      let w ← weight.factor
      addWeighted fields (some ((sum.getD .zero).add (x.mul w))) rest

/-- Derives a weighted sum of fields; what is missing or no number counts
nothing, and if there is no number there is no sum. -/
def weightedSum (target : String) (weights : List (String × Value)) : Enricher := fun payload => do
  match ← addWeighted payload.fields none weights with
  | some sum => pure (.object [(target, .float sum)])
  | none => pure (.object [])

end Enricher

end AlertRules
