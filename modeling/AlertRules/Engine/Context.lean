import AlertRules.Engine.State
import AlertRules.Value.Table

/-!
The context of a batch.

The context is what the caller gives, over the organization and the
module of the configuration. When that cannot be checked the batch is
evaluated all the same, in a context put together from the configuration
alone. A payload that is no object becomes the only field of one; one that
is a table is not all in a context, which has to have names for keys.
-/

namespace AlertRules

/-- What an engine evaluates: a value, as conditions and messages see it,
and those of its keys that are no names. Nothing can ask for what is under
such keys. -/
structure Payload where
  value : Value
  otherKeys : List Value

namespace Payload

def ofValue (v : Value) : Payload := ⟨v, []⟩

def ofTable (t : Table) : Payload := ⟨.object t.fields, t.otherKeys⟩

def fields (p : Payload) : Object :=
  match p.value with
  | .object fields => fields
  | v => [("value", v)]

/-- The payload as an object that a context can hold, which has to have
names for keys. -/
def checked (p : Payload) : Schema.Checked Object :=
  (fun () => p.fields) <$>
    (Schema.noKeys .stringType [.name "[key]"] p.otherKeys).under (.name "data")

end Payload

/-- What a caller gives as a context: a checked one, a value that is looked
at if it is an object, or a table. -/
inductive ContextInput where
  | checked (c : EvaluationContext)
  | document (v : Value)
  | table (t : Table)

namespace Engine

variable {ω : Type}

/-- The fields of a context, with those of a table over the defaults of the
configuration. -/
def contextFields (e : Engine ω) (t : Table) (payload : Payload) : Object :=
  let defaults : Object :=
    [("organization_id", e.configuration.organizationId),
      ("module_name", e.configuration.moduleName)]
  (defaults.update t.fields).insert "data" (.object payload.fields)

/-- A checked context for a payload. What it was not given comes from the
configuration. -/
def contextOver (e : Engine ω) (c : EvaluationContext) (payload : Payload) :
    Schema.Checked EvaluationContext :=
  let moduleName : Schema.Checked Value :=
    if c.given.contains "module_name" then .ok c.moduleName
    else
      Value.ofText? <$>
        (Schema.nullable Schema.text e.configuration.moduleName).under (.name "module_name")
  (fun moduleName data => { c with moduleName, data }) <$> moduleName <*> payload.checked

/-- The context that a table describes, checked. The clock is read if the
table does not say when. -/
def readContext (e : Engine ω) (clock : Clock) (payload : Payload) (t : Table) :
    Except Fault (Schema.Checked EvaluationContext) := do
  let fields := e.contextFields t payload
  let timestamp ← Schema.givenOr Schema.moment "timestamp" fields clock.now
  pure <| Schema.legibleNames fields <|
    (fun c () => c) <$> EvaluationContext.ofParts payload.checked timestamp fields <*>
      Schema.noKeys .invalidKey [] t.otherKeys

def checkContext (e : Engine ω) (clock : Clock) (payload : Payload) :
    ContextInput → Except Fault (Schema.Checked EvaluationContext)
  | .checked c => .ok (e.contextOver c payload)
  | .document (.object fields) => e.readContext clock payload (.ofObject fields)
  | .document _ => e.readContext clock payload []
  | .table t => e.readContext clock payload t

/-- The context of a batch whose caller gave an unusable one. -/
def plainContext (e : Engine ω) (now : Moment) (payload : Payload) : EvaluationContext where
  organizationId := e.configuration.organizationId
  moduleName := e.configuration.moduleName
  data := payload.fields
  timestamp := now
  userId := none
  metadata := none
  entityId := none
  extras := []
  given := ["organization_id", "module_name", "data"]

def buildContext {σ : Type} (e : Engine ω) (clock : Clock) (payload : Payload)
    (context : ContextInput) : Action σ EvaluationContext := do
  match ← Action.ofExcept (e.checkContext clock payload context) with
  | .ok c => pure c
  | .bad issues =>
    Action.warn ("Ignoring invalid evaluation context: " ++ Schema.rejection issues)
    pure (e.plainContext (← Action.ofExcept clock.now) payload)

end Engine

end AlertRules
