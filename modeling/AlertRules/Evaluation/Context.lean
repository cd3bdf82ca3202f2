import AlertRules.Rule

/-!
The context of an evaluation: for whom, for which module, about whom.

A caller may give a context with fields of its own; what a context does
not know is kept. The organization and the module of a checked context
are texts (or null). When a caller's context is unusable the engine puts
one together from its settings as they are, so the two fields hold
values.
-/

namespace AlertRules

/-- The context of an evaluation. `given` names the fields that the caller
gave, as opposed to those left at their defaults. -/
structure EvaluationContext where
  organizationId : Value
  moduleName : Value
  data : Object
  timestamp : Moment
  userId : Option String
  metadata : Option Object
  entityId : Option String
  extras : Object
  given : List String

namespace EvaluationContext

def fieldNames : List String :=
  ["organization_id", "module_name", "data", "timestamp", "user_id", "metadata", "entity_id"]

/-- Checks the fields of a context whose payload and time are checked
already. -/
def ofParts (data : Schema.Checked Object) (timestamp : Schema.Checked Moment) (o : Object) :
    Schema.Checked EvaluationContext :=
  (fun organizationId moduleName data timestamp userId metadata entityId =>
      { organizationId := .text organizationId, moduleName := Value.ofText? moduleName
        data, timestamp, userId, metadata, entityId
        extras := Schema.extras fieldNames o
        given := o.keys }) <$>
    Schema.required Schema.reference "organization_id" o <*>
    Schema.optional (Schema.nullable Schema.text) "module_name" none o <*>
    data <*>
    timestamp <*>
    Schema.optional (Schema.nullable Schema.reference) "user_id" none o <*>
    Schema.optional (Schema.nullable Schema.object) "metadata" none o <*>
    Schema.optional (Schema.nullable Schema.reference) "entity_id" none o

def ofFields (now : Moment) (o : Object) : Schema.Checked EvaluationContext :=
  Schema.legibleNames o <|
    ofParts (Schema.optional Schema.object "data" [] o)
      (Schema.optional Schema.moment "timestamp" now o) o

def check (now : Moment) : Schema.Check EvaluationContext := Schema.model (ofFields now)

end EvaluationContext

end AlertRules
