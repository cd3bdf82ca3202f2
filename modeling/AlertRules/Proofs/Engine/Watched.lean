import AlertRules.Proofs.Engine.Mirror
import AlertRules.Proofs.Execution.Watched

/-!
Watching an engine at work.

A watched engine is one with a watched executor. Its source works in the
watched world, but asking for rules is no deed and is not written down.
Watching changes nothing here either (`Engine.processEvent_mirrors`).
-/

namespace AlertRules

variable {ω : Type}

/-- The engine with the deeds of its executor written down. -/
def Engine.watched (e : Engine ω) : Engine (Watched ω) where
  configuration := e.configuration
  source := e.source.map (·.within (·.world) fun w x => { w with world := x })
  executor := e.executor.watched
  named := e.named

namespace EngineState

/-- A state in whose world deeds are written down, none so far. -/
def watched (s : EngineState ω) : EngineState (Watched ω) :=
  ⟨s.desk.watched, s.cache, s.sets, s.statistics⟩

def unwatched (s : EngineState (Watched ω)) : EngineState ω :=
  ⟨s.desk.unwatched, s.cache, s.sets, s.statistics⟩

end EngineState

theorem RuleSource.watched_mirrors (source : RuleSource ω) :
    (source.within (·.world) fun (w : Watched ω) x => { w with world := x }).IsMirror
      Watched.world source where
  fetch _ _ _ := Watched.outside_mirrors _
  increment := by
    unfold RuleSource.within
    cases source.increment with
    | none => exact .none
    | some count => exact .some fun id => Watched.outside_mirrors (count id)

namespace Engine

theorem watched_mirrors (e : Engine ω) : e.watched.IsMirror Watched.world e where
  configuration := rfl
  source := by
    unfold watched
    cases e.source with
    | none => exact .none
    | some source => exact .some source.watched_mirrors
  executor := e.executor.watched_mirrors

theorem processEvent_mirrors (e : Engine ω) (clock : Clock) (payload : Payload)
    (input : ContextInput) :
    Action.Mirrors EngineState.unwatched (e.watched.processEvent clock payload input)
      (e.processEvent clock payload input) :=
  e.watched_mirrors.processEvent clock payload input

end Engine

end AlertRules
