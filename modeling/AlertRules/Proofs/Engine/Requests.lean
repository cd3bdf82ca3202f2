import AlertRules.Engine.Evaluation
import AlertRules.Proofs.Action

/-!
Runs of an engine.

A run is what is asked of an engine, one request after the other, while the outside world
changes by itself. A request that fails does not keep the next from being served. So what
every request keeps a run keeps (`serveAll_keeps`), and all that is said of runs is said
of one request at a time.
-/

namespace AlertRules

open AlertRules.Action

namespace Action

variable {σ τ α β : Type}

/-- Does something with each of several things, one after the other, whatever fails. -/
def inTurn (f : α → Action σ Unit) : List α → Action σ Unit
  | [] => pure ()
  | a :: rest => do
    let _ ← (f a).attempt
    inTurn f rest

theorem inTurn_keeps {good : σ → Prop} {f : α → Action σ Unit} {l : List α}
    (h : ∀ a ∈ l, (f a).Keeps good) : (inTurn f l).Keeps good := by
  induction l with
  | nil => exact .pure ()
  | cons a rest ih =>
      obtain ⟨ha, hrest⟩ := List.forall_mem_cons.mp h
      exact .bind (.attempt ha) fun _ => ih hrest

theorem inTurn_mirrors {view : σ → τ} {f : α → Action σ Unit} {g : α → Action τ Unit}
    (h : ∀ a, Mirrors view (f a) (g a)) (l : List α) : Mirrors view (inTurn f l) (inTurn g l) := by
  induction l with
  | nil => exact .pure ()
  | cons a rest ih => exact .bind (.attempt (h a)) fun _ => ih

end Action

namespace Engine

variable {ω : Type}

/-- What can be asked of an engine; the outside world changes by itself. -/
inductive Request (ω : Type) where
  | load (clock : Clock)
  | batch (clock : Clock) (rules : RuleSet) (payload : Payload) (input : ContextInput)
  | evaluation (clock : Clock) (payload : Payload) (input : ContextInput)
  | event (clock : Clock) (payload : Payload) (input : ContextInput)
  | actions (clock : Clock) (results : List EvaluationResult)
  | drain (clock : Clock)
  | clearCache
  | resetStatistics (clock : Clock)
  | close
  | outside (change : ω → ω)

/-- The clock that a request reads, if it reads one. -/
def Request.clock? : Request ω → Option Clock
  | .load clock => some clock
  | .batch clock _ _ _ => some clock
  | .evaluation clock _ _ => some clock
  | .event clock _ _ => some clock
  | .actions clock _ => some clock
  | .drain clock => some clock
  | .resetStatistics clock => some clock
  | .clearCache => none
  | .close => none
  | .outside _ => none

/-- The request in a wider world, where changes become changes of that world. -/
def Request.lift {ω' : Type} (f : (ω → ω) → ω' → ω') : Request ω → Request ω'
  | .load clock => .load clock
  | .batch clock rules payload input => .batch clock rules payload input
  | .evaluation clock payload input => .evaluation clock payload input
  | .event clock payload input => .event clock payload input
  | .actions clock results => .actions clock results
  | .drain clock => .drain clock
  | .clearCache => .clearCache
  | .resetStatistics clock => .resetStatistics clock
  | .close => .close
  | .outside change => .outside (f change)

def serve (e : Engine ω) : Request ω → Action (EngineState ω) Unit
  | .load clock => do
    let _ ← e.loadRules clock
  | .batch clock rules payload input => do
    let _ ← e.evaluateGiven clock rules payload input
  | .evaluation clock payload input => do
    let _ ← e.evaluate clock payload input
  | .event clock payload input => do
    let _ ← e.processEvent clock payload input
  | .actions clock results => do
    let _ ← e.executeActions clock results
  | .drain clock => e.drain clock
  | .clearCache => clearCache
  | .resetStatistics clock => resetStatistics clock
  | .close => close
  | .outside change => EngineState.outside (modify change)

def serveAll (e : Engine ω) : List (Request ω) → Action (EngineState ω) Unit := inTurn e.serve

theorem serveAll_keeps {e : Engine ω} {good : EngineState ω → Prop} {requests : List (Request ω)}
    (h : ∀ request ∈ requests, (e.serve request).Keeps good) :
    (e.serveAll requests).Keeps good :=
  inTurn_keeps h

end Engine

end AlertRules
