import AlertRules.Fault

/-!
Actions: computations that may fail, change a state and write a log.

The state and the log survive a failure. This matters: a batch goes on
after a rule that fails, and what the failing rule logged and cached
before it failed is still there. So the fault is the innermost effect
and the log the outermost, and an action run from a state always yields
a final state and log besides its outcome.
-/

namespace AlertRules

inductive Level where
  | debug
  | info
  | warning
  | error
  deriving DecidableEq, Repr

namespace Level

def name : Level → String
  | .debug => "DEBUG"
  | .info => "INFO"
  | .warning => "WARNING"
  | .error => "ERROR"

def rank : Level → Nat
  | .debug => 0
  | .info => 1
  | .warning => 2
  | .error => 3

end Level

structure LogEntry where
  level : Level
  text : String
  deriving DecidableEq, Repr

abbrev Log := List LogEntry

/-- A computation over a state `σ` that may fail and may log. -/
abbrev Action (σ α : Type) := ExceptT Fault (StateT σ (StateM Log)) α

/-- What an action ends with: its outcome, the state and the log. -/
structure Ending (σ α : Type) where
  outcome : Except Fault α
  state : σ
  log : Log

namespace Action

variable {σ τ α β : Type}

def runFrom (a : Action σ α) (s : σ) (log : Log) : Ending σ α :=
  match (a.run.run s).run log with
  | ((outcome, s'), log') => ⟨outcome, s', log'⟩

def ofEnding (f : σ → Log → Ending σ α) : Action σ α :=
  ExceptT.mk fun s log => let e := f s log; ((e.outcome, e.state), e.log)

def record (level : Level) (text : String) : Action σ Unit :=
  ofEnding fun s log => ⟨.ok (), s, log ++ [⟨level, text⟩]⟩

def debug (text : String) : Action σ Unit := record .debug text

def info (text : String) : Action σ Unit := record .info text

def warn (text : String) : Action σ Unit := record .warning text

def error (text : String) : Action σ Unit := record .error text

/-- The outcome of an action as a value: the result itself never fails. -/
def attempt (a : Action σ α) : Action σ (Except Fault α) :=
  ofEnding fun s log => let e := a.runFrom s log; ⟨.ok e.outcome, e.state, e.log⟩

def ofExcept : Except Fault α → Action σ α
  | .ok a => pure a
  | .error fault => throw fault

/-- Runs an action on a part of the state. -/
def within (get : σ → τ) (put : σ → τ → σ) (a : Action τ α) : Action σ α :=
  ofEnding fun s log =>
    let e := a.runFrom (get s) log
    ⟨e.outcome, put s e.state, e.log⟩

/-- Runs an action with a log of its own, which becomes part of the
result. -/
def apart (a : Action σ α) : Action σ (Except Fault α × Log) :=
  ofEnding fun s log =>
    let e := a.runFrom s []
    ⟨.ok (e.outcome, e.log), e.state, log⟩

/-- Runs an action that also has a state of its own, which starts as given.
What became of it is the result; a failure leaves nothing of it. -/
def beside (a : Action (σ × τ) Unit) (start : τ) : Action σ τ :=
  ofEnding fun s log =>
    let e := a.runFrom (s, start) log
    ⟨e.outcome.map fun () => e.state.2, e.state.1, e.log⟩

end Action

end AlertRules
