import AlertRules.Action
import AlertRules.Alert

/-!
The desk: the outside world and the work put off for later.

Work that nobody waits for is handed to a pool, as data. It is done
later, in the order in which it was handed in, and what it logs is not
part of the log of who handed it in. A pool that is closed takes no more
work.
-/

namespace AlertRules

inductive Job where
  | deliver (channel : String) (n : Notification)
  | increment (ruleId : String)

/-- Work that waits to be done, oldest first. -/
structure Pool where
  isClosed : Bool := false
  jobs : List Job := []

/-- The outside world and a pool. -/
structure Desk (ω : Type) where
  world : ω
  pool : Pool := {}

namespace Desk

variable {ω α : Type}

def outside (a : Action ω α) : Action (Desk ω) α :=
  a.within (·.world) fun d w => { d with world := w }

/-- Hands a job to the pool, unless it is closed. -/
def submit (job : Job) : Action (Desk ω) Bool := do
  let d ← get
  if d.pool.isClosed then pure false
  else
    set { d with pool := { d.pool with jobs := d.pool.jobs ++ [job] } }
    pure true

def takeJobs : Action (Desk ω) (List Job) := do
  let d ← get
  set { d with pool := { d.pool with jobs := [] } }
  pure d.pool.jobs

def close : Action (Desk ω) Unit :=
  modify fun d => { d with pool := { d.pool with isClosed := true } }

end Desk

end AlertRules
