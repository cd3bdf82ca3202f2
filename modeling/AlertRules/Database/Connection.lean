import AlertRules.Action

/-!
Database connections.

Each operation opens a connection of its own and closes it again,
whatever happens in between. What the database does on the next
connection is the next `Reply` of its script; a database without a reply
refuses to be connected to. Every call is recorded, in order.
-/

namespace AlertRules

inductive DatabaseStage where
  | connect
  | execute
  | fetch
  | commit
  deriving DecidableEq, Repr

/-- What the database does on one connection: the rows it finds, the single
row it finds, and where it fails, if it does. -/
structure Reply where
  rows : List Value := []
  row : Value := .null
  broken : Option (DatabaseStage × Fault) := none

inductive DatabaseCall where
  | connect (dsn : Value)
  | execute (statement : String) (parameters : List Value)
  | commit
  | rollback
  | close

/-- A database: what it is going to do, and what it was asked to do. -/
structure Database where
  script : List Reply := []
  calls : List DatabaseCall := []

namespace Database

variable {α : Type}

def isFault : Fault → Bool
  | .service .databaseConnection _ | .service .databaseStatement _ => true
  | _ => false

def note (c : DatabaseCall) : Action Database Unit :=
  modify fun d => { d with calls := d.calls ++ [c] }

/-- Fails if the connection fails at a stage. -/
def reach (r : Reply) (stage : DatabaseStage) : Action Database Unit :=
  match r.broken with
  | some (broken, fault) => if broken = stage then throw fault else pure ()
  | none => pure ()

def connect (dsn : Value) : Action Database Reply := do
  note (.connect dsn)
  let d ← get
  match d.script with
  | [] => throw (.service .databaseConnection "no database")
  | r :: rest =>
    set { d with script := rest }
    reach r .connect
    pure r

def execute (r : Reply) (statement : String) (parameters : List Value) : Action Database Unit := do
  note (.execute statement parameters)
  reach r .execute

def fetchAll (r : Reply) : Action Database (List Value) := do
  reach r .fetch
  pure r.rows

def fetchOne (r : Reply) : Action Database Value := do
  reach r .fetch
  pure r.row

def commit (r : Reply) : Action Database Unit := do
  note .commit
  reach r .commit

def withConnection (dsn : Value) (use : Reply → Action Database α) : Action Database α := do
  let r ← connect dsn
  let outcome ← (use r).attempt
  note .close
  Action.ofExcept outcome

end Database

end AlertRules
