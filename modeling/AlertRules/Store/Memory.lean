import AlertRules.Store.Basic

/-!
An alert store in memory.

Alerts are kept in the order in which they were created, with ids that
count from one, and their states can be changed from outside. The store
remembers what it was asked for, and it can be told to fail, or not to
see what it holds, which is how it looks to a caller that another one
has just overtaken.
-/

namespace AlertRules

/-- An alert in the store, with its id and the state it is in now. -/
structure StoredAlert where
  id : String
  alert : Alert
  status : String

structure Memory where
  alerts : List StoredAlert := []
  lookups : List (Value × Value × Value) := []
  findFault : Option Fault := none
  createFault : Option Fault := none
  blind : Bool := false

namespace StoredAlert

def isOpen (a : StoredAlert) : Bool := AlertStatus.openNames.contains a.status

def isOf (a : StoredAlert) (organizationId fingerprint : String) : Bool :=
  a.alert.organizationId == organizationId && a.alert.fingerprint == fingerprint

end StoredAlert

namespace Memory

def nextId (m : Memory) : String := "alert-" ++ Value.intText (m.alerts.length + 1)

/-- The first alert of an organization, with a fingerprint and one of some
states. -/
def find (organizationId fingerprint statuses : Value) :
    List StoredAlert → Except Fault (Option String)
  | [] => .ok none
  | a :: rest =>
    if organizationId.isText a.alert.organizationId && fingerprint.isText a.alert.fingerprint then
      do
        if ← statuses.holds a.status then pure (some a.id)
        else find organizationId fingerprint statuses rest
    else find organizationId fingerprint statuses rest

def findOpen (organizationId fingerprint statuses : Value) : Action Memory (Option String) := do
  modify fun m => { m with lookups := m.lookups ++ [(organizationId, fingerprint, statuses)] }
  let m ← get
  match m.findFault with
  | some fault => throw fault
  | none =>
    if m.blind then pure none
    else Action.ofExcept (find organizationId fingerprint statuses m.alerts)

/-- Inserts an alert unless an open one with the same organization and
fingerprint is there. -/
def insert (m : Memory) (a : Alert) : Option (String × Memory) :=
  if m.alerts.any fun b => b.isOf a.organizationId a.fingerprint && b.isOpen then none
  else
    some (m.nextId, { m with alerts := m.alerts ++ [⟨m.nextId, a, a.status.name⟩] })

def create (a : Alert) : Action Memory (Option String) := do
  let m ← get
  match m.createFault with
  | some fault => throw fault
  | none =>
    match m.insert a with
    | some (id, m') =>
      set m'
      pure (some id)
    | none => pure none

def setStatus (m : Memory) (id status : String) : Memory :=
  { m with alerts := m.alerts.map fun a => if a.id == id then { a with status } else a }

def store : AlertStore Memory where
  findOpen := findOpen
  create := create

end Memory

def AlertStore.within {ω τ : Type} (get : ω → τ) (put : ω → τ → ω) (s : AlertStore τ) :
    AlertStore ω where
  findOpen o f statuses := (s.findOpen o f statuses).within get put
  create a := (s.create a).within get put

end AlertRules
