import AlertRules.Engine.Evaluation
import AlertRules.Store.Memory

/-!
A world for engines to work in.

It has everything that an engine can be connected to: a store in memory,
recorders, a fixed set of rules, a database, and the wire with its
servers. Each is a part of the world, and what lives in a part also
lives in the world.
-/

namespace AlertRules

structure World where
  memory : Memory := {}
  sent : Recordings := []
  rules : ListSource := {}
  database : Database := {}
  wire : Wire

namespace World

def memoryStore : AlertStore World :=
  Memory.store.within (·.memory) fun w m => { w with memory := m }

def databaseStore (dsn : Value) : AlertStore World :=
  (Repository.alertStore dsn).within (·.database) fun w d => { w with database := d }

def listSource (counts : Bool) : RuleSource World :=
  (ListSource.source counts).within (·.rules) fun w r => { w with rules := r }

def databaseSource (dsn : Value) : RuleSource World :=
  (RuleSource.ofDatabase dsn).within (·.database) fun w d => { w with database := d }

def recorder (name : String) (manner : Manner) : Outlet World :=
  (Outlet.recorder name manner).within (·.sent) fun w s => { w with sent := s }

def channel (c : Channel) : Outlet World :=
  (Outlet.ofChannel c).within (·.wire) fun w x => { w with wire := x }

def channels (c : Configuration) (env : Environment) : Except Fault (List (Outlet World)) := do
  let settings ← c.channelSettings env
  (·.map channel) <$> Channel.buildAll settings

/-- The rule source of an engine that was given none: the database, if one
is configured. -/
def defaultSource (c : Configuration) : Option (RuleSource World) :=
  if c.warehouseDsn.truthy then some (databaseSource c.warehouseDsn) else none

/-- The executor of an engine that was given none: it works with the
database, if one is configured, with the enabled channels, and with the
engine's pool. -/
def defaultExecutor (c : Configuration) (env : Environment) : Except Fault (Executor World) := do
  pure {
    configuration := c
    store := if c.warehouseDsn.truthy then some (databaseStore c.warehouseDsn) else none
    outlets := ← channels c env
    usesPool := true }

/-- An engine for a configuration. What it is not given it takes from the
configuration. -/
def engine (c : Configuration) (env : Environment) (source : Option (RuleSource World))
    (executor : Option (Executor World)) : Except Fault (Engine World) := do
  Engine.checkConfiguration c
  let executor ← match executor with
    | some e => pure e
    | none => defaultExecutor c env
  Engine.make c (source.or (defaultSource c)) executor

end World

end AlertRules
