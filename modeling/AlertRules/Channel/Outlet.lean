import AlertRules.Channel.Roster

/-!
Outlets: channels as the executor sees them.

An outlet has a name and can be sent a notification. A channel over the
wire is one; a recorder is another, which keeps what it is sent and then
does what it is told to: succeed, report a failure, or fail outright.
-/

namespace AlertRules

/-- Something that notifications can be sent to. `ω` is whatever the
outlet lives in. -/
structure Outlet (ω : Type) where
  name : String
  send : Clock → Notification → Action ω Dispatch

namespace Outlet

variable {ω τ : Type}

def ofChannel (c : Channel) : Outlet Wire where
  name := c.name
  send clock n := c.send clock n

def within (get : ω → τ) (put : ω → τ → ω) (o : Outlet τ) : Outlet ω where
  name := o.name
  send clock n := (o.send clock n).within get put

end Outlet

/-- What a recorder does with a notification after it has kept it. -/
inductive Manner where
  | accept
  | refuse
  | fail
  deriving DecidableEq, Repr

/-- What recorders have kept: the notifications of each, by name. -/
abbrev Recordings := List (String × List Notification)

namespace Recordings

def add (r : Recordings) (name : String) (n : Notification) : Recordings :=
  r.map fun (k, kept) => if k == name then (k, kept ++ [n]) else (k, kept)

end Recordings

def Outlet.recorder (name : String) (manner : Manner) : Outlet Recordings where
  name
  send clock n := do
    modify fun r => r.add name n
    match manner with
    | .accept => Channel.sent name clock n .dryRun
    | .refuse => Channel.refused name clock n "refused"
    | .fail => throw (.service .other (name ++ " down"))

end AlertRules
