import AlertRules.Alert
import AlertRules.Channel.Wire
import AlertRules.Time.Clock

/-!
What all channels have in common.

A channel is built from settings of any kind; what they do not say has a
default. Whatever happens when a channel sends, the outcome is a
`Dispatch`: it says whether the notification went out, or why not.
-/

namespace AlertRules

/-- What a server answered, as far as a dispatch reports it. -/
inductive Response where
  | dryRun
  | status (code : Int)
  | recipients (names : List Value)

structure Dispatch where
  success : Bool
  channel : String
  alertId : Option String
  timestamp : Moment
  error : Option String
  response : Option Response

namespace Channel

structure Basics where
  enabled : Value
  dryRun : Value
  timeout : Value

def setting (settings : Object) (key : String) (default : Value) : Value :=
  (settings.get? key).getD default

def Basics.ofSettings (settings : Object) : Basics where
  enabled := setting settings "enabled" (.bool true)
  dryRun := setting settings "dry_run" (.bool false)
  timeout := setting settings "timeout" (.int 10)

/-- The outcome of sending a notification, as of now. -/
def outcome {σ : Type} (channel : String) (clock : Clock) (n : Notification)
    (result : Except String Response) : Action σ Dispatch := do
  pure {
    success := result.isOk
    channel
    alertId := n.alertId
    timestamp := ← Action.ofExcept clock.now
    error := match result with
      | .ok _ => none
      | .error error => some error
    response := result.toOption }

def sent {σ : Type} (channel : String) (clock : Clock) (n : Notification) (response : Response) :
    Action σ Dispatch :=
  outcome channel clock n (.ok response)

/-- A notification that did not go out. -/
def refused {σ : Type} (channel : String) (clock : Clock) (n : Notification) (error : String) :
    Action σ Dispatch :=
  outcome channel clock n (.error error)

def moduleLabel (n : Notification) : String :=
  match n.moduleName with
  | some s => if s.isEmpty then "global" else s
  | none => "global"

/-- The link of a notification, if it is not empty. -/
def linkOf (n : Notification) : Option String :=
  match n.link with
  | some s => if s.isEmpty then none else some s
  | none => none

def isRequestFault : Fault → Bool
  | .service .http _ => true
  | _ => false

/-- How a channel that makes requests reports a fault: the two wordings are
for a fault of the request and for any other. -/
def reportRequest (channel : String) (clock : Clock) (n : Notification) (failed unexpected : String)
    (fault : Fault) : Action Wire Dispatch := do
  Action.error ((if isRequestFault fault then failed else unexpected) ++ ": " ++ fault.message)
  refused channel clock n fault.message

end Channel

end AlertRules
