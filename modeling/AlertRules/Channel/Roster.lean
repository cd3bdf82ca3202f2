import AlertRules.Channel.Email
import AlertRules.Channel.Slack
import AlertRules.Channel.Webhook

/-!
The channels there are, and those that are enabled.
-/

namespace AlertRules

inductive Channel where
  | slack (c : Slack)
  | email (c : Email)
  | webhook (c : Webhook)

namespace Channel

def name : Channel → String
  | .slack _ => Slack.name
  | .email _ => Email.name
  | .webhook _ => Webhook.name

def basics : Channel → Basics
  | .slack c => c.basics
  | .email c => c.basics
  | .webhook c => c.basics

/-- The names of all channels, in the order in which they are built. -/
def names : List String := [Slack.name, Email.name, Webhook.name]

/-- The channel of a name with given settings, if the name is one. -/
def build? (name : String) (settings : Object) : Except Fault (Option Channel) :=
  if name == Slack.name then .ok (some (.slack (.ofSettings settings)))
  else if name == Email.name then .ok (some (.email (.ofSettings settings)))
  else if name == Webhook.name then (some ∘ .webhook) <$> Webhook.ofSettings settings
  else .ok none

def inspect (c : Channel) : Except Fault String := do
  let kind := match c with
    | .slack _ => "SlackChannel"
    | .email _ => "EmailChannel"
    | .webhook _ => "WebhookChannel"
  pure (kind ++ "(enabled=" ++ (← c.basics.enabled.display) ++ ")")

def validity {σ : Type} : Channel → Action σ Value
  | .slack c => .bool <$> c.isValid
  | c => pure c.basics.enabled

def send (clock : Clock) (n : Notification) : Channel → Action Wire Dispatch
  | .slack c => c.send clock n
  | .email c => c.send clock n
  | .webhook c => c.send clock n

/-- The settings of one channel, none if it has none. -/
def settingsOf (settings : Object) (name : String) : Except Fault Object :=
  match settings.get? name with
  | none => .ok []
  | some (.object fields) => .ok fields
  | some _ => .error .unsupported

def buildAmong (settings : Object) : List String → Except Fault (List Channel)
  | [] => .ok []
  | name :: rest => do
    let own ← settingsOf settings name
    let built ←
      if (own.getOrNull "enabled").truthy then build? name own else .ok none
    let others ← buildAmong settings rest
    pure (built.toList ++ others)

def buildAll (settings : Object) : Except Fault (List Channel) := buildAmong settings names

end Channel

end AlertRules
