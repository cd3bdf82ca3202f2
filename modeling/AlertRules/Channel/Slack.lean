import AlertRules.Channel.Basic

/-!
Notifications to a chat, by an incoming webhook.

The message is a line of text and one attachment with the facts of the
alert. It is sent only if the channel is enabled and has an address.
-/

namespace AlertRules

structure Slack where
  basics : Channel.Basics
  webhookUrl : Value
  channel : Value
  username : Value
  iconEmoji : Value

namespace Slack

def name : String := "slack"

def ofSettings (settings : Object) : Slack where
  basics := .ofSettings settings
  webhookUrl := settings.getOrNull "webhook_url"
  channel := settings.getOrNull "channel"
  username := Channel.setting settings "username" (.text "Alert Engine")
  iconEmoji := Channel.setting settings "icon_emoji" (.text ":rotating_light:")

def color : Severity → String
  | .critical => "#FF0000"
  | .error => "#FF6600"
  | .warning => "#FFCC00"
  | .info => "#36A64F"

def fact (title value : String) : Value :=
  .object [("title", .text title), ("value", .text value), ("short", .bool true)]

def facts (n : Notification) : Except Fault (List Value) := do
  let entity := n.metadata.getOrNull "entity_id"
  let entityFact ←
    if entity.truthy then do pure [fact "Entity" (← entity.display)] else .ok []
  pure ([fact "Severity" n.severity.heading, fact "Module" (Channel.moduleLabel n),
    fact "Triggered At" (n.triggeredAt.minuteText ++ " UTC")] ++ entityFact)

def format (c : Slack) (clock : Clock) (n : Notification) : Except Fault Object := do
  let facts ← facts n
  let attachment : Object :=
    [("color", .text (color n.severity)), ("title", .text n.title), ("text", .text n.message),
      ("fields", .list facts), ("footer", .text "Alert Engine"), ("ts", .int (← clock.seconds))] ++
      (match Channel.linkOf n with
        | some link => [("title_link", .text link)]
        | none => [])
  pure <|
    [("text", .text ("*" ++ n.severity.heading ++ "*: " ++ n.title)),
      ("attachments", .list [.object attachment]), ("username", c.username),
      ("icon_emoji", c.iconEmoji)] ++
      (if c.channel.truthy then [("channel", c.channel)] else [])

def post (c : Slack) (clock : Clock) (n : Notification) : Action Wire Int := do
  let payload ← Action.ofExcept (c.format clock n)
  Wire.request {
    method := "POST", url := c.webhookUrl, payload := .object payload
    headers := .ofObject [("Content-Type", .text "application/json")]
    timeout := c.basics.timeout }

/-- Whether the channel can send; a missing address is logged. -/
def isValid {σ : Type} (c : Slack) : Action σ Bool :=
  if !c.basics.enabled.truthy then pure false
  else if !c.webhookUrl.truthy then do
    Action.error "Slack webhook_url not configured"
    pure false
  else pure true

def send (c : Slack) (clock : Clock) (n : Notification) : Action Wire Dispatch := do
  if c.basics.dryRun.truthy then
    Action.info ("[DRY RUN] Would send to Slack: " ++ n.title)
    return ← Channel.sent name clock n .dryRun
  if !(← c.isValid) then
    return ← Channel.refused name clock n "Slack not configured correctly"
  match ← (c.post clock n).attempt with
  | .ok status =>
    Action.info ("Sent alert to Slack: " ++ n.title)
    Channel.sent name clock n (.status status)
  | .error fault =>
    Channel.reportRequest name clock n "Failed to send to Slack"
      "Unexpected error sending to Slack" fault

end Slack

end AlertRules
