import AlertRules.Channel.Basic
import AlertRules.Markup.Escape
import AlertRules.Markup.Unescape
import AlertRules.Value.Parts

/-!
Notifications by mail.

A mail has a plain body and a page. The title and the message of a
notification are escaped already, so the page takes them as they are and
escapes everything else, while the subject and the message of the plain
body are turned back into text.
-/

namespace AlertRules

structure Email where
  basics : Channel.Basics
  host : Value
  portNumber : Value
  user : Value
  password : Value
  sender : Value
  recipients : Value
  useTls : Value

structure Letter where
  subject : String
  html : String
  plain : String

namespace Email

def name : String := "email"

def ofSettings (settings : Object) : Email where
  basics := .ofSettings settings
  host := Channel.setting settings "smtp_host" (.text "localhost")
  portNumber := Channel.setting settings "smtp_port" (.int 587)
  user := settings.getOrNull "smtp_user"
  password := settings.getOrNull "smtp_password"
  sender := Channel.setting settings "from_email" (.text "alerts@localhost")
  recipients := Channel.setting settings "to_emails" (.list [])
  useTls := Channel.setting settings "use_tls" (.bool true)

/-- The recipients of a notification: its own, or else the configured
ones. -/
def resolveRecipients (c : Email) (n : Notification) : Except Fault (List Value) :=
  if n.recipients.isEmpty then
    match c.recipients.parts? with
    | some names => .ok names
    | none => .error .unsupported
  else .ok (n.recipients.map .text)

def color : Severity → String
  | .critical => "#d32f2f"
  | .error => "#f57c00"
  | .warning => "#fbc02d"
  | .info => "#388e3c"

/-- The paragraph with the link of a notification, if it has one. -/
def linkParagraph (n : Notification) : String :=
  match Channel.linkOf n with
  | some link => "<p><a href=\"" ++ Markup.escapeAttribute link ++ "\">View details</a></p>"
  | none => ""

def pageLines (n : Notification) : List String :=
  ["",
    "        <html>",
    "        <body style=\"font-family: Arial, sans-serif; color: #333;\">",
    "            <div style=\"background-color: " ++ color n.severity ++
      "; color: white; padding: 16px;\">",
    "                <h2>" ++ n.title ++ "</h2>",
    "                <p><strong>Severity:</strong> " ++ n.severity.heading ++ "</p>",
    "            </div>",
    "            <div style=\"padding: 16px;\">",
    "                <p>" ++ n.message ++ "</p>",
    "                <p><strong>Module:</strong> " ++
      Markup.escapeAttribute (Channel.moduleLabel n) ++ "</p>",
    "                <p><strong>Triggered At:</strong> " ++ n.triggeredAt.secondText ++
      " UTC</p>",
    "                " ++ linkParagraph n,
    "            </div>",
    "        </body>",
    "        </html>",
    "        "]

def page (n : Notification) : String := Value.joined "\n" (pageLines n)

def plainBody (n : Notification) (message : String) : String :=
  n.title ++ "\n\nSeverity: " ++ n.severity.heading ++ "\nModule: " ++ Channel.moduleLabel n ++
    "\n\n" ++ message ++ "\n" ++
    (match Channel.linkOf n with
      | some link => "\n" ++ link ++ "\n"
      | none => "")

def format (n : Notification) : Except Fault Letter := do
  let message ← Markup.unescape n.message
  let subject ← Markup.unescape ("[" ++ n.severity.heading ++ "] " ++ n.title)
  pure ⟨subject, page n, plainBody n message⟩

/-- The addresses of a mail, which have to be texts. -/
def addressLine (recipients : List Value) : Except Fault String := do
  let names ← recipients.mapM fun
    | .text s => Except.ok s
    | _ => .error .unsupported
  pure (Value.joined ", " names)

/-- The texts of a mail, which have to be ones that can be sent. -/
def sendable (letter : Letter) : Except Fault Letter :=
  if Text.isWritable letter.plain && Text.isWritable letter.html then .ok letter
  else .error .unsupported

def deliver (c : Email) (recipients : List Value) (n : Notification) : Action Wire Unit := do
  let letter ← Action.ofExcept (format n >>= sendable)
  let addresses ← Action.ofExcept (addressLine recipients)
  Wire.session c.host c.portNumber c.basics.timeout do
    if c.useTls.truthy then Wire.secure
    if c.user.truthy && c.password.truthy then Wire.login c.user c.password
    Wire.mail {
      subject := letter.subject, sender := c.sender, recipients := addresses
      plain := letter.plain, html := letter.html }
  Action.info ("Sent alert email to " ++
    (← Action.ofExcept (Value.list recipients).inspect) ++ ": " ++ n.title)

def send (c : Email) (clock : Clock) (n : Notification) : Action Wire Dispatch := do
  let recipients ← Action.ofExcept (c.resolveRecipients n)
  if c.basics.dryRun.truthy then
    Action.info ("[DRY RUN] Would send email to " ++
      (← Action.ofExcept (Value.list recipients).inspect) ++ ": " ++ n.title)
    return ← Channel.sent name clock n .dryRun
  if !c.basics.enabled.truthy then
    return ← Channel.refused name clock n "Email channel disabled"
  if recipients.isEmpty then
    Action.error "No recipient emails configured"
    return ← Channel.refused name clock n "No recipient emails configured"
  match ← (c.deliver recipients n).attempt with
  | .ok () => Channel.sent name clock n (.recipients recipients)
  | .error fault =>
    Action.error ("Failed to send email: " ++ fault.message)
    Channel.refused name clock n fault.message

end Email

end AlertRules
