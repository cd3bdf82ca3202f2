import AlertRules.Action
import AlertRules.Value.Table

/-!
The wire: the servers that channels talk to.

A channel makes one request to a web server, or opens one session with a
mail server. It does so by libraries, and what a library makes of a call,
down to what the server answers, is up to the `Transport`: any call may
fail, before anything is sent or after. The wire records every call, in
the order made, whether it succeeds or not.

A mail session is always left once it has been opened, also when
something in it fails. What fails in leaving it stands in place of what
failed before.
-/

namespace AlertRules

structure WebRequest where
  method : String
  url : Value
  payload : Value
  headers : Table
  timeout : Value

structure Mail where
  subject : String
  sender : Value
  recipients : String
  plain : String
  html : String

structure Transport where
  /-- Makes a request; the result is the status of the answer. -/
  request : WebRequest → Except Fault Int
  /-- Fails if a status says that a request failed. -/
  checkStatus : Int → Except Fault Unit
  /-- Opens a mail session, given a host, a port and a timeout. -/
  connect : Value → Value → Value → Except Fault Unit
  secure : Except Fault Unit
  /-- Logs in, given a user and a password. -/
  login : Value → Value → Except Fault Unit
  send : Mail → Except Fault Unit
  quit : Except Fault Unit

inductive Contact where
  | request (r : WebRequest)
  | connect (host portNumber timeout : Value)
  | secure
  | login (user password : Value)
  | mail (m : Mail)
  | quit

structure Wire where
  transport : Transport
  contacts : List Contact := []

namespace Wire

variable {α : Type}

def call (c : Contact) (outcome : Transport → Except Fault α) : Action Wire α := do
  modify fun w => { w with contacts := w.contacts ++ [c] }
  Action.ofExcept (outcome (← get).transport)

/-- Makes a request; the status of the answer is the result, unless it
says that the request failed. -/
def request (r : WebRequest) : Action Wire Int := do
  let status ← call (.request r) (·.request r)
  Action.ofExcept ((← get).transport.checkStatus status)
  pure status

/-- Opens a session, does what is to be done in it, and leaves it. -/
def session (host portNumber timeout : Value) (inside : Action Wire Unit) : Action Wire Unit := do
  call (.connect host portNumber timeout) (·.connect host portNumber timeout)
  let outcome ← inside.attempt
  call .quit (·.quit)
  Action.ofExcept outcome

def secure : Action Wire Unit := call .secure (·.secure)

def login (user password : Value) : Action Wire Unit :=
  call (.login user password) (·.login user password)

def mail (m : Mail) : Action Wire Unit := call (.mail m) (·.send m)

end Wire

end AlertRules
