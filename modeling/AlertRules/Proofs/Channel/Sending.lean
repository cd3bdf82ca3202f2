import AlertRules.Channel.Roster
import AlertRules.Proofs.Channel.Contacts
import AlertRules.Proofs.Number.Written
import AlertRules.Proofs.Value.Shown
import AlertRules.Settings.Configuration

/-!
Sending a notification over any of the channels.

The channels check in different orders whether they may send at all, and each
has faults of its own that it has to keep to itself. They answer to one
contract all the same, `Channel.Truthful`. A channel makes an attempt if it is
enabled and no dry run, has something to send to, and can write what it sends;
if not, no server hears of the notification. An attempt is one request or one
session, as far as the servers let it get, and the dispatch says that the
notification went out exactly if it was a dry run or the attempt came to its
end. The main statement is that channels with settings as a configuration makes
them keep the contract (`Channel.send_truthful`) whatever the servers do, given that
the statuses by which a request fails are those of the two kinds of errors.
-/

namespace AlertRules

open AlertRules.Action

/-! ### The contract -/

def Value.textItems : Value → List String
  | .list items => items.filterMap fun
    | .text s => some s
    | _ => none
  | _ => []

namespace Channel

/-- What a channel sends a notification to. A chat has one address; a mail goes to
the recipients of the notification and a request to its address, if it has any, and
to the configured ones otherwise. -/
def target (n : Notification) : Channel → Value
  | .slack c => c.webhookUrl
  | .email c => (Value.list (n.recipients.map .text)).orElse c.recipients
  | .webhook c => (Value.ofText? n.webhookUrl).orElse c.url

/-- Whether a channel can write what it sends: the entity that its message shows has a
text, the texts of its mail can be made and encoded, the method of its request is one of
two. -/
def Writes (n : Notification) : Channel → Prop
  | .slack _ => (n.metadata.getOrNull "entity_id").hasText = true
  | .email _ => ∃ letter, (Email.format n >>= Email.sendable) = .ok letter
  | .webhook c => c.method = "POST" ∨ c.method = "PUT"

/-- Whether a channel gets in touch with a server. -/
def Attempts (n : Notification) (c : Channel) : Prop :=
  c.basics.dryRun.truthy = false ∧ c.basics.enabled.truthy = true ∧
    (c.target n).truthy = true ∧ c.Writes n

end Channel

namespace Email

def mailOf (c : Email) (n : Notification) (letter : Letter) : Mail where
  subject := letter.subject
  sender := c.sender
  recipients := Value.joined ", " ((Channel.email c).target n).textItems
  plain := letter.plain
  html := letter.html

/-- What is to be done in the session that a mail is handed over in. -/
def plan (c : Email) (m : Mail) : Plan :=
  (if c.useTls.truthy then [.secure] else []) ++
    ((if c.user.truthy && c.password.truthy then [.login c.user c.password] else []) ++ [.mail m])

end Email

def Slack.requestOf (c : Slack) (message : Object) : WebRequest where
  method := "POST"
  url := c.webhookUrl
  payload := .object message
  headers := .ofObject [("Content-Type", .text "application/json")]
  timeout := c.basics.timeout

/-- The request for a notification, with the headers that were configured. -/
def Webhook.requestOf (c : Webhook) (n : Notification) (configured : Table) : WebRequest where
  method := c.method
  url := (Channel.webhook c).target n
  payload := .object (Webhook.format n)
  headers := (Table.ofObject [("Content-Type", .text "application/json")]).update configured
  timeout := c.basics.timeout

namespace Channel

variable {clock : Clock} {now : Moment} {n : Notification}

/-- The contacts of an attempt: one request, or one session. -/
def Reaches (clock : Clock) (n : Notification) (t : Transport) (made : List Contact) :
    Channel → Prop
  | .slack c => ∃ message, c.format clock n = .ok message ∧ made = [.request (c.requestOf message)]
  | .email c => ∃ letter, (Email.format n >>= Email.sendable) = .ok letter ∧
      made = .connect c.host c.portNumber c.basics.timeout ::
        if t.passes (.connect c.host c.portNumber c.basics.timeout) then
          t.made (c.plan (c.mailOf n letter)) ++ [.quit]
        else []
  | .webhook c => ∃ configured, Table.ofValue c.headers = .ok configured ∧
      made = [.request (c.requestOf n configured)]

/-- Whether an attempt comes to its end: a request is answered, with a status that tells of
no failure, and nothing fails in a session or in leaving it. -/
def Completes (clock : Clock) (n : Notification) (t : Transport) : Channel → Prop
  | .slack c => ∃ message, c.format clock n = .ok message ∧ t.Accepts (c.requestOf message)
  | .email c => ∃ letter, (Email.format n >>= Email.sendable) = .ok letter ∧
      t.passes (.connect c.host c.portNumber c.basics.timeout) = true ∧
      t.passesAll (c.plan (c.mailOf n letter)) = true ∧ t.passes .quit = true
  | .webhook c => ∃ configured, Table.ofValue c.headers = .ok configured ∧
      t.Accepts (c.requestOf n configured)

/-- What a dispatch says about a notification is what became of it. -/
structure Truthful (clock : Clock) (n : Notification) (t : Transport) (c : Channel) (d : Dispatch)
    (made : List Contact) : Prop where
  silent : ¬ c.Attempts n → made = []
  attempt : c.Attempts n → c.Reaches clock n t made ∧ made.countP Contact.opens = 1
  success : d.success = true ↔ c.basics.dryRun.truthy = true ∨
    c.Attempts n ∧ c.Completes clock n t
  error : d.error = none ↔ d.success = true

/-! ### What is reported -/

/-- The action only reports whether a notification went out. -/
def Reports (went : Bool) (a : Action Wire Dispatch) : Prop :=
  ∀ w, a.Ends w fun outcome w' =>
    ∃ d, outcome = .ok d ∧ w' = w ∧ d.success = went ∧ (d.error = none ↔ went = true)

theorem Reports.outcome (hnow : clock.now = .ok now) (name : String) (n : Notification)
    (result : Except String Response) : Reports result.isOk (outcome name clock n result) := by
  intro w
  unfold Channel.outcome
  rw [hnow]
  cases result with
  | ok response => exact fun _ => ⟨_, rfl, rfl, rfl, by simp⟩
  | error text => exact fun _ => ⟨_, rfl, rfl, rfl, by simp⟩

theorem Reports.sent (hnow : clock.now = .ok now) (name : String) (n : Notification)
    (response : Response) : Reports true (sent name clock n response) :=
  .outcome hnow name n (.ok response)

theorem Reports.refused (hnow : clock.now = .ok now) (name : String) (n : Notification)
    (text : String) : Reports false (refused name clock n text) :=
  .outcome hnow name n (.error text)

theorem Reports.record {went : Bool} {level : Level} {text : String} {a : Action Wire Dispatch}
    (h : Reports went a) : Reports went (do Action.record level text; a) :=
  fun w => Ends.bind_record (h w)

theorem Reports.reportRequest (hnow : clock.now = .ok now) (name : String) (n : Notification)
    (failed unexpected : String) (fault : Fault) :
    Reports false (reportRequest name clock n failed unexpected fault) :=
  .record (.refused hnow name n fault.message)

/-! ### Keeping the contract -/

/-- The action makes the attempt, if there is one to be made, and succeeds if it comes
to its end. -/
def Tries {α : Type} (clock : Clock) (n : Notification) (c : Channel) (a : Action Wire α) : Prop :=
  ∀ w : Wire, w.transport.RaisesForStatus → a.Ends w fun outcome w' =>
    ∃ made, w' = w.extend made ∧ (¬ c.Attempts n → made = []) ∧
      (c.Attempts n → c.Reaches clock n w.transport made ∧ made.countP Contact.opens = 1) ∧
      (outcome.isOk = true ↔ c.Attempts n ∧ c.Completes clock n w.transport)

/-- The action is one by which the channel keeps its contract. -/
def Honours (clock : Clock) (n : Notification) (c : Channel) (a : Action Wire Dispatch) : Prop :=
  ∀ w : Wire, w.transport.RaisesForStatus → a.Ends w fun outcome w' =>
    ∃ d made, outcome = .ok d ∧ w' = w.extend made ∧ c.Truthful clock n w.transport d made

variable {c : Channel} {a : Action Wire Dispatch}

theorem Honours.record {level : Level} {text : String} (h : c.Honours clock n a) :
    c.Honours clock n (do Action.record level text; a) :=
  fun w hstatus => Ends.bind_record (h w hstatus)

/-- No attempt is made, and a dry run is all that counts as success. -/
theorem honours_of_idle (hnot : ¬ c.Attempts n) (h : Reports c.basics.dryRun.truthy a) :
    c.Honours clock n a := by
  refine fun w _ => (h w).mono ?_
  rintro outcome w' ⟨d, rfl, rfl, hsuccess, herror⟩
  refine ⟨d, [], rfl, (w'.extend_nil).symm, fun _ => rfl, fun h => absurd h hnot, ?_, ?_⟩
  · simp [hsuccess, hnot]
  · rw [herror, hsuccess]

theorem honours_of_dry (hdry : c.basics.dryRun.truthy = true) (h : Reports true a) :
    c.Honours clock n a :=
  honours_of_idle (by simp [Attempts, hdry]) (hdry ▸ h)

theorem honours_of_refused (hwet : c.basics.dryRun.truthy = false) (hnot : ¬ c.Attempts n)
    (h : Reports false a) : c.Honours clock n a :=
  honours_of_idle hnot (hwet ▸ h)

theorem honours_of_tries {α : Type} {b : Action Wire α}
    {f : Except Fault α → Action Wire Dispatch} (hwet : c.basics.dryRun.truthy = false)
    (hb : c.Tries clock n b) (hok : ∀ x, Reports true (f (.ok x)))
    (herror : ∀ fault, Reports false (f (.error fault))) :
    c.Honours clock n (b.attempt >>= f) := by
  have hreports : ∀ outcome, Reports outcome.isOk (f outcome) := by
    intro outcome
    cases outcome with
    | ok x => exact hok x
    | error fault => exact herror fault
  refine fun w hstatus => Ends.bind_attempt (hb w hstatus) ?_
  rintro outcome w' ⟨made, rfl, hsilent, hattempt, hcompletes⟩
  refine (hreports outcome (w.extend made)).mono ?_
  rintro _ w' ⟨d, rfl, rfl, hsuccess, herror⟩
  refine ⟨d, made, rfl, rfl, hsilent, hattempt, ?_, ?_⟩
  · simp [hsuccess, hwet, hcompletes]
  · rw [herror, hsuccess]

theorem tries_of_request {r : WebRequest} (hattempts : c.Attempts n)
    (hreaches : ∀ t, c.Reaches clock n t [.request r])
    (hcompletes : ∀ t, c.Completes clock n t ↔ t.Accepts r) :
    c.Tries clock n (Wire.request r) := by
  intro w hstatus
  refine (Wire.follows_request r w rfl).mono ?_
  rintro outcome w' ⟨rfl, hok⟩
  rw [Transport.passesAll_cons, Transport.passesAll_nil, Bool.and_true,
    Transport.passes_request hstatus] at hok
  rw [Transport.made_single]
  refine ⟨_, rfl, fun hnot => absurd hattempts hnot, fun _ => ⟨hreaches _, rfl⟩, ?_⟩
  simpa [hattempts, hcompletes] using hok

end Channel

/-! ### The chat -/

theorem Clock.exists_seconds {clock : Clock} {now : Moment} (hnow : clock.now = .ok now) :
    ∃ seconds, clock.seconds = .ok seconds := by
  obtain ⟨micros, hmicros, -⟩ := exists_of_bind_eq_ok hnow
  unfold seconds
  rw [hnow, hmicros]
  exact ⟨_, rfl⟩

namespace Slack

open Channel

variable {clock : Clock} {now : Moment} {n : Notification}

/-- A message is written if the entity that it shows has a text. One that it does not show
counts as false, and has a text. -/
theorem exists_format_iff (hnow : clock.now = .ok now) (c : Slack) (n : Notification) :
    (∃ message, c.format clock n = .ok message) ↔
      (n.metadata.getOrNull "entity_id").hasText = true := by
  obtain ⟨seconds, hseconds⟩ := Clock.exists_seconds hnow
  simp only [format, facts, hseconds]
  cases htruthy : (n.metadata.getOrNull "entity_id").truthy with
  | false => exact iff_of_true ⟨_, rfl⟩ (Value.hasText_of_not_truthy htruthy)
  | true =>
      cases htext : (n.metadata.getOrNull "entity_id").hasText with
      | true =>
          rw [Value.display, Value.written_of_hasText htext]
          exact iff_of_true ⟨_, rfl⟩ rfl
      | false =>
          rw [Value.display, Value.written_of_not_hasText htext]
          exact iff_of_false nofun nofun

theorem attempts_iff {c : Slack} : (slack c).Attempts n ↔
    c.basics.dryRun.truthy = false ∧ c.basics.enabled.truthy = true ∧
      c.webhookUrl.truthy = true ∧ (n.metadata.getOrNull "entity_id").hasText = true :=
  Iff.rfl

theorem post_tries (hnow : clock.now = .ok now) {c : Slack} (hwet : c.basics.dryRun.truthy = false)
    (henabled : c.basics.enabled.truthy = true) (hurl : c.webhookUrl.truthy = true) :
    (slack c).Tries clock n (c.post clock n) := by
  unfold post
  cases hmessage : c.format clock n with
  | ok message =>
      have hattempts : (slack c).Attempts n :=
        attempts_iff.mpr ⟨hwet, henabled, hurl, (exists_format_iff hnow c n).mp ⟨message, hmessage⟩⟩
      refine tries_of_request (r := c.requestOf message) hattempts
        (fun _ => ⟨message, hmessage, rfl⟩) fun t => ⟨?_, fun h => ⟨message, hmessage, h⟩⟩
      rintro ⟨_, hother, haccepts⟩
      cases hmessage.symm.trans hother
      exact haccepts
  | error fault =>
      have hnot : ¬ (slack c).Attempts n := by
        intro h
        obtain ⟨message, hother⟩ := (exists_format_iff hnow c n).mpr (attempts_iff.mp h).2.2.2
        cases hmessage.symm.trans hother
      intro w _
      refine Ends.throw ⟨[], w.extend_nil.symm, fun _ => rfl, fun h => absurd h hnot, ?_⟩
      simp [hnot]

theorem send_honours (hnow : clock.now = .ok now) (c : Slack) :
    (slack c).Honours clock n (c.send clock n) := by
  unfold send
  split
  next hdry => exact (honours_of_dry (c := slack c) hdry (.sent hnow name n .dryRun)).record
  next hwet =>
      have hwet : (slack c).basics.dryRun.truthy = false := Bool.eq_false_iff.mpr hwet
      have hinvalid : Reports false (refused name clock n "Slack not configured correctly") :=
        .refused hnow name n _
      unfold isValid
      split
      next hdisabled =>
          refine honours_of_refused hwet (fun h => ?_) hinvalid
          simp [(attempts_iff.mp h).2.1] at hdisabled
      next henabled =>
          split
          next hnowhere =>
              refine honours_of_refused hwet (fun h => ?_) hinvalid.record
              simp [(attempts_iff.mp h).2.2.1] at hnowhere
          next hsomewhere =>
              have htries : (slack c).Tries clock n (c.post clock n) :=
                post_tries hnow hwet (by simpa using henabled) (by simpa using hsomewhere)
              rw [pure_bind, Bool.not_true, if_neg Bool.false_ne_true]
              exact honours_of_tries hwet htries
                (fun status => (Reports.sent hnow name n (.status status)).record)
                (fun fault => .reportRequest hnow name n _ _ fault)

end Slack

/-! ### The webhook -/

namespace Webhook

open Channel

variable {clock : Clock} {now : Moment} {n : Notification} {c : Webhook}

theorem attempts_iff : (webhook c).Attempts n ↔
    c.basics.dryRun.truthy = false ∧ c.basics.enabled.truthy = true ∧
      (c.resolveUrl n).truthy = true ∧ (c.method = "POST" ∨ c.method = "PUT") :=
  Iff.rfl

theorem post_tries (hwet : c.basics.dryRun.truthy = false)
    (henabled : c.basics.enabled.truthy = true) (hurl : (c.resolveUrl n).truthy = true)
    (hheaders : ∃ fields, c.headers = .object fields) :
    (webhook c).Tries clock n (c.post (c.resolveUrl n) n) := by
  obtain ⟨fields, hfields⟩ := hheaders
  have hconfigured : Table.ofValue c.headers = .ok (.ofObject fields) := by
    rw [hfields]
    rfl
  unfold post
  rw [hconfigured]
  show (webhook c).Tries clock n (if (c.method == "POST" || c.method == "PUT") = true then _ else _)
  split
  next hmethod =>
      have hattempts : (webhook c).Attempts n :=
        attempts_iff.mpr ⟨hwet, henabled, hurl, by simpa using hmethod⟩
      refine tries_of_request (r := c.requestOf n (.ofObject fields)) hattempts
        (fun _ => ⟨_, hconfigured, rfl⟩) fun t => ⟨?_, fun h => ⟨_, hconfigured, h⟩⟩
      rintro ⟨_, hother, haccepts⟩
      cases hconfigured.symm.trans hother
      exact haccepts
  next hmethod =>
      have hnot : ¬ (webhook c).Attempts n := fun h => by
        simp [(attempts_iff.mp h).2.2.2] at hmethod
      intro w _
      refine Ends.throw ⟨[], w.extend_nil.symm, fun _ => rfl, fun h => absurd h hnot, ?_⟩
      simp [hnot]

theorem send_honours (hnow : clock.now = .ok now)
    (hheaders : ∃ fields, c.headers = .object fields) (hurl : c.url.hasText = true) :
    (webhook c).Honours clock n (c.send clock n) := by
  have hshown : (c.resolveUrl n).hasText = true := by
    unfold resolveUrl Value.orElse
    split
    · exact Value.hasText_ofText? n.webhookUrl
    · exact hurl
  unfold send
  dsimp only
  rw [Value.display, Value.written_of_hasText hshown]
  split
  next hdry => exact (honours_of_dry (c := webhook c) hdry (.sent hnow name n .dryRun)).record
  next hwet =>
      have hwet : (webhook c).basics.dryRun.truthy = false := Bool.eq_false_iff.mpr hwet
      split
      next hdisabled =>
          refine honours_of_refused hwet (fun h => ?_) (.refused hnow name n _)
          simp [(attempts_iff.mp h).2.1] at hdisabled
      next henabled =>
          split
          next hnowhere =>
              refine honours_of_refused hwet (fun h => ?_) (Reports.refused hnow name n _).record
              simp [(attempts_iff.mp h).2.2.1] at hnowhere
          next hsomewhere =>
              have htries : (webhook c).Tries clock n (c.post (c.resolveUrl n) n) :=
                post_tries hwet (by simpa using henabled) (by simpa using hsomewhere) hheaders
              exact honours_of_tries hwet htries
                (fun status => (Reports.sent hnow name n (.status status)).record)
                (fun fault => .reportRequest hnow name n _ _ fault)

end Webhook

/-! ### The mail -/

namespace Markup

/-- A reference by a number that has too many digits is not read. -/
theorem unescape_overlong {ds : List Char} (hds : ∀ c ∈ ds, c.isDigit)
    (hlong : Numeral.digitLimit < ds.length) :
    unescape (String.ofList ('&' :: '#' :: (ds ++ [';']))) = .error (.tooManyDigits ds.length) := by
  have hspan : Numeral.spanDigits Text.asciiDigit? (ds ++ [';']) =
      (ds.map fun c => c.toNat - 48, [';']) :=
    Numeral.spanDigits_append hds fun _ hc => by cases hc; rfl
  have hread : readDecimal? (ds ++ [';']) = some (.error (.tooManyDigits ds.length)) := by
    unfold readDecimal?
    rw [hspan]
    cases ds with
    | nil => cases hlong
    | cons d ds => simp [List.length_cons ▸ hlong]
  rw [unescape, String.toList_ofList, unescapeChars]
  simp [readReference?, hread]

end Markup

namespace Email

open Channel

variable {clock : Clock} {now : Moment} {n : Notification} {c : Email} {names : List String}

theorem textItems_map (names : List String) : (Value.list (names.map .text)).textItems = names := by
  induction names with
  | nil => rfl
  | cons first rest ih => simp [Value.textItems]

theorem mapM_texts {f : Value → Except Fault String} (hf : ∀ s, f (.text s) = .ok s)
    (names : List String) : (names.map .text).mapM f = .ok names := by
  induction names with
  | nil => rfl
  | cons first rest ih =>
      rw [List.map_cons, List.mapM_cons, hf, ih]
      rfl

theorem addressLine_map (names : List String) :
    addressLine (names.map .text) = .ok (Value.joined ", " names) := by
  unfold addressLine
  rw [mapM_texts fun _ => rfl]
  rfl

/-- The recipients are texts, those of the notification if it has any. -/
theorem resolveRecipients_eq {configured : List String}
    (h : c.recipients = .list (configured.map .text)) (n : Notification) :
    ∃ names : List String, c.resolveRecipients n = .ok (names.map .text) ∧
      (email c).target n = .list (names.map .text) := by
  unfold resolveRecipients
  show ∃ names : List String, _ ∧ (Value.list (n.recipients.map .text)).orElse c.recipients = _
  cases hgiven : n.recipients with
  | nil => exact ⟨configured, by simp [h, Value.parts?], h⟩
  | cons first rest => exact ⟨first :: rest, rfl, rfl⟩

theorem attempts_iff (h : (email c).target n = .list (names.map .text)) :
    (email c).Attempts n ↔ c.basics.dryRun.truthy = false ∧ c.basics.enabled.truthy = true ∧
      names ≠ [] ∧ ∃ letter, (format n >>= sendable) = .ok letter := by
  have hempty : (Value.list (names.map .text)).truthy = true ↔ names ≠ [] := by
    simp [Value.truthy]
  rw [← hempty, ← h]
  exact Iff.rfl

/-- A mail is not attempted if the message of the notification cannot be read. -/
theorem not_attempts_of_unescape {fault : Fault}
    (h : Markup.unescape n.message = .error fault) : ¬ (email c).Attempts n := by
  rintro ⟨-, -, -, letter, hletter⟩
  rw [format, h] at hletter
  cases hletter

theorem follows_plan (t : Transport) (c : Email) (m : Mail) :
    Wire.Follows t (c.plan m) (do
      if c.useTls.truthy then Wire.secure
      if c.user.truthy && c.password.truthy then Wire.login c.user c.password
      Wire.mail m) := by
  unfold plan
  split
  · refine Wire.follows_secure.bind fun _ => ?_
    split
    · exact (Wire.follows_login _ _).bind fun _ => Wire.follows_mail m
    · exact Wire.follows_mail m
  · split
    · exact (Wire.follows_login _ _).bind fun _ => Wire.follows_mail m
    · exact Wire.follows_mail m

theorem opens_plan {m : Mail} {contact : Contact} (h : contact ∈ c.plan m) :
    contact.opens = false := by
  unfold plan at h
  grind [Contact.opens]

theorem countP_session (t : Transport) (c : Email) (m : Mail) (host portNumber timeout : Value) :
    (Contact.connect host portNumber timeout ::
      if t.passes (.connect host portNumber timeout) then t.made (c.plan m) ++ [.quit]
      else []).countP Contact.opens = 1 := by
  have hinside : (t.made (c.plan m)).countP Contact.opens = 0 := by
    rw [List.countP_eq_zero]
    intro contact hmem
    rw [opens_plan (Transport.mem_of_made hmem)]
    exact Bool.false_ne_true
  rw [List.countP_cons_of_pos rfl]
  split
  · rw [List.countP_append, hinside]
    rfl
  · rfl

theorem inspect_texts (names : List String) :
    (Value.list (names.map .text)).inspect = .ok (Value.list (names.map .text)).inspectText := by
  refine Value.written_of_hasText (Value.hasText_list.mpr fun v hv => ?_)
  obtain ⟨s, -, rfl⟩ := List.mem_map.mp hv
  rfl

theorem deliver_tries (hwet : c.basics.dryRun.truthy = false)
    (henabled : c.basics.enabled.truthy = true) (hnames : names ≠ [])
    (htarget : (email c).target n = .list (names.map .text)) :
    (email c).Tries clock n (c.deliver (names.map .text) n) := by
  intro w _
  unfold deliver
  refine Ends.bind_ofExcept (fun letter hletter => ?_) fun fault hfault => ?_
  · have hattempts : (email c).Attempts n :=
      (attempts_iff htarget).mpr ⟨hwet, henabled, hnames, letter, hletter⟩
    have hmail : c.mailOf n letter = ⟨letter.subject, c.sender, Value.joined ", " names,
        letter.plain, letter.html⟩ := by
      simp [mailOf, htarget, textItems_map]
    have haddresses : (Action.ofExcept (addressLine (names.map .text)) : Action Wire String) =
        pure (Value.joined ", " names) := by
      rw [addressLine_map]
      rfl
    rw [haddresses, pure_bind, inspect_texts]
    refine Ends.bind (Wire.session_ends (follows_plan w.transport c _) _ _ _ rfl) ?_ ?_
    · rintro _ w' ⟨rfl, hok⟩
      refine Ends.bind_record (Ends.pure ⟨_, rfl, fun hnot => absurd hattempts hnot,
        fun _ => ⟨⟨letter, hletter, hmail ▸ rfl⟩, countP_session _ _ _ _ _ _⟩, ?_⟩)
      exact iff_of_true rfl ⟨hattempts, letter, hletter, hmail ▸ hok.mp rfl⟩
    · rintro fault w' ⟨rfl, hok⟩
      refine ⟨_, rfl, fun hnot => absurd hattempts hnot,
        fun _ => ⟨⟨letter, hletter, hmail ▸ rfl⟩, countP_session _ _ _ _ _ _⟩, ?_⟩
      refine iff_of_false nofun ?_
      rintro ⟨-, _, hother, hcompletes⟩
      cases hletter.symm.trans hother
      exact nomatch hok.mpr (hmail ▸ hcompletes)
  · have hnot : ¬ (email c).Attempts n := by
      intro h
      obtain ⟨letter, hletter⟩ := ((attempts_iff htarget).mp h).2.2.2
      rw [hfault] at hletter
      cases hletter
    exact ⟨[], w.extend_nil.symm, fun _ => rfl, fun h => absurd h hnot, by simp [hnot]⟩

theorem send_honours (hnow : clock.now = .ok now)
    (hrecipients : ∃ names : List String, c.recipients = .list (names.map .text)) :
    (email c).Honours clock n (c.send clock n) := by
  obtain ⟨configured, hconfigured⟩ := hrecipients
  obtain ⟨names, hnames, htarget⟩ := resolveRecipients_eq hconfigured n
  have hstart : (Action.ofExcept (c.resolveRecipients n) : Action Wire (List Value)) =
      pure (names.map .text) := by
    rw [hnames]
    rfl
  unfold send
  rw [hstart, pure_bind, inspect_texts]
  split
  next hdry => exact (honours_of_dry (c := email c) hdry (.sent hnow name n .dryRun)).record
  next hwet =>
      have hwet : (email c).basics.dryRun.truthy = false := Bool.eq_false_iff.mpr hwet
      split
      next hdisabled =>
          refine honours_of_refused hwet (fun h => ?_) (.refused hnow name n _)
          simp [((attempts_iff htarget).mp h).2.1] at hdisabled
      next henabled =>
          split
          next hnobody =>
              refine honours_of_refused hwet (fun h => ?_) (Reports.refused hnow name n _).record
              simp [((attempts_iff htarget).mp h).2.2.1] at hnobody
          next hsomebody =>
              have htries : (email c).Tries clock n (c.deliver (names.map .text) n) :=
                deliver_tries hwet (by simpa using henabled) (by simpa using hsomebody) htarget
              exact honours_of_tries hwet htries
                (fun _ => Reports.sent hnow name n (.recipients (names.map .text)))
                (fun fault => (Reports.refused hnow name n fault.message).record)

end Email

/-! ### Every channel -/

namespace Channel

variable {clock : Clock} {now : Moment}

/-- Settings of a channel that have the shape of those a configuration makes. They need
not have all the fields, or no others. -/
structure IsShaped (own : Object) : Prop where
  url : ∀ v, own.get? "url" = some v → v.hasText = true
  method : ∀ v, own.get? "method" = some v → ∃ s, v = .text s
  headers : ∀ v, own.get? "headers" = some v → ∃ fields, v = .object fields
  recipients : ∀ v, own.get? "to_emails" = some v →
    ∃ names : List String, v = .list (names.map .text)

theorem shaped_of_channelSettings {configuration : Configuration} {env : Environment}
    {settings : Object} (h : configuration.channelSettings env = .ok settings) {name : String}
    (hname : name ∈ names) : ∃ own, settings.get? name = some (.object own) ∧ IsShaped own := by
  obtain ⟨portNumber, -, h⟩ := exists_of_bind_eq_ok h
  cases h
  obtain rfl | rfl | rfl : name = Slack.name ∨ name = Email.name ∨ name = Webhook.name := by
    simpa [names] using hname
  · refine ⟨_, rfl, ?_, ?_, ?_, ?_⟩ <;> simp [Object.get?, List.lookup_cons]
  · refine ⟨_, rfl, ?_, ?_, ?_, ?_⟩ <;> simp [Object.get?, List.lookup_cons]
  · refine ⟨_, rfl, ?_, ?_, ?_, ?_⟩ <;> simp [Object.get?, List.lookup_cons, Value.hasText_ofText?]

theorem setting_of {own : Object} {key : String} {default : Value} {P : Value → Prop}
    (h : ∀ v, own.get? key = some v → P v) (hdefault : P default) :
    P (setting own key default) := by
  unfold setting
  cases hgiven : own.get? key with
  | none => exact hdefault
  | some v => exact h v hgiven

theorem honours_of_build {own : Object} (hown : IsShaped own) (hnow : clock.now = .ok now)
    (n : Notification) {name : String} (hname : name ∈ names) :
    ∃ c, build? name own = .ok (some c) ∧ c.name = name ∧ c.basics = .ofSettings own ∧
      c.Honours clock n (c.send clock n) := by
  obtain rfl | rfl | rfl : name = Slack.name ∨ name = Email.name ∨ name = Webhook.name := by
    simpa [names] using hname
  · exact ⟨_, rfl, rfl, rfl, Slack.send_honours hnow (.ofSettings own)⟩
  · have hrecipients := setting_of hown.recipients ⟨[], rfl⟩
    exact ⟨_, rfl, rfl, rfl, Email.send_honours hnow (c := .ofSettings own) hrecipients⟩
  · obtain ⟨method, hmethod⟩ := setting_of hown.method ⟨"POST", rfl⟩
    obtain ⟨c, hbuilt, hbasics, hc, hc'⟩ : ∃ c, Webhook.ofSettings own = .ok c ∧
        c.basics = .ofSettings own ∧ c.headers = setting own "headers" (.object []) ∧
        c.url = setting own "url" .null := by
      unfold Webhook.ofSettings
      rw [hmethod]
      exact ⟨_, rfl, rfl, rfl, rfl⟩
    have hheaders := setting_of hown.headers ⟨[], rfl⟩
    have hurl : (setting own "url" .null).hasText = true := setting_of hown.url rfl
    rw [← hc] at hheaders
    rw [← hc'] at hurl
    refine ⟨.webhook c, ?_, rfl, hbasics, Webhook.send_honours hnow hheaders hurl⟩
    show (some ∘ Channel.webhook) <$> Webhook.ofSettings own = _
    rw [hbuilt]
    rfl

/-- A channel that has settings of the shape in which a configuration makes them never
fails to send, whatever the servers and the libraries do, which fail a request for its status
exactly if this is an error: it reports what became of the notification, truthfully. -/
theorem send_truthful (hnow : clock.now = .ok now) (n : Notification) :
    (∀ (configuration : Configuration) (env : Environment) (settings : Object),
      configuration.channelSettings env = .ok settings →
      ∀ name ∈ names, ∃ own, settings.get? name = some (.object own) ∧ IsShaped own) ∧
    ∀ name ∈ names, ∀ own, IsShaped own →
      ∃ c, build? name own = .ok (some c) ∧ c.name = name ∧ c.basics = .ofSettings own ∧
        ∀ w : Wire, w.transport.RaisesForStatus → (c.send clock n).Ends w fun outcome w' =>
          ∃ d made, outcome = .ok d ∧ w' = w.extend made ∧
            c.Truthful clock n w.transport d made :=
  ⟨fun _ _ _ h _ hname => shaped_of_channelSettings h hname,
    fun _ hname _ hown => honours_of_build hown hnow n hname⟩

/-- What is told of an order to a recipient and at an address of its own. -/
def orderNote (message : String) : Notification where
  alertId := some "alert-1"
  ruleId := "rule-1"
  organizationId := "org-1"
  moduleName := some "kitchen"
  title := "Late order"
  message
  severity := .warning
  fingerprint := "rule-1"
  recipients := ["cook@example.com"]
  webhookUrl := some "https://example.com/orders"
  link := none
  metadata := []
  triggeredAt := ⟨2026, 3, 4, 5, 6, 7, 0, some 0⟩

/-- Servers of which the web server answers with a status, and to which nothing else
happens. -/
def answering (status : Int) : Transport where
  request _ := .ok status
  checkStatus status :=
    if 400 ≤ status ∧ status < 600 then .error (.service .http "refused") else .ok ()
  connect _ _ _ := .ok ()
  secure := .ok ()
  login _ _ := .ok ()
  send _ := .ok ()
  quit := .ok ()

theorem raisesForStatus_answering (status : Int) : (answering status).RaisesForStatus := by
  intro other
  unfold answering
  dsimp only
  split
  next herror => exact iff_of_false nofun fun h => h herror
  next hfine => exact iff_of_true rfl hfine

/-- A server that is out of order gets the one request, at the address of the order. -/
theorem send_truthful_outage :
    let own : Object := [("url", .text "https://example.com/all"), ("method", .text "put")]
    let w : Wire := { transport := answering 500 }
    (∃ now, Clock.now {} = .ok now) ∧ w.transport.RaisesForStatus ∧ IsShaped own ∧
      ∃ c, build? "webhook" own = .ok (some c) ∧
        (c.send {} (orderNote "Order 7 is late")).Ends w fun outcome w' =>
          ∃ d r, outcome = .ok d ∧ d.success = false ∧ d.error ≠ none ∧
            w'.contacts = [.request r] ∧ r.method = "PUT" ∧
            r.url = .text "https://example.com/orders" ∧
            r.payload = .object (Webhook.format (orderNote "Order 7 is late")) := by
  intro own w
  obtain ⟨now, hnow⟩ := exists_of_toOption (x := Clock.now {}) (by decide +kernel)
  have hown : IsShaped own := by
    refine ⟨?_, ?_, ?_, ?_⟩ <;> simp [own, Object.get?, List.lookup_cons, Value.hasText]
  have hstatus : w.transport.RaisesForStatus := raisesForStatus_answering 500
  obtain ⟨-, hall⟩ := send_truthful hnow (orderNote "Order 7 is late")
  obtain ⟨c, hbuilt, -, -, hsend⟩ := hall "webhook" (by decide) own hown
  refine ⟨⟨now, hnow⟩, hstatus, hown, c, hbuilt, (hsend w hstatus).mono ?_⟩
  rintro outcome w' ⟨d, made, rfl, rfl, htruthful⟩
  cases hbuilt
  have hupper : Text.upper "put" = "PUT" := by decide +kernel
  rw [hupper] at htruthful
  have hfailed : ¬ d.success = true := by
    rw [htruthful.success]
    rintro (hdry | ⟨-, _, -, _, hanswered, hfine⟩)
    · exact absurd hdry (by decide)
    · cases hanswered
      exact hfine ⟨by decide, by decide⟩
  obtain ⟨⟨configured, -, rfl⟩, -⟩ := htruthful.attempt <| Webhook.attempts_iff.mpr
    ⟨by decide, by decide, by decide, by decide⟩
  exact ⟨d, _, rfl, Bool.eq_false_iff.mpr hfailed, fun herror =>
    hfailed (htruthful.error.mp herror), rfl, rfl, rfl, rfl⟩

/-- A message that nobody can read: one reference, by a number of 4301 digits. -/
def unreadable : String := String.ofList ('&' :: '#' :: (List.replicate 4301 '1' ++ [';']))

theorem unescape_unreadable : Markup.unescape unreadable = .error (.tooManyDigits 4301) := by
  have hlong : Numeral.digitLimit < (List.replicate 4301 '1').length := by
    rw [List.length_replicate]
    decide
  have hdigits : ∀ c ∈ List.replicate 4301 '1', c.isDigit := by
    intro c hc
    rw [List.eq_of_mem_replicate hc]
    rfl
  calc
    Markup.unescape unreadable = .error (.tooManyDigits (List.replicate 4301 '1').length) :=
      Markup.unescape_overlong hdigits hlong
    _ = .error (.tooManyDigits 4301) := by rw [List.length_replicate]

/-- An order whose place is a number of 4301 digits, which has no text. -/
def overlongNote : Notification :=
  { orderNote "Order 7 is late" with metadata := [("entity_id", .int (10 ^ Numeral.digitLimit))] }

/-- The chat does not post to the address of the order, takes an answer with a status that no
standard knows for a success, and does not post at all what it cannot show; and no server hears
of an order whose mail cannot be written. -/
theorem order_kept_back :
    let chat : Channel := slack (.ofSettings [("enabled", .bool true), ("dry_run", .bool false),
      ("webhook_url", .text "https://example.com/chat")])
    let mail : Channel := email (.ofSettings [("enabled", .bool true), ("dry_run", .bool false),
      ("to_emails", .list [])])
    ((chat.send {} (orderNote "Order 7 is late")).Ends { transport := answering 600 }
      fun outcome w' => (∃ d, outcome = .ok d ∧ d.success = true) ∧
        ∃ r, w'.contacts = [.request r] ∧ r.url = .text "https://example.com/chat") ∧
    ((chat.send {} overlongNote).Ends { transport := answering 200 }
      fun outcome w' => w'.contacts = [] ∧ ∃ d, outcome = .ok d ∧ d.success = false) ∧
    ((mail.send {} (orderNote unreadable)).Ends { transport := answering 200 }
      fun outcome w' => w'.contacts = [] ∧ ∃ d, outcome = .ok d ∧ d.success = false) := by
  intro chat mail
  obtain ⟨now, hnow⟩ := exists_of_toOption (x := Clock.now {}) (by decide +kernel)
  refine ⟨?posted, ?unshown, ?unwritten⟩
  case posted =>
    refine (Slack.send_honours hnow _ _ (raisesForStatus_answering 600)).mono ?_
    rintro outcome w' ⟨d, made, rfl, rfl, htruthful⟩
    have hattempts : chat.Attempts (orderNote "Order 7 is late") :=
      Slack.attempts_iff.mpr ⟨by decide, by decide, by decide, by decide⟩
    obtain ⟨⟨message, hmessage, rfl⟩, -⟩ := htruthful.attempt hattempts
    refine ⟨⟨d, rfl, htruthful.success.mpr (.inr ⟨hattempts, message, hmessage, 600, rfl, ?_⟩)⟩,
      _, rfl, rfl⟩
    decide
  case unshown =>
    refine (Slack.send_honours hnow _ _ (raisesForStatus_answering 200)).mono ?_
    rintro outcome w' ⟨d, made, rfl, rfl, htruthful⟩
    have hnot : ¬ chat.Attempts overlongNote := fun h => by
      have htext : (Value.int (10 ^ Numeral.digitLimit)).hasText = false :=
        Value.not_hasText_of_le (Value.le_natAbs_pow _)
      cases htext.symm.trans (Slack.attempts_iff.mp h).2.2.2
    refine ⟨htruthful.silent hnot, d, rfl, Bool.eq_false_iff.mpr fun hsuccess => ?_⟩
    rcases htruthful.success.mp hsuccess with hdry | ⟨hattempts, -⟩
    · exact absurd hdry (by decide)
    · exact hnot hattempts
  case unwritten =>
    refine (Email.send_honours hnow ⟨[], rfl⟩ _ (raisesForStatus_answering 200)).mono ?_
    rintro outcome w' ⟨d, made, rfl, rfl, htruthful⟩
    have hnot : ¬ mail.Attempts (orderNote unreadable) :=
      Email.not_attempts_of_unescape unescape_unreadable
    refine ⟨htruthful.silent hnot, d, rfl, Bool.eq_false_iff.mpr fun hsuccess => ?_⟩
    rcases htruthful.success.mp hsuccess with hdry | ⟨hattempts, -⟩
    · exact absurd hdry (by decide)
    · exact hnot hattempts

end Channel

end AlertRules
