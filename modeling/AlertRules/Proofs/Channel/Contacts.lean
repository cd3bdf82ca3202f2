import AlertRules.Channel.Wire
import AlertRules.Proofs.Action

/-!
The contacts that an action makes over the wire.

What an action wants of the servers is a plan: contacts, one after the other.
The transport decides how much of a plan gets made, which is all up to the first
contact that fails (`Transport.made`). An action follows a plan if it makes just
those contacts of it and succeeds if all of them pass (`Wire.Follows`); one action
after the other follows both plans one after the other. A session makes its first
contact before the plan of what is done in it, and one more after it, whether the
plan came to its end or not.
-/

namespace AlertRules

open AlertRules.Action

@[simp] theorem isOk_ok {ε α : Type} (a : α) : (Except.ok a : Except ε α).isOk = true := rfl

@[simp] theorem isOk_error {ε α : Type} (e : ε) : (Except.error e : Except ε α).isOk = false := rfl

/-- Whether a contact is the first that is made with a server. -/
def Contact.opens : Contact → Bool
  | .request _ | .connect .. => true
  | .secure | .login .. | .mail _ | .quit => false

abbrev Plan := List Contact

namespace Transport

/-- What comes of a contact. A request fails also if the status of its answer says so. -/
def answer (t : Transport) : Contact → Except Fault Unit
  | .request r => do t.checkStatus (← t.request r)
  | .connect host portNumber timeout => t.connect host portNumber timeout
  | .secure => t.secure
  | .login user password => t.login user password
  | .mail m => t.send m
  | .quit => t.quit

def passes (t : Transport) (contact : Contact) : Bool := (t.answer contact).isOk

/-- The contacts of a plan that are made: no more after the first that fails. -/
def made (t : Transport) : Plan → List Contact
  | [] => []
  | contact :: rest => contact :: if t.passes contact then made t rest else []

def passesAll (t : Transport) (plan : Plan) : Bool := plan.all t.passes

variable {t : Transport}

@[simp] theorem passesAll_nil : t.passesAll [] = true := rfl

@[simp] theorem passesAll_cons (contact : Contact) (rest : Plan) :
    t.passesAll (contact :: rest) = (t.passes contact && t.passesAll rest) := rfl

@[simp] theorem made_single (contact : Contact) : t.made [contact] = [contact] := by
  simp [made]

theorem made_append (xs ys : Plan) :
    t.made (xs ++ ys) = t.made xs ++ if t.passesAll xs then t.made ys else [] := by
  induction xs with
  | nil => simp [made]
  | cons contact xs ih =>
      cases hpasses : t.passes contact with
      | false => simp [made, hpasses]
      | true => simp [made, hpasses, ih]

theorem passesAll_append (xs ys : Plan) :
    t.passesAll (xs ++ ys) = (t.passesAll xs && t.passesAll ys) :=
  List.all_append

theorem mem_of_made {plan : Plan} {contact : Contact} (h : contact ∈ t.made plan) :
    contact ∈ plan := by
  induction plan with
  | nil => cases h
  | cons first plan ih =>
      rw [made] at h
      rcases List.mem_cons.mp h with rfl | hrest
      · exact List.mem_cons_self
      · split at hrest
        · exact List.mem_cons_of_mem _ (ih hrest)
        · cases hrest

/-- The status of an answer says that the request failed if it is one of the client errors
or of the server errors, and no other status does. -/
def RaisesForStatus (t : Transport) : Prop :=
  ∀ status, (t.checkStatus status).isOk = true ↔ ¬(400 ≤ status ∧ status < 600)

/-- Whether a request is answered, with a status that tells of no failure. -/
def Accepts (t : Transport) (r : WebRequest) : Prop :=
  ∃ status, t.request r = .ok status ∧ ¬(400 ≤ status ∧ status < 600)

theorem passes_request (h : t.RaisesForStatus) (r : WebRequest) :
    t.passes (.request r) = true ↔ t.Accepts r := by
  have hpasses : t.passes (.request r) = (t.request r >>= t.checkStatus).isOk := rfl
  rw [hpasses]
  constructor
  · intro hok
    cases hstatus : t.request r with
    | error fault =>
        rw [hstatus] at hok
        cases hok
    | ok status =>
        rw [hstatus] at hok
        exact ⟨status, hstatus, (h status).mp hok⟩
  · rintro ⟨status, hstatus, hfine⟩
    rw [hstatus]
    exact (h status).mpr hfine

end Transport

namespace Wire

def extend (w : Wire) (made : List Contact) : Wire := { w with contacts := w.contacts ++ made }

@[simp] theorem transport_extend (w : Wire) (made : List Contact) :
    (w.extend made).transport = w.transport := rfl

@[simp] theorem extend_nil (w : Wire) : w.extend [] = w := by simp [extend]

@[simp] theorem extend_extend (w : Wire) (xs ys : List Contact) :
    (w.extend xs).extend ys = w.extend (xs ++ ys) := by
  simp [extend]

/-! ### Following a plan -/

variable {α β : Type} {t : Transport} {plan : Plan}

/-- The action makes the contacts of a plan as far as the servers let them pass; it
succeeds exactly if they let all of them pass. -/
def Follows (t : Transport) (plan : Plan) (a : Action Wire α) : Prop :=
  ∀ w : Wire, w.transport = t → a.Ends w fun outcome w' =>
    w' = w.extend (t.made plan) ∧ (outcome.isOk = true ↔ t.passesAll plan = true)

theorem call_ends (contact : Contact) (outcome : Transport → Except Fault α) (w : Wire) :
    (call contact outcome).Ends w fun result w' =>
      result = outcome w.transport ∧ w' = w.extend [contact] :=
  Ends.bind_modify (Ends.bind_get (Ends.ofExcept ⟨rfl, rfl⟩))

theorem Follows.step {contact : Contact} {outcome : Transport → Except Fault α}
    (h : (outcome t).isOk = t.passes contact) : Follows t [contact] (call contact outcome) := by
  rintro w rfl
  refine (call_ends contact outcome w).mono ?_
  rintro _ _ ⟨rfl, rfl⟩
  simp [h]

theorem Follows.bind {xs ys : Plan} {a : Action Wire α} {f : α → Action Wire β}
    (ha : Follows t xs a) (hf : ∀ x, Follows t ys (f x)) : Follows t (xs ++ ys) (a >>= f) := by
  intro w hw
  refine Ends.bind (ha w hw) ?_ ?_
  · rintro x w' ⟨rfl, hok⟩
    have hpasses : t.passesAll xs = true := hok.mp rfl
    refine (hf x (w.extend (t.made xs)) hw).mono ?_
    rintro outcome w'' ⟨rfl, hok'⟩
    simp [Transport.made_append, Transport.passesAll_append, hpasses, hok']
  · rintro fault w' ⟨rfl, hok⟩
    have hpasses : t.passesAll xs = false := Bool.eq_false_iff.mpr fun hall => nomatch hok.mpr hall
    simp [Transport.made_append, Transport.passesAll_append, hpasses]

theorem follows_secure : Follows t [.secure] secure := .step rfl

theorem follows_login (user password : Value) :
    Follows t [.login user password] (login user password) := .step rfl

theorem follows_mail (m : Mail) : Follows t [.mail m] (mail m) := .step rfl

theorem follows_request (r : WebRequest) : Follows t [.request r] (request r) := by
  rintro w rfl
  have hpasses : w.transport.passes (.request r) =
      (w.transport.request r >>= w.transport.checkStatus).isOk := rfl
  refine Ends.bind (call_ends (.request r) (·.request r) w) ?_ ?_
  · rintro status w' ⟨hstatus, rfl⟩
    rw [← hstatus] at hpasses
    refine Ends.bind_get (Ends.bind_ofExcept ?_ ?_)
    · intro _ hchecked
      refine Ends.pure ⟨by simp, ?_⟩
      rw [Transport.passesAll_cons, hpasses]
      exact iff_of_true rfl (by simpa [bind, Except.bind] using congrArg Except.isOk hchecked)
    · intro fault hchecked
      refine ⟨by simp, ?_⟩
      rw [Transport.passesAll_cons, hpasses]
      exact iff_of_false nofun (by simpa [bind, Except.bind] using congrArg Except.isOk hchecked)
  · rintro fault w' ⟨hfault, rfl⟩
    rw [← hfault] at hpasses
    refine ⟨by simp, ?_⟩
    rw [Transport.passesAll_cons, hpasses]
    exact iff_of_false nofun nofun

theorem session_ends {inside : Action Wire Unit} (h : Follows t plan inside)
    (host portNumber timeout : Value) {w : Wire} (hw : w.transport = t) :
    (session host portNumber timeout inside).Ends w fun outcome w' =>
      w' = w.extend (.connect host portNumber timeout ::
        if t.passes (.connect host portNumber timeout) then t.made plan ++ [.quit] else []) ∧
      (outcome.isOk = true ↔ t.passes (.connect host portNumber timeout) = true ∧
        t.passesAll plan = true ∧ t.passes .quit = true) := by
  unfold session
  have hconnect : Follows t [.connect host portNumber timeout]
      (call (.connect host portNumber timeout) (·.connect host portNumber timeout)) := .step rfl
  have hquit : Follows t [.quit] (call .quit (·.quit)) := .step rfl
  refine Ends.bind (hconnect w hw) ?_ ?_
  · rintro _ w' ⟨rfl, hok⟩
    have hpasses : t.passes (.connect host portNumber timeout) = true := by simpa using hok
    refine Ends.bind_attempt (h (w.extend _) hw) ?_
    rintro outcome w' ⟨rfl, hinside⟩
    refine Ends.bind (hquit _ hw) ?_ ?_
    · rintro _ w' ⟨rfl, hleft⟩
      refine Ends.ofExcept ⟨by simp [hpasses], ?_⟩
      have hleft : t.passes .quit = true := by simpa using hleft
      simp [hpasses, hinside, hleft]
    · rintro fault w' ⟨rfl, hleft⟩
      have hleft : t.passes .quit = false := by simpa using hleft
      simp [hpasses, hleft]
  · rintro fault w' ⟨rfl, hok⟩
    have hpasses : t.passes (.connect host portNumber timeout) = false := by simpa using hok
    simp [hpasses]

end Wire

end AlertRules
