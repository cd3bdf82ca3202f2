import AlertRules.Proofs.Action
import AlertRules.Proofs.Number.Written
import AlertRules.Stream.Delivery

/-!
What a delivery acknowledges, and what it hands out.

A delivery takes the messages of its batches one by one and acknowledges some
of them on the way. It ends early at the first message that cannot be read or
whose acknowledgement is refused, and then it hands out nothing, whatever it has
acknowledged before (`Broker.Takes`). What is acknowledged is therefore handed
out, unless it is malformed, exactly if the delivery comes to its end or has
acknowledged nothing but malformed messages (`Broker.delivery_safe_iff`).
-/

namespace AlertRules

open AlertRules.Action

/-! ### Numbers that are too long -/

namespace Json

/-- A whole number that is too long to be read, and nothing after it. -/
theorem readNumber_tooManyDigits {c : Char} {cs : List Char} {whole : List Nat} (hsign : c ≠ '-')
    (hwhole : readWhole? (c :: cs) = some (whole, [])) (hlong : Numeral.digitLimit < whole.length) :
    readNumber (c :: cs) = .error (.digits whole.length) := by
  unfold readNumber
  split
  next negative unsigned hunsigned =>
    split at hunsigned
    next hcs =>
      cases hcs
      exact absurd rfl hsign
    next =>
      cases hunsigned
      simp only [hwhole]
      exact (if_pos ⟨rfl, rfl⟩).trans (if_pos hlong)

/-- A text of nothing but too many digits is refused for its length. -/
theorem read_tooManyDigits {ds : List Char} (hds : ∀ c ∈ ds, c.isDigit)
    (hlong : Numeral.digitLimit ≤ ds.length) :
    read (String.ofList ('1' :: ds)) = .error (.tooManyDigits (ds.length + 1)) := by
  have hdigits : ∀ c ∈ '1' :: ds, c.isDigit := List.forall_mem_cons.mpr ⟨rfl, hds⟩
  have hwhole : readWhole? ('1' :: ds) = some (('1' :: ds).map fun c => c.toNat - 48, []) := by
    unfold readWhole?
    split
    next h => cases h
    next =>
      rw [Numeral.spanDigits_all hdigits]
      rfl
  have hnumber : readNumber ('1' :: ds) = .error (.digits (ds.length + 1)) := by
    rw [readNumber_tooManyDigits (by decide) hwhole (by simpa using Nat.lt_succ_of_le hlong)]
    simp
  have hall : readAll ('1' :: ds) = .error (.digits (ds.length + 1)) := by
    show ((readNumber ('1' :: ds)) >>= _) = _
    rw [hnumber]
    rfl
  rw [read, String.toList_ofList, hall]
  rfl

end Json

/-! ### Parcels -/

structure Parcel where
  source : String
  message : Message

/-- The messages of some batches, in the order in which they are read out. -/
def Batch.parcels (batches : List Batch) : List Parcel :=
  batches.flatMap fun batch => batch.messages.map fun m => ⟨batch.stream, m⟩

namespace Parcel

def content (p : Parcel) : Except Fault Event := Event.ofMessage p.source p.message

def isMalformed (p : Parcel) : Bool :=
  match p.content with
  | .ok _ => false
  | .error fault => fault.isMalformed

/-- Whether it can be told what the parcel is: an event, or malformed. -/
def isReadable (p : Parcel) : Bool := p.content.toOption.isSome || p.isMalformed

def isAcknowledged (auto : Bool) (p : Parcel) : Bool := p.isMalformed || (auto && p.isReadable)

def acknowledgement (w : Worker) (stream : String) (p : Parcel) : BrokerCall :=
  .acknowledge stream w.group p.message.id

theorem not_isMalformed_of_content {p : Parcel} {event : Event} (h : p.content = .ok event) :
    p.isMalformed = false := by
  rw [isMalformed, h]

theorem isReadable_of_content {p : Parcel} {event : Event} (h : p.content = .ok event) :
    p.isReadable = true := by
  rw [isReadable, h]
  rfl

/-- A parcel that can be read carries an event unless it is malformed. -/
theorem exists_content {p : Parcel} (h : p.isReadable = true) (hwell : p.isMalformed = false) :
    ∃ event, p.content = .ok event := by
  rw [isReadable, hwell, Bool.or_false] at h
  cases hcontent : p.content with
  | ok event => exact ⟨event, rfl⟩
  | error fault =>
      rw [hcontent] at h
      cases h

/-- A number that is too long to be read is not malformed, and it is no event either. -/
theorem content_tooManyDigits {ds : List Char} (hds : ∀ c ∈ ds, c.isDigit)
    (hlong : Numeral.digitLimit ≤ ds.length) (source id : String) :
    (⟨source, id, some [("data", .text (String.ofList ('1' :: ds)))]⟩ : Parcel).content =
      .error (.json (.tooManyDigits (ds.length + 1))) := by
  have hempty : (String.ofList ('1' :: ds)).isEmpty = false := by
    rw [Bool.eq_false_iff, ne_eq, String.isEmpty_iff]
    intro h
    have hchars := congrArg String.toList h
    rw [String.toList_ofList] at hchars
    cases hchars
  have hpart : Event.readPart (.text (String.ofList ('1' :: ds))) =
      .error (.json (.tooManyDigits (ds.length + 1))) := by
    rw [Event.readPart, Value.orElse, Value.truthy, hempty]
    show (Json.read _).mapError _ = _
    rw [Json.read_tooManyDigits hds hlong]
    rfl
  have hdata : Object.getOrNull [("data", .text (String.ofList ('1' :: ds)))] "data" =
      .text (String.ofList ('1' :: ds)) := rfl
  show (Event.readPart _ >>= _) = _
  rw [hdata, hpart]
  rfl

end Parcel

/-! ### Answers to acknowledgements -/

namespace Broker

/-- An acknowledgement is refused that is asked for after so many others. -/
def Refused (answers : List (Option Fault)) (n : Nat) : Prop :=
  ∃ fault, answers[n]? = some (some fault)

/-- The acknowledgements among some requests that are granted. -/
def granted : List (Option Fault) → List BrokerCall → List BrokerCall
  | _, [] => []
  | answers, .acknowledge stream group id :: calls =>
    match answers.head? with
    | some (some _) => granted answers.tail calls
    | _ => .acknowledge stream group id :: granted answers.tail calls
  | answers, _ :: calls => granted answers calls

theorem refused_tail {answers : List (Option Fault)} {n : Nat} :
    Refused answers.tail n ↔ Refused answers (n + 1) := by
  rw [Refused, Refused, List.getElem?_tail]

theorem refused_zero {answers : List (Option Fault)} :
    Refused answers 0 ↔ ∃ fault, answers.head? = some (some fault) := by
  rw [Refused, List.head?_eq_getElem?]

variable {w : Worker} {stream : String} {auto : Bool}

theorem granted_refused {answers : List (Option Fault)} (h : Refused answers 0) (p : Parcel) :
    granted answers [p.acknowledgement w stream] = [] := by
  obtain ⟨fault, h⟩ := refused_zero.mp h
  rw [Parcel.acknowledgement, granted, h]
  rfl

theorem granted_cons {answers : List (Option Fault)} (h : ¬Refused answers 0) (p : Parcel)
    (calls : List BrokerCall) :
    granted answers (p.acknowledgement w stream :: calls) =
      p.acknowledgement w stream :: granted answers.tail calls := by
  rw [Parcel.acknowledgement, granted]
  split
  next fault hfault => exact absurd (refused_zero.mpr ⟨fault, hfault⟩) h
  next => rfl

/-- The broker has answered an acknowledgement. -/
def asked (b : Broker) (call : BrokerCall) : Broker :=
  { b with calls := b.calls ++ [call], acknowledgeFaults := b.acknowledgeFaults.tail }

theorem acknowledge_answers (stream group id : String) (b : Broker) :
    (acknowledge stream group id).Ends b fun outcome b' =>
      b' = b.asked (.acknowledge stream group id) ∧
        (Refused b.acknowledgeFaults 0 → ∃ fault, outcome = .error fault) ∧
        (¬Refused b.acknowledgeFaults 0 → outcome = .ok ()) := by
  refine .bind_modify (.bind_get (.bind_set ?_))
  rw [refused_zero]
  unfold obey
  split
  next fault hfault =>
      exact .throw ⟨rfl, fun _ => ⟨fault, rfl⟩, fun h => absurd ⟨fault, hfault⟩ h⟩
  next hgranted =>
      exact .pure ⟨rfl, fun ⟨fault, hfault⟩ => absurd hfault (hgranted fault), fun _ => rfl⟩

/-! ### Taking parcels -/

def takeParcels (w : Worker) (stream : String) (auto : Bool) :
    List Parcel → Action Broker (List Event)
  | [] => pure []
  | p :: rest => do
    let event ← takeMessage w stream auto p.source p.message
    let events ← takeParcels w stream auto rest
    pure (event.toList ++ events)

theorem takeMessages_eq (source : String) (messages : List Message) :
    takeMessages w stream auto source messages =
      takeParcels w stream auto (messages.map fun m => ⟨source, m⟩) := by
  induction messages with
  | nil => rfl
  | cons m rest ih =>
      simp only [takeMessages, takeParcels, List.map_cons]
      rw [ih]

theorem takeParcels_append (ps qs : List Parcel) :
    takeParcels w stream auto (ps ++ qs) = (do
      let events ← takeParcels w stream auto ps
      let more ← takeParcels w stream auto qs
      pure (events ++ more)) := by
  induction ps with
  | nil => simp only [takeParcels, List.nil_append, pure_bind, bind_pure]
  | cons p rest ih =>
      simp only [List.cons_append, takeParcels, ih, bind_assoc, pure_bind, List.append_assoc]

theorem takeBatches_eq (batches : List Batch) :
    takeBatches w stream auto batches = takeParcels w stream auto (Batch.parcels batches) := by
  induction batches with
  | nil => rfl
  | cons batch rest ih =>
      rw [Batch.parcels, List.flatMap_cons, ← Batch.parcels, takeParcels_append, ← ih,
        ← takeMessages_eq]
      rfl

theorem takeMessage_unreadable {p : Parcel} (h : p.isReadable = false) (b : Broker) :
    (takeMessage w stream auto p.source p.message).Ends b fun outcome b' =>
      (∃ fault, outcome = .error fault) ∧ b' = b := by
  unfold takeMessage
  rw [← Parcel.content]
  cases hcontent : p.content with
  | ok event => rw [Parcel.isReadable_of_content hcontent] at h; cases h
  | error fault =>
      have hmalformed : fault.isMalformed = false := by
        rw [Parcel.isReadable, Parcel.isMalformed, hcontent] at h
        exact h
      simp only [hmalformed, Bool.false_eq_true, if_false]
      exact .throw ⟨⟨fault, rfl⟩, rfl⟩

theorem takeMessage_unacknowledged {p : Parcel} (h : p.isReadable = true)
    (hack : p.isAcknowledged auto = false) (b : Broker) :
    (takeMessage w stream auto p.source p.message).Ends b fun outcome b' =>
      outcome = .ok p.content.toOption ∧ b' = b := by
  simp only [Parcel.isAcknowledged, h, Bool.and_true, Bool.or_eq_false_iff] at hack
  obtain ⟨event, hevent⟩ := Parcel.exists_content h hack.1
  unfold takeMessage
  rw [← Parcel.content, hevent, hack.2]
  exact .pure ⟨rfl, rfl⟩

/-- A parcel that is acknowledged is taken unless that is refused. -/
theorem takeMessage_acknowledged {p : Parcel} (hack : p.isAcknowledged auto = true) (b : Broker) :
    (takeMessage w stream auto p.source p.message).Ends b fun outcome b' =>
      b' = b.asked (p.acknowledgement w stream) ∧
        (Refused b.acknowledgeFaults 0 → ∃ fault, outcome = .error fault) ∧
        (¬Refused b.acknowledgeFaults 0 → outcome = .ok p.content.toOption) := by
  have hanswer := acknowledge_answers stream w.group p.message.id b
  unfold takeMessage
  rw [← Parcel.content]
  cases hcontent : p.content with
  | ok event =>
      have hauto : auto = true := by
        rw [Parcel.isAcknowledged, Parcel.not_isMalformed_of_content hcontent] at hack
        exact (Bool.and_eq_true_iff.mp hack).1
      subst hauto
      refine .bind hanswer ?_ fun fault b' h => ⟨h.1, fun _ => ⟨fault, rfl⟩, fun hnot => ?_⟩
      · exact fun _ b' h => .pure ⟨h.1, fun hrefused => absurd (h.2.1 hrefused) nofun, fun _ => rfl⟩
      · exact absurd (h.2.2 hnot) nofun
  | error fault =>
      have hmalformed : fault.isMalformed = true := by
        rw [Parcel.isAcknowledged, Parcel.isReadable, Parcel.isMalformed, hcontent] at hack
        exact (Bool.or_eq_true_iff.mp hack).elim id fun h => (Bool.and_eq_true_iff.mp h).2
      simp only [hmalformed, if_true]
      refine .bind_record (.bind hanswer ?_ fun fault b' h =>
        ⟨h.1, fun _ => ⟨fault, rfl⟩, fun hnot => ?_⟩)
      · exact fun _ b' h => .pure ⟨h.1, fun hrefused => absurd (h.2.1 hrefused) nofun, fun _ => rfl⟩
      · exact absurd (h.2.2 hnot) nofun

/-- How far a delivery came: which parcels were taken, and which were not. Of those
that were taken all acknowledgements were granted, and no other one was. -/
structure Takes (w : Worker) (stream : String) (auto : Bool) (answers : List (Option Fault))
    (calls : List BrokerCall) (taken left : List Parcel) : Prop where
  readable : ∀ p ∈ taken, p.isReadable = true
  accepted : ∀ n < taken.countP (·.isAcknowledged auto), ¬Refused answers n
  granted : granted answers calls =
    (taken.filter (·.isAcknowledged auto)).map (·.acknowledgement w stream)
  stopped : ∀ p ∈ left.head?, p.isReadable = false ∨
    (p.isAcknowledged auto = true ∧ Refused answers (taken.countP (·.isAcknowledged auto)))

variable {answers : List (Option Fault)} {calls : List BrokerCall} {taken left : List Parcel}
  {p : Parcel}

theorem Takes.nil (h : ∀ p ∈ left.head?, p.isReadable = false) :
    Takes w stream auto answers [] [] left :=
  ⟨List.forall_mem_nil _, fun _ hn => absurd hn (Nat.not_lt_zero _), by simp [Broker.granted],
    fun p hp => .inl (h p hp)⟩

theorem Takes.refused (hack : p.isAcknowledged auto = true) (h : Refused answers 0) :
    Takes w stream auto answers [p.acknowledgement w stream] [] (p :: left) where
  readable := List.forall_mem_nil _
  accepted _ hn := absurd hn (Nat.not_lt_zero _)
  granted := granted_refused h p
  stopped := by
    rintro _ ⟨⟩
    exact .inr ⟨hack, h⟩

theorem Takes.cons (hread : p.isReadable = true) (hack : p.isAcknowledged auto = false)
    (h : Takes w stream auto answers calls taken left) :
    Takes w stream auto answers calls (p :: taken) left where
  readable := List.forall_mem_cons.mpr ⟨hread, h.readable⟩
  accepted := by simpa [hack] using h.accepted
  granted := by simpa [hack] using h.granted
  stopped := by simpa [hack] using h.stopped

theorem Takes.cons_acknowledged (hread : p.isReadable = true) (hack : p.isAcknowledged auto = true)
    (hgranted : ¬Refused answers 0)
    (h : Takes w stream auto answers.tail calls taken left) :
    Takes w stream auto answers (p.acknowledgement w stream :: calls) (p :: taken) left where
  readable := List.forall_mem_cons.mpr ⟨hread, h.readable⟩
  accepted n hn := by
    rw [List.countP_cons_of_pos hack] at hn
    cases n with
    | zero => exact hgranted
    | succ n => exact fun hn' => h.accepted n (Nat.lt_of_succ_lt_succ hn) (refused_tail.mpr hn')
  granted := by
    rw [granted_cons hgranted, h.granted, List.filter_cons_of_pos hack, List.map_cons]
  stopped q hq := by
    rw [List.countP_cons_of_pos hack]
    exact (h.stopped q hq).imp_right fun hq => ⟨hq.1, refused_tail.mp hq.2⟩

/-- A delivery takes parcels up to the first that it stops at, and fails if there is
one: induction on the parcels. -/
theorem takeParcels_ends (parcels : List Parcel) (b : Broker) :
    (takeParcels w stream auto parcels).Ends b fun outcome b' =>
      ∃ taken left calls, parcels = taken ++ left ∧ b'.calls = b.calls ++ calls ∧
        Takes w stream auto b.acknowledgeFaults calls taken left ∧
        (left = [] → outcome = .ok (taken.filterMap (·.content.toOption))) ∧
        (left ≠ [] → ∃ fault, outcome = .error fault) := by
  induction parcels generalizing b with
  | nil =>
      exact .pure ⟨[], [], [], rfl, (List.append_nil _).symm, .nil (by simp), fun _ => rfl,
        fun h => absurd rfl h⟩
  | cons p rest ih =>
      -- what follows a parcel that was taken, from a broker that was asked to acknowledge it or not
      have hnext : ∀ (b' : Broker) (first : List BrokerCall),
          b'.calls = b.calls ++ first →
          (∀ calls taken left, Takes w stream auto b'.acknowledgeFaults calls taken left →
            Takes w stream auto b.acknowledgeFaults (first ++ calls) (p :: taken) left) →
          (do
            let events ← takeParcels w stream auto rest
            pure (p.content.toOption.toList ++ events) : Action Broker (List Event)).Ends b'
            fun outcome b'' => ∃ taken left calls, p :: rest = taken ++ left ∧
              b''.calls = b.calls ++ calls ∧
              Takes w stream auto b.acknowledgeFaults calls taken left ∧
              (left = [] → outcome = .ok (taken.filterMap (·.content.toOption))) ∧
              (left ≠ [] → ∃ fault, outcome = .error fault) := by
        intro b' first hfirst htakes
        refine .bind (ih b') ?_ ?_
        · rintro events b'' ⟨taken, left, calls, rfl, hcalls, h, hdone, hstopped⟩
          refine .pure ⟨p :: taken, left, first ++ calls, rfl, ?_, htakes _ _ _ h,
            fun hleft => ?_, fun hleft => absurd (hstopped hleft) nofun⟩
          · rw [hcalls, hfirst, List.append_assoc]
          · rw [Except.ok.inj (hdone hleft), List.filterMap_cons]
            cases p.content.toOption <;> rfl
        · rintro fault b'' ⟨taken, left, calls, rfl, hcalls, h, hdone, hstopped⟩
          refine ⟨p :: taken, left, first ++ calls, rfl, ?_, htakes _ _ _ h,
            fun hleft => absurd (hdone hleft) nofun, fun _ => ⟨fault, rfl⟩⟩
          rw [hcalls, hfirst, List.append_assoc]
      cases hread : p.isReadable with
      | false =>
          refine .bind (takeMessage_unreadable hread b) ?_ ?_
          · rintro _ _ ⟨⟨_, ⟨⟩⟩, -⟩
          · rintro fault _ ⟨-, rfl⟩
            exact ⟨[], p :: rest, [], rfl, (List.append_nil _).symm,
              .nil (by simpa using hread), nofun, fun _ => ⟨fault, rfl⟩⟩
      | true =>
          cases hack : p.isAcknowledged auto with
          | false =>
              refine .bind_eq (takeMessage_unacknowledged hread hack b) ?_
              exact hnext b [] (List.append_nil _).symm fun _ _ _ h => h.cons hread hack
          | true =>
              by_cases hrefused : Refused b.acknowledgeFaults 0
              · refine .bind (takeMessage_acknowledged hack b) ?_ ?_
                · exact fun _ _ h => absurd (h.2.1 hrefused) nofun
                · rintro fault _ ⟨rfl, -⟩
                  exact ⟨[], p :: rest, _, rfl, rfl, .refused hack hrefused, nofun,
                    fun _ => ⟨fault, rfl⟩⟩
              · refine .bind_eq ((takeMessage_acknowledged hack b).mono fun _ _ h =>
                  ⟨h.2.2 hrefused, h.1⟩) ?_
                exact hnext _ [p.acknowledgement w stream] rfl fun _ _ _ h =>
                  h.cons_acknowledged hread hack hrefused

/-! ### Deliveries -/

/-- The broker has some batches to read out: there is a group or it makes one, and it
does not fail. -/
structure Offers (b : Broker) (batches : List Batch) : Prop where
  group : ∀ fault, b.groupFaults.head? = some (some fault) → isGroupExists fault = true
  reads : b.reads.head? = some (.ok batches)

variable {b : Broker} {batches : List Batch}

theorem ensureGroup_ends (h : b.Offers batches) (stream group : String) :
    (ensureGroup stream group).Ends b fun outcome b' => outcome = .ok () ∧
      b'.calls = b.calls ++ [.createGroup stream group] ∧ b'.reads = b.reads ∧
      b'.acknowledgeFaults = b.acknowledgeFaults := by
  have hcreate : (createGroup stream group).Ends b fun outcome b' =>
      (∀ fault, outcome = .error fault → isGroupExists fault = true) ∧
        b'.calls = b.calls ++ [.createGroup stream group] ∧ b'.reads = b.reads ∧
        b'.acknowledgeFaults = b.acknowledgeFaults := by
    refine .bind_modify (.bind_get (.bind_set ?_))
    unfold obey
    split
    next fault hfault => exact .throw ⟨by rintro _ ⟨⟩; exact h.group fault hfault, rfl, rfl, rfl⟩
    next => exact .pure ⟨nofun, rfl, rfl, rfl⟩
  refine .bind_attempt hcreate fun outcome b' hb' => ?_
  cases outcome with
  | ok => exact .pure ⟨rfl, hb'.2⟩
  | error fault =>
      dsimp only
      rw [hb'.1 fault rfl]
      exact .pure ⟨rfl, hb'.2⟩

theorem read_ends (h : b.reads.head? = some (.ok batches)) (group worker stream : String)
    (count block : Value) :
    (read group worker stream count block).Ends b fun outcome b' =>
      outcome = .ok (some batches) ∧
        b'.calls = b.calls ++ [.read group worker stream count block] ∧
        b'.acknowledgeFaults = b.acknowledgeFaults := by
  refine .bind_modify (.bind_get (.bind_set ?_))
  dsimp only
  cases hreads : b.reads with
  | nil => rw [hreads] at h; cases h
  | cons reply rest =>
      rw [hreads] at h
      cases h
      exact fun _ => ⟨rfl, rfl, rfl⟩

/-- A delivery hands out what it took if it took everything, and nothing otherwise. -/
theorem receive_ends (w : Worker) (stream : String) (intake : Intake) (h : b.Offers batches) :
    (receive w stream intake).Ends b fun outcome b' =>
      ∃ taken left, Batch.parcels batches = taken ++ left ∧
        Takes w stream intake.autoAcknowledge b.acknowledgeFaults
          (b'.calls.drop b.calls.length) taken left ∧
        outcome = .ok (some
          (if left = [] then taken.filterMap (·.content.toOption) else [])) := by
  have hall : (receiveAll w stream intake).Ends b fun outcome b' =>
      ∃ taken left, Batch.parcels batches = taken ++ left ∧
        Takes w stream intake.autoAcknowledge b.acknowledgeFaults
          (b'.calls.drop b.calls.length) taken left ∧
        (left = [] → outcome = .ok (some (taken.filterMap (·.content.toOption)))) ∧
        (left ≠ [] → ∃ fault, outcome = .error fault) := by
    refine .bind_ok (ensureGroup_ends h stream w.group) fun b₁ hb₁ => ?_
    obtain ⟨hcalls₁, hreads₁, hanswers₁⟩ := hb₁
    refine .bind_ok (read_ends (hreads₁ ▸ h.reads) _ _ _ _ _) fun b₂ hb₂ => ?_
    obtain ⟨hcalls₂, hanswers₂⟩ := hb₂
    dsimp only
    rw [takeBatches_eq]
    refine .map ((takeParcels_ends (Batch.parcels batches) b₂).mono ?_)
    rintro outcome b' ⟨taken, left, calls, hparcels, hcalls, htakes, hdone, hstopped⟩
    refine ⟨taken, left, hparcels, ?_, fun hleft => by rw [hdone hleft]; rfl, fun hleft => ?_⟩
    · rw [hcalls, hcalls₂, hcalls₁, List.append_assoc, List.append_assoc, List.drop_left,
        ← hanswers₁, ← hanswers₂]
      exact ⟨htakes.readable, htakes.accepted, htakes.granted, htakes.stopped⟩
    · obtain ⟨fault, rfl⟩ := hstopped hleft
      exact ⟨fault, rfl⟩
  refine .bind_attempt hall ?_
  rintro outcome b' ⟨taken, left, hparcels, htakes, hdone, hstopped⟩
  by_cases hleft : left = []
  · rw [hdone hleft]
    exact .pure ⟨taken, left, hparcels, htakes, by rw [if_pos hleft]⟩
  · obtain ⟨fault, rfl⟩ := hstopped hleft
    exact .bind_record (.pure ⟨taken, left, hparcels, htakes, by rw [if_neg hleft]⟩)

/-- Of parcels that can all be read, the events are what those carry that are not
malformed. -/
theorem events_of_readable {parcels : List Parcel} (h : ∀ p ∈ parcels, p.isReadable = true) :
    (parcels.filterMap (·.content.toOption)).map Except.ok =
      (parcels.filter (!·.isMalformed)).map Parcel.content := by
  induction parcels with
  | nil => rfl
  | cons p rest ih =>
      obtain ⟨hp, hrest⟩ := List.forall_mem_cons.mp h
      rw [List.filterMap_cons]
      cases hmalformed : p.isMalformed with
      | false =>
          obtain ⟨event, hevent⟩ := Parcel.exists_content hp hmalformed
          rw [List.filter_cons_of_pos (by simp [hmalformed]), hevent, List.map_cons, hevent]
          exact congrArg _ (ih hrest)
      | true =>
          rw [List.filter_cons_of_neg (by simp [hmalformed]), ← ih hrest]
          cases hcontent : p.content with
          | ok event =>
              rw [Parcel.not_isMalformed_of_content hcontent] at hmalformed
              cases hmalformed
          | error fault => rfl

/-- Without a refusal, a delivery ends early only at what cannot be read. -/
theorem Takes.left_eq_nil (h : Takes w stream auto answers calls taken left)
    (hanswers : ∀ n < (taken ++ left).countP (·.isAcknowledged auto), ¬Refused answers n)
    (hread : ∀ p ∈ left, p.isReadable = true) : left = [] := by
  cases left with
  | nil => rfl
  | cons p rest =>
      rcases h.stopped p rfl with hp | ⟨hack, hrefused⟩
      · rw [hread p List.mem_cons_self] at hp
        cases hp
      · refine absurd hrefused (hanswers _ ?_)
        rw [List.countP_append, List.countP_cons_of_pos hack]
        omega

/-- What a delivery acknowledges is malformed or handed out, exactly unless it ends
early after it has acknowledged an event; where events are not acknowledged when
they are received, nothing but malformed messages is. As long as no acknowledgement
is refused, what is handed out are the messages that are not malformed, exactly if
every message can be read. -/
theorem delivery_safe_iff (w : Worker) (stream : String) (intake : Intake) {b : Broker}
    {batches : List Batch} (h : b.Offers batches) (log : Log) :
    let auto := intake.autoAcknowledge
    let parcels := Batch.parcels batches
    let ending := (receive w stream intake).runFrom b log
    ∃ taken left events, parcels = taken ++ left ∧ ending.outcome = .ok (some events) ∧
      Takes w stream auto b.acknowledgeFaults (ending.state.calls.drop b.calls.length) taken left ∧
      ((∀ p ∈ taken, p.isAcknowledged auto →
          p.isMalformed ∨ ∃ event ∈ events, p.content = .ok event) ↔
        left = [] ∨ auto = false ∨ ∀ p ∈ taken, p.isMalformed) ∧
      (auto = false → ∀ p ∈ taken, p.isAcknowledged auto → p.isMalformed) ∧
      ((∀ n < parcels.countP (·.isAcknowledged auto), ¬Refused b.acknowledgeFaults n) →
        (events.map Except.ok = (parcels.filter (!·.isMalformed)).map Parcel.content ↔
          ∀ p ∈ parcels, p.isReadable)) := by
  intro auto parcels ending
  obtain ⟨taken, left, hparcels, htakes, houtcome⟩ := receive_ends w stream intake h log
  change parcels = taken ++ left at hparcels
  have hmalformed : auto = false → ∀ p ∈ taken, p.isAcknowledged auto → p.isMalformed := by
    intro hauto p _ hack
    simpa [Parcel.isAcknowledged, hauto] using hack
  refine ⟨taken, left, _, hparcels, houtcome, htakes, ⟨fun hsafe => ?_, ?_⟩, hmalformed,
    fun hanswers => ⟨fun hevents p hp => ?_, fun hread => ?_⟩⟩
  · by_cases hleft : left = []
    · exact .inl hleft
    · cases hauto : auto with
      | false => exact .inr (.inl rfl)
      | true =>
          -- nothing is handed out, so nothing but malformed messages was acknowledged
          refine .inr (.inr fun p hp => ?_)
          have hack : p.isAcknowledged auto = true := by
            simp [Parcel.isAcknowledged, hauto, htakes.readable p hp]
          rcases hsafe p hp hack with hp | ⟨event, hevent, -⟩
          · exact hp
          · rw [if_neg hleft] at hevent
            cases hevent
  · rintro (hleft | hauto | hall) p hp hack
    · cases hwell : p.isMalformed with
      | true => exact .inl rfl
      | false =>
          obtain ⟨event, hevent⟩ := Parcel.exists_content (htakes.readable p hp) hwell
          refine .inr ⟨event, ?_, hevent⟩
          rw [if_pos hleft]
          exact List.mem_filterMap.mpr ⟨p, hp, by rw [hevent]; rfl⟩
    · exact .inl (hmalformed hauto p hp hack)
    · exact .inl (hall p hp)
  · cases hwell : p.isMalformed with
    | true => rw [Parcel.isReadable, hwell, Bool.or_true]
    | false =>
        have hmem : p.content ∈ (parcels.filter (!·.isMalformed)).map Parcel.content :=
          List.mem_map_of_mem (List.mem_filter.mpr ⟨hp, by simp [hwell]⟩)
        rw [← hevents] at hmem
        obtain ⟨event, -, hevent⟩ := List.mem_map.mp hmem
        exact Parcel.isReadable_of_content hevent.symm
  · have hleft : left = [] := htakes.left_eq_nil (hparcels ▸ hanswers) fun p hp =>
      hread p (hparcels ▸ List.mem_append_right taken hp)
    rw [if_pos hleft, hparcels, hleft, List.append_nil]
    exact events_of_readable htakes.readable

/-- A delivery that acknowledges what it takes loses an event if it stops at the next
message. -/
theorem receive_loses {w : Worker} {stream : String} {intake : Intake} {b : Broker}
    {batches : List Batch} (h : b.Offers batches) (hauto : intake.autoAcknowledge = true)
    {p q : Parcel} {rest : List Parcel} (hparcels : Batch.parcels batches = p :: q :: rest)
    {event : Event} (hp : p.content = .ok event) (hgranted : ¬Refused b.acknowledgeFaults 0)
    (hq : q.isReadable = false ∨ (q.isAcknowledged true = true ∧ Refused b.acknowledgeFaults 1)) :
    (receive w stream intake).Ends b fun outcome b' => outcome = .ok (some []) ∧
      granted b.acknowledgeFaults (b'.calls.drop b.calls.length) =
        [p.acknowledgement w stream] := by
  refine (receive_ends w stream intake h).mono ?_
  rintro outcome b' ⟨taken, left, htaken, htakes, rfl⟩
  rw [hparcels] at htaken
  rw [hauto] at htakes
  have hread : p.isReadable = true := Parcel.isReadable_of_content hp
  have hack : p.isAcknowledged true = true := by simp [Parcel.isAcknowledged, hread]
  rcases taken with - | ⟨p', - | ⟨q', taken⟩⟩
  · obtain rfl : p :: q :: rest = left := htaken
    rcases htakes.stopped p rfl with hnot | ⟨-, hrefused⟩
    · rw [hread] at hnot
      cases hnot
    · exact absurd hrefused hgranted
  · cases htaken
    refine ⟨rfl, ?_⟩
    rw [htakes.granted]
    simp [hack]
  · cases htaken
    rcases hq with hq | ⟨hack', hrefused⟩
    · rw [htakes.readable q (by simp)] at hq
      cases hq
    · exact absurd hrefused (htakes.accepted 1 (by simp [hack, hack']))

def orders (first second : String) : List Batch :=
  [⟨"orders", [⟨"1-0", some [("data", .text first)]⟩, ⟨"2-0", some [("data", .text second)]⟩]⟩]

/-- Of two orders the second is malformed: both are acknowledged, and the first is handed
out. -/
theorem delivery_safe_iff_orders :
    let b : Broker := { reads := [.ok (orders "\x7b\x7d" "\x7b")] }
    let ending := (receive ⟨"engine", "worker-1"⟩ "orders" {}).runFrom b []
    ∃ event, ending.outcome = .ok (some [event]) ∧
      granted b.acknowledgeFaults ending.state.calls =
        [.acknowledge "orders" "engine" "1-0", .acknowledge "orders" "engine" "2-0"] := by
  intro b ending
  have hoffers : b.Offers (orders "\x7b\x7d" "\x7b") := {
    group := fun _ h => by cases h
    reads := rfl }
  have hread : ∀ p ∈ Batch.parcels (orders "\x7b\x7d" "\x7b"), p.isReadable := by decide +kernel
  have hanswers : ∀ n, ¬Refused b.acknowledgeFaults n := by rintro n ⟨_, h⟩; cases h
  obtain ⟨taken, left, events, hparcels, houtcome, htakes, -, -, hevents⟩ :=
    delivery_safe_iff ⟨"engine", "worker-1"⟩ "orders" {} hoffers []
  have hleft : left = [] := htakes.left_eq_nil (fun n _ => hanswers n) fun p hp =>
    hread p (hparcels ▸ List.mem_append_right taken hp)
  rw [hleft, List.append_nil] at hparcels
  have hgranted := htakes.granted
  rw [← hparcels] at hgranted
  -- the messages that are not malformed are one
  have hone := congrArg List.length ((hevents fun n _ => hanswers n).mpr hread)
  rw [List.length_map] at hone
  obtain ⟨event, rfl⟩ := List.length_eq_one_iff.mp (hone.trans (by decide +kernel))
  exact ⟨event, houtcome, hgranted⟩

/-- A delivery of two orders acknowledges the first one and hands out nothing. -/
def LosesFirst (second : String) (answers : List (Option Fault)) : Prop :=
  let b : Broker :=
    { reads := [.ok (orders "\x7b\x7d" second)], acknowledgeFaults := answers }
  let ending := (receive ⟨"engine", "worker-1"⟩ "orders" {}).runFrom b []
  ending.outcome = .ok (some []) ∧
    granted answers ending.state.calls = [.acknowledge "orders" "engine" "1-0"]

theorem losesFirst {second : String} {answers : List (Option Fault)}
    (hanswers : ¬Refused answers 0)
    (hsecond : let q : Parcel := ⟨"orders", "2-0", some [("data", .text second)]⟩
      q.isReadable = false ∨ (q.isAcknowledged true = true ∧ Refused answers 1)) :
    LosesFirst second answers := by
  let b : Broker :=
    { reads := [.ok (orders "\x7b\x7d" second)], acknowledgeFaults := answers }
  have hoffers : b.Offers (orders "\x7b\x7d" second) := {
    group := fun _ h => by cases h
    reads := rfl }
  obtain ⟨event, hfirst⟩ : ∃ event,
      (⟨"orders", "1-0", some [("data", .text "\x7b\x7d")]⟩ : Parcel).content = .ok event :=
    ⟨_, rfl⟩
  exact receive_loses hoffers rfl rfl hfirst hanswers hsecond []

/-- An event is acknowledged and lost: the message after it holds a number that is too
long to be read, which is not malformed, or the acknowledgement of that message is
refused. -/
theorem acknowledged_event_lost :
    LosesFirst (String.ofList ('1' :: List.replicate 4300 '1')) [] ∧
      LosesFirst "\x7b\x7d" [none, some (.service .stream "connection reset")] := by
  have hones : ∀ c ∈ List.replicate 4300 '1', c.isDigit := fun _ hc =>
    List.eq_of_mem_replicate hc ▸ rfl
  have hlength : (List.replicate 4300 '1').length = 4300 := List.length_replicate
  have hlong := Parcel.content_tooManyDigits hones (Nat.le_of_eq hlength.symm) "orders" "2-0"
  refine ⟨losesFirst ?_ (.inl ?_), losesFirst ?_ (.inr ⟨rfl, _, rfl⟩)⟩
  · rintro ⟨_, ⟨⟩⟩
  · rw [Parcel.isReadable, Parcel.isMalformed, hlong]
    rfl
  · rintro ⟨_, ⟨⟩⟩

end Broker

end AlertRules
