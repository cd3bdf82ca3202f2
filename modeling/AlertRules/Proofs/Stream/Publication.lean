import AlertRules.Proofs.Json.Reading
import AlertRules.Proofs.Stream.Delivery
import AlertRules.Proofs.Value.Shown

/-!
What is published is what is received.

Publishing writes the payload and the context of an announcement as JSON texts, and receiving
reads them again. Both are documents, so what is read is what was written
(`Json.read_write`), but for one thing: the undefined number has one name in all documents, so
that one which was computed comes back as the one that documents name. No message that was
published is malformed, and a delivery that comes to its end hands out its event in its place
(`received_as_published`).
-/

namespace AlertRules

open AlertRules.Action

namespace Announcement

variable {a : Announcement} {clock : Clock} {now : Moment} {fields : Object}

/-! ### Messages -/

/-- A message can be made of an announcement: the clock shows a moment, and neither the
payload nor the context nests too deep. -/
def IsWritable (a : Announcement) (clock : Clock) : Prop :=
  (∃ now, clock.now = .ok now) ∧ Json.nesting a.data ≤ Json.depthLimit ∧
    Json.nesting a.contextOrEmpty ≤ Json.depthLimit

theorem writePart_eq_ok {v : Value} (hv : v.IsDocument) (part : Value) :
    writePart v = .ok part ↔
      Json.nesting v ≤ Json.depthLimit ∧ part = .text (Json.spacedText v) := by
  unfold writePart
  rw [Json.spaced, Value.written_of_hasText hv.hasText]
  split
  next h => simp [h, eq_comm]
  next h => simp [h]

theorem isDocument_contextOrEmpty (h : a.context.IsDocument) : a.contextOrEmpty.IsDocument := by
  unfold contextOrEmpty Value.orElse
  split
  · exact h
  · exact ⟨List.nodup_nil, trivial⟩

theorem fields_eq_ok (hdata : a.data.IsDocument) (hcontext : a.context.IsDocument) :
    a.fields now = .ok fields ↔ Json.nesting a.data ≤ Json.depthLimit ∧
      Json.nesting a.contextOrEmpty ≤ Json.depthLimit ∧
      fields = [("event_type", .text a.kind), ("timestamp", .text now.isoText),
        ("data", .text (Json.spacedText a.data)),
        ("context", .text (Json.spacedText a.contextOrEmpty))] := by
  have hwritten := writePart_eq_ok hdata
  have hwritten' := writePart_eq_ok (isDocument_contextOrEmpty hcontext)
  constructor
  · intro h
    obtain ⟨data, hdata, h⟩ := exists_of_bind_eq_ok h
    obtain ⟨context, hcontext, h⟩ := exists_of_bind_eq_ok h
    obtain ⟨hdeep, rfl⟩ := (hwritten _).mp hdata
    obtain ⟨hdeep', rfl⟩ := (hwritten' _).mp hcontext
    exact ⟨hdeep, hdeep', (Except.ok.inj h).symm⟩
  · rintro ⟨hdeep, hdeep', rfl⟩
    rw [fields, (hwritten _).mpr ⟨hdeep, rfl⟩, (hwritten' _).mpr ⟨hdeep', rfl⟩]
    rfl

theorem isNamed_contextOrEmpty (h : a.context.IsNamed) : a.contextOrEmpty.IsNamed := by
  unfold contextOrEmpty Value.orElse
  split
  · exact h
  · trivial

end Announcement

namespace Event

theorem readPart_spaced {v : Value} (h : v.IsDocument)
    (hnesting : Json.nesting v ≤ Json.depthLimit) :
    readPart (.text (Json.spacedText v)) = .ok v.named := by
  have htruthy : (Value.text (Json.spacedText v)).truthy = true := by
    obtain ⟨c, cs, hcs, -⟩ := Json.write_begins .spaced v
    rw [Value.truthy, Bool.not_eq_true', Bool.eq_false_iff, ne_eq, String.isEmpty_iff]
    intro hempty
    rw [Json.spacedText] at hempty
    rw [hempty] at hcs
    cases hcs
  rw [readPart, Value.orElse, if_pos htruthy]
  show (Json.read _).mapError _ = _
  rw [Json.spacedText, Json.read_write Json.Layout.spaced_isReadable h hnesting]
  rfl

/-- An event as it was announced: its type, its payload and its context, which is empty where
none was given. -/
structure Tells (event : Event) (a : Announcement) : Prop where
  kind : event.kind = .text a.kind
  data : event.data = a.data.named
  context : event.context = a.contextOrEmpty.named
  same_data : a.data.IsNamed → event.data = a.data
  same_context : a.context.IsNamed → event.context = a.contextOrEmpty

variable {a : Announcement} {now : Moment} {fields : Object}

/-- A message that was made of an announcement carries an event that tells of it. -/
theorem ofFields_tells (hdata : a.data.IsDocument) (hcontext : a.context.IsDocument)
    (h : a.fields now = .ok fields) (stream id : String) :
    ∃ event, ofFields stream id fields = .ok event ∧ event.Tells a := by
  obtain ⟨hdeep, hdeep', rfl⟩ := (Announcement.fields_eq_ok hdata hcontext).mp h
  have hreads := readPart_spaced hdata hdeep
  have hreads' := readPart_spaced (Announcement.isDocument_contextOrEmpty hcontext) hdeep'
  refine ⟨⟨id, stream, .text a.kind, .text now.isoText, a.data.named, a.contextOrEmpty.named⟩, ?_,
    rfl, rfl, rfl, Value.named_eq_self _, fun hnamed =>
      Value.named_eq_self _ (Announcement.isNamed_contextOrEmpty hnamed)⟩
  show (readPart (.text (Json.spacedText a.data)) >>= _) = _
  rw [hreads]
  show (readPart (.text (Json.spacedText a.contextOrEmpty)) >>= _) = _
  rw [hreads']
  rfl

end Event

def Parcel.events (parcels : List Parcel) : List Event := parcels.filterMap (·.content.toOption)

theorem Parcel.events_append_cons {p : Parcel} {event : Event} (hp : p.content = .ok event)
    (earlier later : List Parcel) :
    events (earlier ++ p :: later) = events earlier ++ event :: events later := by
  rw [events, List.filterMap_append, List.filterMap_cons, hp]
  rfl

namespace Broker

/-! ### Publishing -/

theorem append_ends (stream : String) (fields : Object) (b : Broker) :
    (append stream fields).Ends b fun _ b' => b'.calls = b.calls ++ [.append stream fields] :=
  .bind_modify (.bind_get (.bind_set (.ofExcept rfl)))

/-- A message is handed over if one can be made; otherwise publishing fails and the broker is
not asked for anything. -/
theorem publish_ends (clock : Clock) (stream : String) {a : Announcement}
    (hdata : a.data.IsDocument) (hcontext : a.context.IsDocument) (b : Broker) :
    (publish clock stream a).Ends b fun outcome b' =>
      (¬a.IsWritable clock ∧ b' = b ∧ ∃ fault, outcome = .error fault) ∨
      (a.IsWritable clock ∧ ∃ now fields, a.fields now = .ok fields ∧
        b'.calls = b.calls ++ [.append stream fields]) := by
  have hrequest : (do
      let now ← Action.ofExcept clock.now
      append stream (← Action.ofExcept (a.fields now)) : Action Broker String).Ends b
      fun outcome b' => (¬a.IsWritable clock ∧ b' = b ∧ ∃ fault, outcome = .error fault) ∨
        (a.IsWritable clock ∧ ∃ now fields, a.fields now = .ok fields ∧
          b'.calls = b.calls ++ [.append stream fields]) := by
    refine .bind_ofExcept (fun now hnow => .bind_ofExcept (fun fields hfields => ?_) ?_) ?_
    · obtain ⟨hdeep, hdeep', -⟩ := (Announcement.fields_eq_ok hdata hcontext).mp hfields
      exact (append_ends stream fields b).mono fun _ _ hcalls =>
        .inr ⟨⟨⟨now, hnow⟩, hdeep, hdeep'⟩, now, fields, hfields, hcalls⟩
    · intro fault hfault
      refine .inl ⟨fun hwritable => ?_, rfl, fault, rfl⟩
      rw [(Announcement.fields_eq_ok hdata hcontext).mpr ⟨hwritable.2.1, hwritable.2.2, rfl⟩]
        at hfault
      cases hfault
    · intro fault hfault
      refine .inl ⟨fun hwritable => ?_, rfl, fault, rfl⟩
      obtain ⟨now, hnow⟩ := hwritable.1
      rw [hnow] at hfault
      cases hfault
  refine .bind_attempt hrequest fun outcome b' hb' => ?_
  cases outcome with
  | ok id => exact .bind_record (.pure (hb'.imp_left fun h => absurd h.2.2 nofun))
  | error fault => exact .bind_record (.throw (hb'.imp_left fun h => ⟨h.1, h.2.1, fault, rfl⟩))

/-! ### Receiving -/

/-- A delivery that is not stopped hands out the event of a parcel in its place. -/
theorem receive_hands_out (w : Worker) (stream : String) (intake : Intake) {b : Broker}
    {batches : List Batch} (h : b.Offers batches) {earlier later : List Parcel} {p : Parcel}
    {event : Event} (hparcels : Batch.parcels batches = earlier ++ p :: later)
    (hp : p.content = .ok event) :
    (receive w stream intake).Ends b fun outcome _ => ∃ events, outcome = .ok (some events) ∧
      (events = [] ∨ events = Parcel.events earlier ++ event :: Parcel.events later) ∧
      ((∀ q ∈ earlier ++ later, q.isReadable) →
        (∀ n < (Batch.parcels batches).countP (·.isAcknowledged intake.autoAcknowledge),
          ¬Refused b.acknowledgeFaults n) →
        events = Parcel.events earlier ++ event :: Parcel.events later) := by
  refine (receive_ends w stream intake h).mono ?_
  rintro outcome b' ⟨taken, left, htaken, htakes, rfl⟩
  refine ⟨_, rfl, ?_, fun hread hanswers => ?_⟩
  · split
    next hleft =>
        rw [hleft, List.append_nil, hparcels] at htaken
        exact .inr (htaken ▸ Parcel.events_append_cons hp earlier later)
    next => exact .inl rfl
  · have hreadable : ∀ q ∈ left, q.isReadable = true := by
      intro q hq
      have hmem : q ∈ earlier ++ p :: later := hparcels ▸ htaken ▸ List.mem_append_right taken hq
      rw [List.mem_append, List.mem_cons] at hmem
      rcases hmem with hq | rfl | hq
      · exact hread q (List.mem_append_left later hq)
      · exact Parcel.isReadable_of_content hp
      · exact hread q (List.mem_append_right earlier hq)
    have hleft : left = [] := htakes.left_eq_nil (htaken ▸ hanswers) hreadable
    rw [if_pos hleft]
    rw [hleft, List.append_nil, hparcels] at htaken
    exact htaken ▸ Parcel.events_append_cons hp earlier later

/-- What is published is what is received. Unless the clock does not show the time or the
payload or the context nests too deep, a message is handed to the broker; and whenever that
message is read, it carries an event that tells of what was published. It is not malformed, and
a delivery hands its event out in its place unless something else stops the delivery. -/
theorem received_as_published (clock : Clock) (stream : String) {a : Announcement}
    (hdata : a.data.IsDocument) (hcontext : a.context.IsDocument) (b : Broker) :
    (publish clock stream a).Ends b fun outcome b' =>
      (¬a.IsWritable clock ∧ b' = b ∧ ∃ fault, outcome = .error fault) ∨
      (a.IsWritable clock ∧ ∃ fields, b'.calls = b.calls ++ [.append stream fields] ∧
        ∀ source id, ∃ event : Event, event.Tells a ∧
          let p : Parcel := ⟨source, id, some fields⟩
          p.content = .ok event ∧ p.isMalformed = false ∧
          ∀ (w : Worker) (read : String) (intake : Intake) (reader : Broker)
            (batches : List Batch) (earlier later : List Parcel),
            reader.Offers batches → Batch.parcels batches = earlier ++ p :: later →
            (receive w read intake).Ends reader fun received _ =>
              ∃ events, received = .ok (some events) ∧
                (events = [] ∨ events = Parcel.events earlier ++ event :: Parcel.events later) ∧
                ((∀ q ∈ earlier ++ later, q.isReadable) →
                  (∀ n < (Batch.parcels batches).countP (·.isAcknowledged intake.autoAcknowledge),
                    ¬Refused reader.acknowledgeFaults n) →
                  events = Parcel.events earlier ++ event :: Parcel.events later)) := by
  refine (publish_ends clock stream hdata hcontext b).mono fun outcome b' h => h.imp_right ?_
  rintro ⟨hwritable, now, fields, hfields, hcalls⟩
  refine ⟨hwritable, fields, hcalls, fun source id => ?_⟩
  obtain ⟨event, hevent, htells⟩ := Event.ofFields_tells hdata hcontext hfields source id
  have hcontent : (⟨source, id, some fields⟩ : Parcel).content = .ok event := hevent
  exact ⟨event, htells, hcontent, Parcel.not_isMalformed_of_content hcontent,
    fun w read intake reader batches earlier later hoffers hparcels =>
      receive_hands_out w read intake hoffers hparcels hcontent⟩

/-- An order is published and received: its data with a text, a number and a list in it, and no
context. -/
theorem received_as_published_order :
    let data : Value := .object [("id", .int 7), ("paid", .float .zero),
      ("note", .text "\"new\"\n"), ("lines", .list [.null, .bool true])]
    ∃ fields event,
      ((publish {} "orders" { kind := "order.created", data }).runFrom {} []).state.calls =
        [.append "orders" fields] ∧
      ((receive ⟨"engine", "worker-1"⟩ "orders" {}).runFrom
        { reads := [.ok [⟨"orders", [⟨"1-0", some fields⟩]⟩]] } []).outcome = .ok (some [event]) ∧
      event.kind = .text "order.created" ∧ event.data = data ∧ event.context = .object [] := by
  intro data
  have hjoined : ∀ s : String, Text.marked s.toList = s.toList → Text.Joined s := by
    intro s hs
    have hmarked := Text.joined_marked s.toList
    rwa [hs, String.ofList_toList] at hmarked
  have hid := hjoined "id" (by decide)
  have hpaid := hjoined "paid" (by decide)
  have hnote := hjoined "note" (by decide)
  have hnew := hjoined "\"new\"\n" (by decide)
  have hlines := hjoined "lines" (by decide)
  have hdata : data.IsDocument := by
    refine ⟨by decide, hid, ?_, hpaid, trivial, hnote, hnew, hlines, ⟨trivial, trivial, trivial⟩,
      trivial⟩
    show (Double.digitsOf 7).length ≤ Numeral.digitLimit
    decide
  have hnamed : data.IsNamed := by
    refine ⟨trivial, ?_, trivial, ⟨trivial, trivial, trivial⟩, trivial⟩
    show Double.zero ≠ .nan false
    decide
  have hclock : ∃ now, Clock.now {} = .ok now := by
    have hok : (Clock.now {}).isOk = true := by decide +kernel
    cases hnow : Clock.now {} with
    | ok now => exact ⟨now, rfl⟩
    | error fault =>
        rw [hnow] at hok
        cases hok
  have hwritable : ({ kind := "order.created", data } : Announcement).IsWritable {} :=
    ⟨hclock, by decide, by decide⟩
  obtain ⟨hnot, -⟩ | ⟨-, fields, hcalls, hevents⟩ :=
    received_as_published {} "orders" (a := { kind := "order.created", data }) hdata trivial {} []
  · exact absurd hwritable hnot
  · obtain ⟨event, htells, -, -, hreceived⟩ := hevents "orders" "1-0"
    obtain ⟨events, houtcome, -, hall⟩ := hreceived ⟨"engine", "worker-1"⟩ "orders" {}
      { reads := [.ok [⟨"orders", [⟨"1-0", some fields⟩]⟩]] } _ [] [] ⟨nofun, rfl⟩ rfl []
    refine ⟨fields, event, hcalls, ?_, htells.kind, htells.same_data hnamed,
      htells.same_context trivial⟩
    rw [houtcome, hall nofun ?_]
    · rfl
    · rintro n - ⟨_, h⟩
      cases h

end Broker

end AlertRules
