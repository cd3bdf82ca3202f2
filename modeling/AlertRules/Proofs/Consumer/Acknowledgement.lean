import AlertRules.Consumer.Basic
import AlertRules.Proofs.Action

/-!
What a consumer acknowledges.

An event is acknowledged if it was handled, and only then. In a whole run a
message is acknowledged only if it is malformed, so that it can never be
delivered, or if the event that it carries was handled
(`Consumer.run_warranted`). The invariant is `Broker.Warranted`: every
acknowledgement so far has such a reason among the messages that the broker was
going to read out at the start.
-/

namespace AlertRules

open AlertRules.Action

/-! ### Reasons to acknowledge -/

abbrev Script := List (Except Fault (List Batch))

def Script.Holds (script : Script) (source : String) (m : Message) : Prop :=
  ∃ batches batch, .ok batches ∈ script ∧ batch ∈ batches ∧ batch.stream = source ∧
    m ∈ batch.messages

def Script.Carries (script : Script) (event : Event) : Prop :=
  ∃ source m, script.Holds source m ∧ Event.ofMessage source m = .ok event

variable {w : Worker} {script : Script} {answer : Event → Bool}

/-- An acknowledgement has a reason: the message is malformed, or it carries an event
that is handled. Other requests need none. -/
def BrokerCall.Warranted (w : Worker) (script : Script) (answer : Event → Bool) :
    BrokerCall → Prop
  | .acknowledge _ group id => group = w.group ∧
      ((∃ source m fault, script.Holds source m ∧ m.id = id ∧
          Event.ofMessage source m = .error fault ∧ fault.isMalformed) ∨
        ∃ event, script.Carries event ∧ event.id = id ∧ answer event)
  | _ => True

/-- Every acknowledgement so far had a reason, and there is nothing new to read out. -/
structure Broker.Warranted (w : Worker) (script : Script) (answer : Event → Bool) (b : Broker) :
    Prop where
  reads : b.reads ⊆ script
  calls : ∀ call ∈ b.calls, call.Warranted w script answer

/-! ### The broker -/

namespace Broker

/-- Acknowledging is asking the broker, whatever the broker answers. -/
theorem acknowledge_ends (stream group id : String) (b : Broker) :
    (acknowledge stream group id).Ends b fun _ b' =>
      b'.calls = b.calls ++ [.acknowledge stream group id] ∧ b'.reads = b.reads := by
  refine .bind_modify (.bind_get (.bind_set ?_))
  unfold obey
  split
  · exact .throw ⟨rfl, rfl⟩
  · exact .pure ⟨rfl, rfl⟩

theorem Warranted.add {b b' : Broker} (h : b.Warranted w script answer) {calls : List BrokerCall}
    (hcalls : b'.calls = b.calls ++ calls) (hreads : b'.reads ⊆ b.reads)
    (hwarranted : ∀ call ∈ calls, call.Warranted w script answer) :
    b'.Warranted w script answer where
  reads := List.Subset.trans hreads h.reads
  calls call hcall := by
    rw [hcalls, List.mem_append] at hcall
    exact hcall.elim (h.calls call) (hwarranted call)

theorem acknowledge_keeps {stream id : String}
    (h : (BrokerCall.acknowledge stream w.group id).Warranted w script answer) :
    (acknowledge stream w.group id).Keeps (Warranted w script answer) := fun b hb =>
  (acknowledge_ends stream w.group id b).mono fun _ _ hend =>
    hb.add hend.1 (hend.2 ▸ List.Subset.refl _) (List.forall_mem_singleton.mpr h)

theorem ensureGroup_keeps (stream group : String) :
    (ensureGroup stream group).Keeps (Warranted w script answer) := by
  have hcreate : (createGroup stream group).Keeps (Warranted w script answer) := by
    intro b hb
    refine .bind_modify (.bind_get (.bind_set ?_))
    have hb' : Warranted w script answer
        { b with calls := b.calls ++ [.createGroup stream group] } :=
      hb.add rfl (List.Subset.refl _) (List.forall_mem_singleton.mpr trivial)
    unfold obey
    split
    · exact .throw ⟨hb'.reads, hb'.calls⟩
    · exact .pure ⟨hb'.reads, hb'.calls⟩
  refine .bind (.attempt hcreate) fun outcome => ?_
  split
  · exact .pure _
  · split
    · exact .pure _
    · exact .throw _

theorem read_yields (group worker stream : String) (count block : Value) :
    (read group worker stream count block).Yields (Warranted w script answer)
      fun reply => ∀ batches ∈ reply, .ok batches ∈ script := by
  intro b hb
  have hasked : ∀ reads ⊆ b.reads, Warranted w script answer
      { b with calls := b.calls ++ [.read group worker stream count block], reads } :=
    fun reads h => hb.add rfl h (List.forall_mem_singleton.mpr trivial)
  refine .bind_modify (.bind_get (.bind_set ?_))
  dsimp only
  cases hreads : b.reads with
  | nil => exact Yields.pure (fun _ h => by cases h) _ (hasked [] (List.nil_subset _))
  | cons reply rest =>
      have hrest : rest ⊆ b.reads := by
        rw [hreads]
        exact List.subset_cons_self reply rest
      have hreply : reply ∈ script := hb.reads (hreads ▸ List.mem_cons_self)
      refine Yields.map (Yields.ofExcept ?_) _ (hasked rest hrest)
      rintro batches rfl _ ⟨⟩
      exact hreply

theorem takeMessage_yields (stream : String) {source : String} {m : Message}
    (hm : script.Holds source m) :
    (takeMessage w stream false source m).Yields (Warranted w script answer)
      fun taken => ∀ event ∈ taken, script.Carries event := by
  unfold takeMessage
  cases hevent : Event.ofMessage source m with
  | ok event =>
      refine .pure ?_
      rintro _ ⟨⟩
      exact ⟨source, m, hm, hevent⟩
  | error fault =>
      dsimp only
      split
      · rename_i hmalformed
        have hack : (acknowledge stream w.group m.id).Keeps (Warranted w script answer) :=
          acknowledge_keeps ⟨rfl, .inl ⟨source, m, fault, hm, rfl, hevent, hmalformed⟩⟩
        exact .bind (Keeps.record _ _).yields fun _ _ => .bind hack.yields fun _ _ =>
          .pure fun _ h => by cases h
      · exact .throw fault

theorem takeMessages_yields (stream : String) {source : String} {messages : List Message}
    (hmessages : ∀ m ∈ messages, script.Holds source m) :
    (takeMessages w stream false source messages).Yields (Warranted w script answer)
      fun events => ∀ event ∈ events, script.Carries event := by
  induction messages with
  | nil => exact .pure (List.forall_mem_nil _)
  | cons m rest ih =>
      obtain ⟨hm, hrest⟩ := List.forall_mem_cons.mp hmessages
      refine .bind (takeMessage_yields stream hm) fun taken htaken => ?_
      refine .bind (ih hrest) fun events hevents => .pure ?_
      exact List.forall_mem_append.mpr
        ⟨fun event h => htaken event (Option.mem_toList.mp h), hevents⟩

theorem takeBatches_yields (stream : String) {batches : List Batch}
    (hbatches : ∀ batch ∈ batches, ∀ m ∈ batch.messages, script.Holds batch.stream m) :
    (takeBatches w stream false batches).Yields (Warranted w script answer)
      fun events => ∀ event ∈ events, script.Carries event := by
  induction batches with
  | nil => exact .pure (List.forall_mem_nil _)
  | cons batch rest ih =>
      obtain ⟨hbatch, hrest⟩ := List.forall_mem_cons.mp hbatches
      refine .bind (takeMessages_yields stream hbatch) fun events hevents => ?_
      refine .bind (ih hrest) fun more hmore => .pure ?_
      exact List.forall_mem_append.mpr ⟨hevents, hmore⟩

/-- Receiving acknowledges malformed messages only, and what is received was read out. -/
theorem receive_yields (stream : String) :
    (receive w stream { autoAcknowledge := false }).Yields (Warranted w script answer)
      fun received => ∀ events ∈ received, ∀ event ∈ events, script.Carries event := by
  have hall : (receiveAll w stream { autoAcknowledge := false }).Yields
      (Warranted w script answer)
        fun received => ∀ events ∈ received, ∀ event ∈ events, script.Carries event := by
    refine .bind (ensureGroup_keeps stream w.group).yields fun _ _ => ?_
    refine .bind (read_yields _ _ _ _ _) ?_
    rintro (_ | batches) hread
    · exact .pure fun _ h => by cases h
    · have hheld : ∀ batch ∈ batches, ∀ m ∈ batch.messages, script.Holds batch.stream m :=
        fun batch hbatch m hm => ⟨batches, batch, hread batches rfl, hbatch, rfl, hm⟩
      refine .map (fun b hb => (takeBatches_yields stream hheld b hb).mono ?_)
      rintro outcome b' ⟨hb', hevents⟩
      refine ⟨hb', fun events houtcome => ?_⟩
      rintro _ ⟨⟩
      exact hevents events houtcome
  refine .bind_attempt hall (fun received hreceived => .pure hreceived) fun fault => ?_
  refine .bind (Keeps.record _ _).yields fun _ _ => .pure ?_
  rintro _ ⟨⟩
  exact List.forall_mem_nil _

end Broker

/-! ### The consumer -/

namespace Consumer

variable {τ : Type} {handle : Event → Action τ Bool}

theorem processEvent_acknowledges (stream : String) {event : Event} {b : Broker} {t : τ}
    {handled : Bool} (hhandle : (handle event).Ends t fun outcome _ => outcome = .ok handled) :
    ((ofBroker w handle).processEvent stream event).Ends (b, t) fun _ s' =>
      s'.1.calls =
          b.calls ++ (if handled then [.acknowledge stream w.group event.id] else []) ∧
        s'.1.reads = b.reads := by
  have hasked : ((ofBroker w handle).handle event).Ends (b, t) fun outcome s' =>
      outcome = .ok handled ∧ s'.1 = b :=
    .within (hhandle.mono fun _ _ h => ⟨h, rfl⟩)
  have hprocessing : (do
      if ← (ofBroker w handle).handle event then
        (ofBroker w handle).acknowledge stream event
        pure true
      else pure false : Action (Broker × τ) Bool).Ends (b, t) fun _ s' =>
        s'.1.calls =
            b.calls ++ (if handled then [.acknowledge stream w.group event.id] else []) ∧
          s'.1.reads = b.reads := by
    refine .bind_ok hasked ?_
    rintro ⟨b', t'⟩ rfl
    cases handled with
    | false => exact .pure ⟨(List.append_nil _).symm, rfl⟩
    | true =>
        have hack : ((ofBroker w handle).acknowledge stream event).Ends (b', t') fun _ s' =>
            s'.1.calls = b'.calls ++ [.acknowledge stream w.group event.id] ∧
              s'.1.reads = b'.reads :=
          fun log => Broker.acknowledge_ends stream w.group event.id b' log
        exact .bind hack (fun _ _ h => .pure h) fun _ _ h => h
  refine .bind_attempt hprocessing fun outcome s' hs' => ?_
  split
  · exact .bind_record (.pure hs')
  · exact .bind_record (.pure hs')
  · exact .bind_record (.pure hs')

def acknowledgements (w : Worker) (stream : String) (answer : Event → Bool)
    (events : List Event) : List BrokerCall :=
  (events.filter answer).map fun event => .acknowledge stream w.group event.id

theorem acknowledgements_cons (w : Worker) (stream : String) (answer : Event → Bool)
    (event : Event) (rest : List Event) :
    acknowledgements w stream answer (event :: rest) =
      (if answer event then [.acknowledge stream w.group event.id] else []) ++
        acknowledgements w stream answer rest := by
  unfold acknowledgements
  rw [List.filter_cons]
  split <;> rfl

variable (hhandle : ∀ event t, (handle event).Ends t fun outcome _ => outcome = .ok (answer event))
include hhandle

/-- Of the events of a batch that a consumer comes to, those are acknowledged that
are handled: induction on the events. -/
theorem processEvents_acknowledges (quota : Quota) (stream : String) (processed : Nat)
    (events : List Event) (b : Broker) (t : τ) :
    ((ofBroker w handle).processEvents quota stream processed events).Ends (b, t) fun outcome s' =>
      ∃ seen, seen <+: events ∧ (∀ now, outcome = .ok (.going now) → seen = events) ∧
        s'.1.calls = b.calls ++ acknowledgements w stream answer seen ∧ s'.1.reads = b.reads := by
  induction events generalizing processed b t with
  | nil => exact .pure ⟨[], List.prefix_rfl, fun _ _ => rfl, (List.append_nil _).symm, rfl⟩
  | cons event rest ih =>
      have hfirst : b.calls ++ (if answer event then [.acknowledge stream w.group event.id] else [])
          = b.calls ++ acknowledgements w stream answer [event] := by
        rw [acknowledgements_cons]
        exact (congrArg _ (List.append_nil _)).symm
      refine .bind (processEvent_acknowledges stream (hhandle event t)) ?_ ?_
      · rintro worked ⟨b', t'⟩ ⟨hcalls', hreads'⟩
        dsimp only
        generalize (if worked = true then processed + 1 else processed) = now
        split
        · exact .bind_record (.pure
            ⟨[event], ⟨rest, rfl⟩, fun _ h => (by cases h), hcalls'.trans hfirst, hreads'⟩)
        · refine (ih now b' t').mono ?_
          rintro outcome s' ⟨seen, hseen, hgoing, hcalls, hreads⟩
          refine ⟨event :: seen, List.cons_prefix_cons.mpr ⟨rfl, hseen⟩,
            fun now h => congrArg _ (hgoing now h), ?_, hreads.trans hreads'⟩
          rw [hcalls, hcalls', List.append_assoc, acknowledgements_cons]
      · intro fault s' hs'
        exact ⟨[event], ⟨rest, rfl⟩, fun _ h => (by cases h), hs'.1.trans hfirst, hs'.2⟩

theorem processEvents_keeps (quota : Quota) (stream : String) (processed : Nat)
    {events : List Event} (hevents : ∀ event ∈ events, script.Carries event) :
    ((ofBroker w handle).processEvents quota stream processed events).Keeps
      fun s => s.1.Warranted w script answer := by
  rintro ⟨b, t⟩ hb
  refine (processEvents_acknowledges hhandle quota stream processed events b t).mono ?_
  rintro _ s' ⟨seen, hseen, -, hcalls, hreads⟩
  refine hb.add hcalls (hreads ▸ List.Subset.refl _) ?_
  intro call hcall
  obtain ⟨event, hevent, rfl⟩ := List.mem_map.mp hcall
  obtain ⟨hevent, hanswer⟩ := List.mem_filter.mp hevent
  exact ⟨rfl, .inr ⟨event, hevents event (hseen.subset hevent), rfl, hanswer⟩⟩

/-- Going once round the streams acknowledges nothing without a reason: induction on
the streams. -/
theorem goRound_keeps (quota : Quota) (processed : Nat) (streams : List String) :
    ((ofBroker w handle).goRound quota processed streams).Keeps
      fun s => s.1.Warranted w script answer := by
  induction streams generalizing processed with
  | nil => exact .pure _
  | cons stream rest ih =>
      rintro ⟨b, t⟩ hb
      have hreceive : ((ofBroker w handle).receive stream).Ends (b, t) fun outcome s' =>
          s'.1.Warranted w script answer ∧ ∀ received, outcome = .ok received →
            ∀ events ∈ received, ∀ event ∈ events, script.Carries event :=
        fun log => Broker.receive_yields stream b hb log
      refine .bind hreceive ?_ fun _ _ h => h.1
      rintro (_ | events) s' ⟨hs', hevents⟩
      · exact .pure hs'
      · have hcarried := hevents (some events) rfl events rfl
        refine .bind (processEvents_keeps hhandle quota stream processed hcarried s' hs') ?_
          fun _ _ h => h
        rintro (now | ⟨now, why⟩) s'' hs''
        · exact ih now s'' hs''
        · exact .pure hs''

theorem goRounds_keeps (quota : Quota) (streams : List String) (rounds processed : Nat) :
    ((ofBroker w handle).goRounds quota streams rounds processed).Keeps
      fun s => s.1.Warranted w script answer := by
  induction rounds generalizing processed with
  | zero => exact .pure _
  | succ rounds ih =>
      refine .bind (goRound_keeps hhandle quota processed streams) ?_
      rintro (now | ⟨now, why⟩)
      · exact ih now
      · exact .pure _

/-- In a run that starts with a new broker, every acknowledgement has a reason. -/
theorem run_warranted (streams : List String) (quota : Quota) (rounds : Nat) {b : Broker} (t : τ)
    (hnew : b.calls = []) :
    ((ofBroker w handle).run streams quota rounds).Ends (b, t) fun _ s' =>
      ∀ call ∈ s'.1.calls, call.Warranted w b.reads answer := by
  have hb : b.Warranted w b.reads answer := ⟨List.Subset.refl _, by rw [hnew]; nofun⟩
  exact .bind_record ((goRounds_keeps hhandle quota streams rounds 0 (b, t) hb).mono
    fun _ _ h => h.calls)

end Consumer

end AlertRules
