import AlertRules.Proofs.Consumer.Steps

/-!
The discipline of a consumer's run.

A consumer that keeps a journal writes down what it is given to handle and what it
acknowledges, and is otherwise the consumer that it is. At every point of a run the
journal is in order (`Consumer.after_orderly`): each event that the run has come to was
handled once, in the order in which the events were received; those that worked were
acknowledged once, on the stream they were received from, and no others; as many
acknowledgements were accepted as the run has processed; and the run has stopped exactly
when that is as many as it was asked for. What an entry of the journal changes is one
lemma each (`Journal.Accounts.received` and so on), and a step adds one entry at most.
-/

namespace AlertRules

open AlertRules.Action

/-! ### Journals -/

/-- What a consumer did. -/
inductive Entry where
  | received (stream : String) (events : Option (List Event))
  | handled (event : Event) (outcome : Except Fault Bool)
  | acknowledged (arrival : Arrival) (outcome : Except Fault Unit)

/-- What a consumer did so far, oldest first. -/
abbrev Journal := List Entry

namespace Journal

def delivered (j : Journal) : List Arrival :=
  j.flatMap fun
    | .received stream (some events) => events.map fun event => ⟨stream, event⟩
    | _ => []

def handled (j : Journal) : List (Event × Except Fault Bool) :=
  j.filterMap fun
    | .handled event outcome => some (event, outcome)
    | _ => none

/-- The events that were acknowledged, whether or not that was accepted. -/
def acknowledged (j : Journal) : List Arrival :=
  j.filterMap fun
    | .acknowledged arrival _ => some arrival
    | _ => none

def accepted (j : Journal) : Nat :=
  j.countP fun
    | .acknowledged _ (.ok ()) => true
    | _ => false

/-- The consumer was told that there is nothing more to receive. -/
def Ended (j : Journal) : Prop := ∃ stream, .received stream none ∈ j

theorem ended_received {j : Journal} {stream : String} {events : Option (List Event)} :
    Journal.Ended (j ++ [.received stream events]) ↔ j.Ended ∨ events = none := by
  simp [Ended, exists_or, eq_comm]

theorem ended_handled {j : Journal} {event : Event} {outcome : Except Fault Bool} :
    Journal.Ended (j ++ [.handled event outcome]) ↔ j.Ended := by
  simp [Ended]

theorem ended_acknowledged {j : Journal} {arrival : Arrival} {outcome : Except Fault Unit} :
    Journal.Ended (j ++ [.acknowledged arrival outcome]) ↔ j.Ended := by
  simp [Ended]

theorem accepted_received (j : Journal) (stream : String) (events : Option (List Event)) :
    accepted (j ++ [.received stream events]) = j.accepted := by
  simp [accepted]

theorem accepted_handled (j : Journal) (event : Event) (outcome : Except Fault Bool) :
    accepted (j ++ [.handled event outcome]) = j.accepted := by
  simp [accepted]

theorem accepted_acknowledged (j : Journal) (arrival : Arrival) :
    accepted (j ++ [.acknowledged arrival (.ok ())]) = j.accepted + 1 := by
  simp [accepted]

theorem accepted_refused (j : Journal) (arrival : Arrival) (fault : Fault) :
    accepted (j ++ [.acknowledged arrival (.error fault)]) = j.accepted := by
  simp [accepted]

def worked : Except Fault Bool → Bool
  | .ok true => true
  | _ => false

/-- Of the events that were received, all were handled but those that lie ahead, each
once and in order; and of these, each that worked was acknowledged, once and in order,
but those to which an acknowledgement is still owed. -/
def Accounts (j : Journal) (ahead owed : List Arrival) : Prop :=
  ∃ reached : List (Arrival × Except Fault Bool),
    j.delivered = reached.map Prod.fst ++ ahead ∧
      j.handled = reached.map (fun r => (r.1.event, r.2)) ∧
      j.acknowledged ++ owed = (reached.filter fun r => worked r.2).map Prod.fst

namespace Accounts

variable {j : Journal} {ahead later : List Arrival} {arrival : Arrival}

theorem nil : Accounts [] [] [] := ⟨[], rfl, rfl, rfl⟩

theorem received (h : j.Accounts [] []) (stream : String) (events : List Event) :
    Accounts (j ++ [.received stream (some events)]) (events.map fun event => ⟨stream, event⟩)
      [] := by
  obtain ⟨reached, hdelivered, hhandled, hacknowledged⟩ := h
  refine ⟨reached, ?_, ?_, ?_⟩
  · simpa [delivered] using hdelivered
  · simpa [handled] using hhandled
  · simpa [acknowledged] using hacknowledged

theorem ended (h : j.Accounts [] []) (stream : String) :
    Accounts (j ++ [.received stream none]) [] [] := by
  obtain ⟨reached, hdelivered, hhandled, hacknowledged⟩ := h
  refine ⟨reached, ?_, ?_, ?_⟩
  · simpa [delivered] using hdelivered
  · simpa [handled] using hhandled
  · simpa [acknowledged] using hacknowledged

theorem handled (h : j.Accounts (arrival :: later) []) (outcome : Except Fault Bool) :
    Accounts (j ++ [.handled arrival.event outcome]) later
      (if worked outcome then [arrival] else []) := by
  obtain ⟨reached, hdelivered, hhandled, hacknowledged⟩ := h
  refine ⟨reached ++ [(arrival, outcome)], ?_, ?_, ?_⟩
  · simpa [delivered] using hdelivered
  · simpa [Journal.handled] using hhandled
  · have hbefore : (reached.filter fun r => worked r.2).map Prod.fst = j.acknowledged := by
      rw [← hacknowledged, List.append_nil]
    cases hworked : worked outcome <;> simp [acknowledged, hworked, hbefore]

theorem acknowledged (h : j.Accounts later [arrival]) (outcome : Except Fault Unit) :
    Accounts (j ++ [.acknowledged arrival outcome]) later [] := by
  obtain ⟨reached, hdelivered, hhandled, hacknowledged⟩ := h
  refine ⟨reached, ?_, ?_, ?_⟩
  · simpa [delivered] using hdelivered
  · simpa [Journal.handled] using hhandled
  · simpa [Journal.acknowledged] using hacknowledged

end Accounts

end Journal

/-! ### Points in order -/

namespace Point

/-- The events that were received and not come to yet. -/
def ahead : Point → List Arrival
  | receiving _ _ => []
  | handling _ batch _ => batch
  | acknowledging _ _ later _ | stopped _ _ later => later

def owed : Point → List Arrival
  | acknowledging _ arrival _ _ => [arrival]
  | _ => []

def HasStopped (p : Point) (why : Finish) : Prop :=
  ∃ processed later, p = .stopped processed why later

/-- The journal of a run that is to process `n` events is in order at a point. -/
structure Orderly (n : Nat) (p : Point) (j : Journal) : Prop where
  /-- Each event the run has come to was handled once, and acknowledged once if that worked. -/
  accounts : j.Accounts p.ahead p.owed
  /-- As many events count as processed as acknowledgements were accepted. -/
  accepted : j.accepted = p.processed
  /-- No more events are processed than there were to be. -/
  bounded : p.processed ≤ n
  /-- The run stops when it has processed enough, and then only. -/
  enough : p.HasStopped .enough ↔ p.processed = n
  /-- It stops earlier if there is nothing more to receive, and then only. -/
  exhausted : p.HasStopped .exhausted ↔ j.Ended

variable {n : Nat} {j : Journal}

theorem orderly_start (hn : 1 ≤ n) : Orderly n (.receiving 0 []) [] where
  accounts := .nil
  accepted := rfl
  bounded := Nat.zero_le n
  enough := ⟨fun ⟨_, _, h⟩ => (nomatch h), fun h => absurd h (Nat.ne_of_lt hn)⟩
  exhausted := ⟨fun ⟨_, _, h⟩ => (nomatch h), fun ⟨_, h⟩ => absurd h List.not_mem_nil⟩

theorem not_hasStopped_of_progress {p : Point} (h : p.progress = .going p.processed)
    (why : Finish) : ¬ p.HasStopped why := by
  rintro ⟨processed, later, rfl⟩
  cases h

variable {p : Point}

/-- A run that goes on has not processed enough, and there is more to receive. -/
theorem Orderly.going (h : Orderly n p j) (hp : p.progress = .going p.processed) :
    p.processed < n ∧ ¬ j.Ended :=
  ⟨Nat.lt_of_le_of_ne h.bounded fun heq => not_hasStopped_of_progress hp _ (h.enough.mpr heq),
    fun hended => not_hasStopped_of_progress hp _ (h.exhausted.mpr hended)⟩

/-- A point at which the run goes on is in order if the journal accounts for it. -/
theorem orderly_of_going (hp : p.progress = .going p.processed)
    (haccounts : j.Accounts p.ahead p.owed) (haccepted : j.accepted = p.processed)
    (hlt : p.processed < n) (hended : ¬ j.Ended) : Orderly n p j where
  accounts := haccounts
  accepted := haccepted
  bounded := Nat.le_of_lt hlt
  enough := iff_of_false (not_hasStopped_of_progress hp _) (Nat.ne_of_lt hlt)
  exhausted := iff_of_false (not_hasStopped_of_progress hp _) hended

end Point

/-! ### The consumer with a journal -/

namespace Consumer

variable {σ : Type}

def note (entry : Entry) : Action (σ × Journal) Unit := modify fun s => (s.1, s.2 ++ [entry])

def noting {α : Type} (a : Action σ α) (entry : Except Fault α → Entry) :
    Action (σ × Journal) α := do
  let outcome ← (a.within Prod.fst fun s t => (t, s.2)).attempt
  note (entry outcome)
  Action.ofExcept outcome

/-- The consumer that keeps a journal of what it does. What it cannot receive it does
not write down. -/
def journaling (c : Consumer σ) : Consumer (σ × Journal) where
  receive stream := do
    let events ← (c.receive stream).within Prod.fst fun s t => (t, s.2)
    note (.received stream events)
    pure events
  handle event := noting (c.handle event) (.handled event)
  acknowledge stream event := noting (c.acknowledge stream event) (.acknowledged ⟨stream, event⟩)

theorem runFrom_noting {α : Type} (a : Action σ α) (entry : Except Fault α → Entry) (s : σ)
    (j : Journal) (log : Log) :
    (noting a entry).runFrom (s, j) log =
      ⟨(a.runFrom s log).outcome,
        ((a.runFrom s log).state, j ++ [entry (a.runFrom s log).outcome]),
        (a.runFrom s log).log⟩ :=
  runFrom_ofExcept _ _ _

/-- What is written down of an action does not change what it does. -/
theorem noting_mirrors {α : Type} (a : Action σ α) (entry : Except Fault α → Entry) :
    Mirrors Prod.fst (noting a entry) a := by
  rintro ⟨s, j⟩ log
  rw [runFrom_noting]

theorem receive_mirrors (c : Consumer σ) (stream : String) :
    Mirrors Prod.fst (c.journaling.receive stream) (c.receive stream) := by
  rintro ⟨s, j⟩ log
  show (c.receive stream).runFrom s log = _
  simp only [journaling, runFrom_bind, runFrom_within]
  generalize (c.receive stream).runFrom s log = ending
  obtain ⟨outcome, s', log'⟩ := ending
  cases outcome <;> rfl

theorem goOn_mirrors {τ : Type} (view : σ → τ) (quota : Quota) (processed : Nat)
    (later : List Arrival) (rest : List String) :
    Mirrors view (goOn quota processed later rest) (goOn quota processed later rest) := by
  unfold goOn
  split
  · exact .bind (.record _ _) fun _ => .pure _
  · exact .pure _

/-- A step of the consumer with a journal is a step of the consumer. -/
theorem step_mirrors (c : Consumer σ) (quota : Quota) (streams : List String) (p : Point) :
    Mirrors Prod.fst (c.journaling.step quota streams p) (c.step quota streams p) := by
  match p with
  | .receiving _ [] | .handling _ [] _ | .stopped _ _ _ => exact .pure _
  | .receiving processed (stream :: rest) =>
      refine .bind (receive_mirrors c stream) fun received => ?_
      cases received with
      | none => exact .pure _
      | some events => exact .pure _
  | .handling processed (arrival :: later) rest =>
      refine .bind (.attempt (noting_mirrors _ _)) fun outcome => ?_
      split
      · exact .pure _
      · exact .bind (.record _ _) fun _ => goOn_mirrors _ _ _ _ _
      · exact .bind (.record _ _) fun _ => goOn_mirrors _ _ _ _ _
  | .acknowledging processed arrival later rest =>
      refine .bind (.attempt (noting_mirrors _ _)) fun outcome => ?_
      split
      · exact .bind (.record _ _) fun _ => goOn_mirrors _ _ _ _ _
      · exact .bind (.record _ _) fun _ => goOn_mirrors _ _ _ _ _

theorem after_mirrors (c : Consumer σ) (streams : List String) (quota : Quota) (steps : Nat) :
    Mirrors Prod.fst (c.journaling.after streams quota steps) (c.after streams quota steps) := by
  have hwalk : ∀ p, Mirrors Prod.fst (c.journaling.walk quota streams steps p)
      (c.walk quota streams steps p) := by
    induction steps with
    | zero => exact fun p => .pure p
    | succ steps ih => exact fun p => .bind (step_mirrors c quota streams p) ih
  exact .bind (.record _ _) fun _ => hwalk _

/-! ### Steps and runs in order -/

variable {c : Consumer σ} {n : Nat}

/-- The action ends at a point at which the journal is in order. -/
def EndsOrderly (n : Nat) (a : Action (σ × Journal) Point) (s : σ) (j : Journal) : Prop :=
  a.Ends (s, j) fun outcome s' => ∃ p, outcome = .ok p ∧ p.Orderly n s'.2

variable {s : σ} {j : Journal}

theorem isReached_iff (hn : 1 ≤ n) (processed : Nat) :
    Quota.isReached (some (n : Int)) processed = true ↔ n ≤ processed := by
  simp only [Quota.isReached, decide_eq_true_eq]
  omega

/-- A run goes on in order, or stops if it has processed enough. -/
theorem goOn_orderly (hn : 1 ≤ n) {processed : Nat} {later : List Arrival}
    (rest : List String) (haccounts : j.Accounts later []) (haccepted : j.accepted = processed)
    (hle : processed ≤ n) (hended : ¬ j.Ended) :
    EndsOrderly n (goOn (some (n : Int)) processed later rest) s j := by
  unfold goOn
  split
  · rename_i hreached
    have heq : processed = n := Nat.le_antisymm hle ((isReached_iff hn processed).mp hreached)
    refine .bind_record (.pure ⟨_, rfl, ?_⟩)
    exact
      { accounts := haccounts
        accepted := haccepted
        bounded := hle
        enough := iff_of_true ⟨_, _, rfl⟩ heq
        exhausted := iff_of_false (fun ⟨_, _, h⟩ => (nomatch h)) hended }
  · rename_i hreached
    have hlt : processed < n :=
      Nat.lt_of_not_le fun h => hreached ((isReached_iff hn processed).mpr h)
    exact .pure ⟨_, rfl, Point.orderly_of_going rfl haccounts haccepted hlt hended⟩

theorem noting_ends {α : Type} (a : Action σ α) (entry : Except Fault α → Entry) :
    (noting a entry).Ends (s, j) fun outcome s' => s'.2 = j ++ [entry outcome] := by
  intro log
  rw [runFrom_noting]

theorem receive_ends {stream : String} (hreceive : (c.receive stream).Succeeds) :
    (c.journaling.receive stream).Ends (s, j) fun outcome s' =>
      ∃ events, outcome = .ok events ∧ s'.2 = j ++ [.received stream events] := by
  refine .bind_returns (.within ((hreceive s).mono ?_)) fun events s' (hs' : s'.2 = j) => ?_
  · rintro _ t ⟨events, rfl⟩
    exact ⟨events, rfl, rfl⟩
  · subst hs'
    exact .bind_modify (.pure ⟨events, rfl, rfl⟩)

variable (hreceive : ∀ stream, (c.receive stream).Succeeds)
include hreceive

/-- A step leads from a point at which the journal is in order to another. -/
theorem step_orderly (hn : 1 ≤ n) (streams : List String) {p : Point} (h : p.Orderly n j) :
    EndsOrderly n (c.journaling.step (some (n : Int)) streams p) s j := by
  match p with
  | .stopped _ _ _ => exact .pure ⟨_, rfl, h⟩
  | .receiving processed [] | .handling processed [] _ =>
      obtain ⟨hlt, hended⟩ := h.going rfl
      exact .pure ⟨_, rfl, Point.orderly_of_going rfl h.accounts h.accepted hlt hended⟩
  | .receiving processed (stream :: rest) =>
      obtain ⟨hlt, hended⟩ := h.going rfl
      refine .bind_returns (receive_ends (hreceive stream)) ?_
      rintro (_ | events) ⟨s', j'⟩ rfl
      · refine .pure ⟨_, rfl, ?_⟩
        exact
          { accounts := h.accounts.ended stream
            accepted := (Journal.accepted_received _ _ _).trans h.accepted
            bounded := h.bounded
            enough := iff_of_false (fun ⟨_, _, heq⟩ => (nomatch heq)) (Nat.ne_of_lt hlt)
            exhausted := iff_of_true ⟨_, _, rfl⟩ (Journal.ended_received.mpr (.inr rfl)) }
      · refine .pure ⟨_, rfl, Point.orderly_of_going rfl (h.accounts.received stream events)
          ((Journal.accepted_received _ _ _).trans h.accepted) hlt ?_⟩
        rintro hended'
        exact (Journal.ended_received.mp hended').elim hended nofun
  | .handling processed (arrival :: later) rest =>
      obtain ⟨hlt, hended⟩ := h.going rfl
      refine .bind_attempt (noting_ends _ _) ?_
      rintro outcome ⟨s', j'⟩ rfl
      have haccounts := h.accounts.handled outcome
      have haccepted := (Journal.accepted_handled j arrival.event outcome).trans h.accepted
      have hended' : ¬ Journal.Ended (j ++ [.handled arrival.event outcome]) :=
        mt Journal.ended_handled.mp hended
      rcases outcome with fault | _ | _
      · exact .bind_record (goOn_orderly hn rest haccounts haccepted h.bounded hended')
      · exact .bind_record (goOn_orderly hn rest haccounts haccepted h.bounded hended')
      · exact .pure ⟨_, rfl, Point.orderly_of_going rfl haccounts haccepted hlt hended'⟩
  | .acknowledging processed arrival later rest =>
      obtain ⟨hlt, hended⟩ := h.going rfl
      refine .bind_attempt (noting_ends _ _) ?_
      rintro outcome ⟨s', j'⟩ rfl
      have haccounts := h.accounts.acknowledged outcome
      rcases outcome with fault | _
      · have haccepted := (Journal.accepted_refused j arrival fault).trans h.accepted
        exact .bind_record (goOn_orderly hn rest haccounts haccepted h.bounded
          (mt Journal.ended_acknowledged.mp hended))
      · have haccepted := (Journal.accepted_acknowledged j arrival).trans
          (congrArg (· + 1) h.accepted)
        exact .bind_record (goOn_orderly hn rest haccounts haccepted hlt
          (mt Journal.ended_acknowledged.mp hended))

/-- The journal is in order all along a walk: induction on its steps. -/
theorem walk_orderly (hn : 1 ≤ n) (streams : List String) (steps : Nat) {p : Point}
    (h : p.Orderly n j) :
    EndsOrderly n (c.journaling.walk (some (n : Int)) streams steps p) s j := by
  induction steps generalizing p s j with
  | zero => exact .pure ⟨p, rfl, h⟩
  | succ steps ih =>
      refine .bind_returns (step_orderly hreceive hn streams h) ?_
      rintro p' ⟨s', j'⟩ hp'
      exact ih hp'

/-- After any number of steps of a run the consumer is at some point, at which the journal
that it would have kept is in order. -/
theorem after_orderly (hn : 1 ≤ n) (streams : List String) (s : σ) (log : Log) (steps : Nat) :
    ∃ p s' j log', (c.after streams (some (n : Int)) steps).runFrom s log = ⟨.ok p, s', log'⟩ ∧
      (c.journaling.after streams (some (n : Int)) steps).runFrom (s, []) log =
        ⟨.ok p, (s', j), log'⟩ ∧
      p.Orderly n j := by
  have horderly : EndsOrderly n (c.journaling.after streams (some (n : Int)) steps) s [] :=
    .bind_record (walk_orderly hreceive hn streams steps (Point.orderly_start hn))
  obtain ⟨p, hp, horderly⟩ := horderly log
  have hmirrors := after_mirrors c streams (some (n : Int)) steps (s, []) log
  generalize (c.journaling.after streams (some (n : Int)) steps).runFrom (s, []) log = ending
    at hp horderly hmirrors
  obtain ⟨outcome, ⟨s', j⟩, log'⟩ := ending
  subst hp
  exact ⟨p, s', j, log', hmirrors, rfl, horderly⟩

/-- The discipline of a run that is to process `n` events. After any number of steps it is
at a point at which the journal is in order, and a run of some rounds ends at such a point. -/
theorem run_disciplined (hn : 1 ≤ n) (streams : List String) (s : σ) (log : Log) :
    (∀ steps, ∃ p s' j log',
      (c.after streams (some (n : Int)) steps).runFrom s log = ⟨.ok p, s', log'⟩ ∧
        (c.journaling.after streams (some (n : Int)) steps).runFrom (s, []) log =
          ⟨.ok p, (s', j), log'⟩ ∧
        p.Orderly n j) ∧
      ∀ rounds, ∃ steps p s' log', rounds ≤ steps ∧
        (c.after streams (some (n : Int)) steps).runFrom s log = ⟨.ok p, s', log'⟩ ∧
        (c.run streams (some (n : Int)) rounds).runFrom s log = ⟨.ok p.progress, s', log'⟩ := by
  refine ⟨after_orderly hreceive hn streams s log, fun rounds => ?_⟩
  obtain ⟨steps, later, hrounds, hwalk⟩ := run_walks c (some (n : Int)) streams rounds s log
  obtain ⟨p, s', j, log', hafter, -⟩ := after_orderly hreceive hn streams s log steps
  refine ⟨steps, p, s', log', hrounds, hafter, ?_⟩
  rw [hafter] at hwalk
  generalize (c.run streams (some (n : Int)) rounds).runFrom s log = ending at hwalk
  obtain ⟨outcome, s'', log''⟩ := ending
  rcases outcome with fault | progress
  · cases hwalk
  · cases hwalk
    rw [Progress.progress_point]

omit hreceive

/-- Receiving from a broker does not fail: what goes wrong is only logged. -/
theorem ofBroker_receive_succeeds {τ : Type} (w : Worker) (handle : Event → Action τ Bool)
    (stream : String) : ((ofBroker w handle).receive stream).Succeeds := by
  have hreceive : (Broker.receive w stream { autoAcknowledge := false }).Succeeds := by
    refine .bind (.attempt _) fun outcome => ?_
    cases outcome with
    | ok received => exact .pure received
    | error fault => exact .bind (.record _ _) fun _ => .pure _
  exact fun s log => hreceive s.1 log

def rehearsed : Consumer (Broker × Rehearsal) := ofBroker ⟨"engine", "worker-1"⟩ Rehearsal.handle

def emptyMessages (stream : String) (ids : List String) : Batch :=
  ⟨stream, ids.map fun id => ⟨id, some [("data", .text "\x7b\x7d")]⟩⟩

/-- Three batches, of which the broker refuses the first acknowledgement, and the
second event of which is not handled. -/
def rehearsal : Broker × Rehearsal :=
  ({ reads := [.ok [emptyMessages "orders" ["1-0", "1-1"]],
        .ok [emptyMessages "payments" ["2-0"]], .ok [emptyMessages "orders" ["1-2", "1-3"]]]
     acknowledgeFaults := [some (.service .stream "connection reset")] },
    { outcomes := [.ok true, .ok false] })

/-- A run that is to process two events stops at the fourth of five. -/
theorem run_disciplined_rehearsed :
    (1 ≤ 2 ∧ ∀ stream, (rehearsed.receive stream).Succeeds) ∧
      ∃ steps later s' j log',
        (rehearsed.run ["orders", "payments"] (some (2 : Nat)) 2).runFrom rehearsal [] =
          ⟨.ok (.finished 2 .enough), s', log'⟩ ∧
        (rehearsed.journaling.after ["orders", "payments"] (some (2 : Nat)) steps).runFrom
          (rehearsal, []) [] = ⟨.ok (.stopped 2 .enough later), (s', j), log'⟩ ∧
        (Point.stopped 2 .enough later).Orderly 2 j := by
  have hreceive : ∀ stream, (rehearsed.receive stream).Succeeds :=
    ofBroker_receive_succeeds _ Rehearsal.handle
  refine ⟨⟨by decide, hreceive⟩, ?_⟩
  obtain ⟨hpoints, hruns⟩ :=
    run_disciplined hreceive (by decide : 1 ≤ 2) ["orders", "payments"] rehearsal []
  obtain ⟨steps, p, s', log', -, hafter, hrun⟩ := hruns 2
  obtain ⟨q, t, j, log'', hafter', hjournal, horderly⟩ := hpoints steps
  cases hafter.symm.trans hafter'
  have hend : ((rehearsed.run ["orders", "payments"] (some (2 : Nat)) 2).runFrom
      rehearsal []).outcome = .ok (.finished 2 .enough) := rfl
  have hprogress : p.progress = .finished 2 .enough :=
    Except.ok.inj ((congrArg Ending.outcome hrun).symm.trans hend)
  match p, hprogress with
  | .stopped 2 .enough later, rfl =>
    exact ⟨steps, later, s', j, log', hrun, hjournal, horderly⟩

end Consumer

end AlertRules
