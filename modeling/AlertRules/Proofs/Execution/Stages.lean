import AlertRules.Proofs.Execution.Frame
import AlertRules.Proofs.Schema.Checked
import AlertRules.Proofs.Store.Shared
import AlertRules.Proofs.Value.Shown

/-!
The stages of the work on a result.

An executor works on a result in three stages: it searches for an open
alert, creates one, and announces it (`executeOne_eq`). Between two
stages anything may happen to the store. What a stage itself does to a
shared store is little: only the second changes the alerts, and only by
what the store promises.
-/

namespace AlertRules

open AlertRules.Action

namespace Executor

variable {ω β : Type}

/-! ### The three stages -/

/-- Searches for an open alert; if there is none, the result is what it was
searched for. -/
def search (e : Executor ω) (s : Submission) : Action (Desk ω) (Option (Value × Value)) := do
  let organizationId := e.organizationOf (← Action.ofExcept s.context?)
  let fingerprint ← Action.ofExcept s.fingerprint
  let existing ← e.findOpen organizationId fingerprint
  if (existing.getD "") != "" then
    Action.info ("Skipping duplicate alert for fingerprint " ++
      (← Action.ofExcept fingerprint.display) ++ " (open alert " ++ existing.getD "" ++ ")")
    pure none
  else pure (some (organizationId, fingerprint))

/-- Creates an alert, which is refused if it is a duplicate. It has no id if
it could not be saved. -/
def create (e : Executor ω) (clock : Clock) (s : Submission) (organizationId fingerprint : Value) :
    Action (Desk ω) (Option (Alert × Option String)) := do
  let a ← Action.ofExcept (e.buildAlert clock s organizationId fingerprint)
  match ← e.persist s.ruleId fingerprint a with
  | .duplicate => pure none
  | .unsaved => pure (some (a, none))
  | .saved id => pure (some (a, some id))

/-- The work on a result is its three stages. -/
theorem executeOne_eq (e : Executor ω) (clock : Clock) (s : Submission) :
    e.executeOne clock s = (do
      match ← e.search s with
      | none => pure none
      | some (organizationId, fingerprint) =>
        match ← e.create clock s organizationId fingerprint with
        | none => pure none
        | some (a, id) =>
          e.announce clock s a id
          pure id) := by
  unfold executeOne search create
  simp only [bind_assoc]
  refine congrArg _ (funext fun context => congrArg _ (funext fun fingerprint =>
    congrArg _ (funext fun existing => ?_)))
  split
  · simp only [bind_assoc, pure_bind]
  · simp only [pure_bind]
    refine congrArg _ (funext fun a => congrArg _ (funext fun persisted => ?_))
    cases persisted <;> simp only [pure_bind]

/-! ### Building an alert -/

/-- An alert that was built says what it was built for, and can be built
again at any time. -/
theorem buildAlert_eq_ok {e : Executor ω} {clock : Clock} {s : Submission}
    {organizationId fingerprint : Value} {a : Alert}
    (h : e.buildAlert clock s organizationId fingerprint = .ok a) :
    organizationId = .text a.organizationId ∧ s.ruleId = .text a.ruleId ∧
      fingerprint = .text a.fingerprint ∧ a.status = .active ∧
      ∀ {clock' : Clock} {now : Moment}, clock'.now = .ok now →
        ∃ a', e.buildAlert clock' s organizationId fingerprint = .ok a' := by
  unfold buildAlert at h
  obtain ⟨context, hcontext, h⟩ := exists_of_bind_eq_ok h
  obtain ⟨title, htitle, h⟩ := exists_of_bind_eq_ok h
  obtain ⟨metadata, hmetadata, h⟩ := exists_of_bind_eq_ok h
  obtain ⟨now, hnow, h⟩ := exists_of_bind_eq_ok h
  rw [Schema.Checked.toExcept_eq_ok] at h
  simp only [Schema.Checked.seq_eq_ok, Schema.Checked.map_eq_ok] at h
  -- the checks of the fields, from the last to the first
  obtain ⟨_, f, ⟨_, m, ⟨_, c, ⟨_, l, ⟨_, d, ⟨_, t, ⟨_, r, ⟨o, ho, rfl⟩, hr, rfl⟩, ht, rfl⟩, hd,
    rfl⟩, hl, rfl⟩, hc, rfl⟩, hm, rfl⟩, hf, rfl⟩ := h
  refine ⟨?_, ?_, ?_, rfl, fun {clock' now'} hnow' => ?_⟩
  · exact Schema.text_eq_ok.mp (Schema.Checked.under_eq_ok.mp ho)
  · exact Schema.text_eq_ok.mp (Schema.Checked.under_eq_ok.mp hr)
  · exact Schema.text_eq_ok.mp (Schema.Checked.under_eq_ok.mp hf)
  · unfold buildAlert
    simp only [hcontext, htitle, hmetadata, hnow', ho, hr, ht, hd, hl, hc, hm, hf, bind,
      Except.bind]
    exact ⟨_, rfl⟩

/-! ### On a shared store -/

/-- An executor that works on a shared store, on channels that have nothing
to do with the alerts in it. -/
structure Shares (e : Executor ω) (shared : SharedStore ω) : Prop where
  store : e.store = some shared.store
  send : ∀ outlet ∈ e.outlets, ∀ clock n w,
    (outlet.send clock n).Ends w fun _ w' => shared.alerts w' = shared.alerts w

variable {e : Executor ω} {shared : SharedStore ω}

theorem Shares.findLeaves (h : e.Shares shared) : e.FindLeaves shared.alerts := by
  intro store hstore organizationId fingerprint
  rw [h.store] at hstore
  cases hstore
  exact shared.find_alerts organizationId fingerprint _

theorem Shares.search_ends (h : e.Shares shared) (s : Submission) (d : Desk ω) :
    (e.search s).Ends d fun _ d' => shared.alerts d'.world = shared.alerts d.world := by
  refine Leaves.bind (.ofExcept _) (fun context => .bind (.ofExcept _) fun fingerprint =>
    .bind (findOpen_leaves h.findLeaves _ fingerprint) fun existing => ?_) d
  split
  · exact .bind (.ofExcept _) fun _ => .bind (.record _ _) fun _ => .pure none
  · exact .pure _

def RefusalLeaves (shared : SharedStore ω) (view : ω → β) : Prop :=
  ∀ a w, (shared.alerts w).any (·.isOpenKey a.key) = true →
    (shared.store.create a).Ends w fun _ w' => view w' = view w

theorem refusalLeaves_alerts (shared : SharedStore ω) : RefusalLeaves shared shared.alerts :=
  fun a w hopen => (shared.create_refuses a w hopen).mono fun _ _ h => h.2

theorem Shares.persist_refuses {view : ω → β} (h : e.Shares shared)
    (hrefuse : RefusalLeaves shared view) (ruleId fingerprint : String) {a : Alert} {d : Desk ω}
    (hopen : (shared.alerts d.world).any (·.isOpenKey a.key) = true) :
    (e.persist (.text ruleId) (.text fingerprint) a).Ends d fun outcome d' =>
      outcome = .ok .duplicate ∧ view d'.world = view d.world ∧ d'.pool = d.pool := by
  simp only [persist, h.store]
  refine .bind_attempt (Desk.outside_ends
    ((shared.create_refuses a d.world hopen).and (hrefuse a d.world hopen))) ?_
  rintro created d' ⟨⟨⟨rfl, -⟩, hview⟩, hpool⟩
  exact .bind_written rfl (.bind_record (.pure ⟨rfl, hview, hpool⟩))

theorem Shares.persist_inserts (h : e.Shares shared) (ruleId fingerprint : String) {a : Alert}
    {d : Desk ω} (hnone : (shared.alerts d.world).any (·.isOpenKey a.key) = false) :
    (e.persist (.text ruleId) (.text fingerprint) a).Ends d fun outcome d' =>
      ∃ id, outcome = .ok (.saved id) ∧
        shared.alerts d'.world = shared.alerts d.world ++ [⟨id, a, a.status.name⟩] := by
  simp only [persist, h.store]
  refine .bind_attempt (Desk.outside_ends (shared.create_inserts a d.world hnone)) ?_
  rintro created d' ⟨⟨id, rfl, hd'⟩, -⟩
  exact .bind_written rfl (.bind_record (.pure ⟨id, rfl, hd'⟩))

/-- A new alert fails, is refused, or is put behind the others. -/
theorem Shares.create_ends (h : e.Shares shared) (clock : Clock) (s : Submission)
    (organizationId fingerprint : Value) (d : Desk ω) :
    (e.create clock s organizationId fingerprint).Ends d fun outcome d' =>
      (((∃ fault, outcome = .error fault) ∨ outcome = .ok none) ∧
        shared.alerts d'.world = shared.alerts d.world) ∨
      ∃ a id, outcome = .ok (some (a, some id)) ∧
        (shared.alerts d.world).any (·.isOpenKey a.key) = false ∧
        shared.alerts d'.world = shared.alerts d.world ++ [⟨id, a, a.status.name⟩] := by
  refine .bind_ofExcept (fun a ha => ?_) fun fault _ => .inl ⟨.inl ⟨fault, rfl⟩, rfl⟩
  obtain ⟨-, hrule, hfingerprint, -⟩ := buildAlert_eq_ok ha
  rw [hrule, hfingerprint]
  cases hopen : (shared.alerts d.world).any (·.isOpenKey a.key) with
  | true =>
      refine .bind_ok (h.persist_refuses (refusalLeaves_alerts shared) _ _ hopen) ?_
      rintro d' ⟨hd', -⟩
      exact .pure (.inl ⟨.inr rfl, hd'⟩)
  | false =>
      refine .bind (h.persist_inserts _ _ hopen) ?_ ?_
      · rintro persisted d' ⟨id, heq, hd'⟩
        cases heq
        exact .pure (.inr ⟨a, id, rfl, hopen, hd'⟩)
      · rintro fault d' ⟨id, heq, -⟩
        cases heq

theorem Shares.announce_ends (h : e.Shares shared) (clock : Clock) (s : Submission) (a : Alert)
    (alertId : Option String) (d : Desk ω) :
    (e.announce clock s a alertId).Ends d fun _ d' =>
      shared.alerts d'.world = shared.alerts d.world :=
  announce_leaves h.send clock s a alertId d

end Executor

end AlertRules
