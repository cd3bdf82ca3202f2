import AlertRules.Proofs.Execution.Stages
import AlertRules.Proofs.Schema.Checked

/-!
Results that are settled.

After an executor has worked on a result, the store can do without a
second time: either it has an alert that the look-up finds, or one that
keeps the same alert from being created again, or the alert is one that
cannot be built at all (`Executor.Absorbs`). It stays so as long as the
alerts stay and keep their states, whatever is added, and then to work on
the result again comes to nothing.

This takes a store that does not fail and whose alerts have ids. Which
states the look-up is configured for does not matter.
-/

namespace AlertRules

open AlertRules.Action

/-! ### Reliable stores -/

/-- Whether an alert is what a look-up in some states is for. -/
def StoredAlert.isSought (organizationId fingerprint statuses : Value) (a : StoredAlert) : Bool :=
  organizationId.isText a.alert.organizationId && fingerprint.isText a.alert.fingerprint &&
    (statuses.holds a.status).toOption.getD false

/-- Every alert has an id. -/
def Named (alerts : List StoredAlert) : Prop := ∀ a ∈ alerts, a.id ≠ ""

/-- What executors do to alerts: they add some, with ids. -/
def Grows (alerts alerts' : List StoredAlert) : Prop :=
  alerts ⊆ alerts' ∧ (Named alerts → Named alerts')

theorem Grows.refl (alerts : List StoredAlert) : Grows alerts alerts :=
  ⟨List.Subset.refl alerts, id⟩

theorem Grows.of_eq {alerts alerts' : List StoredAlert} (h : alerts' = alerts) :
    Grows alerts alerts' :=
  h ▸ Grows.refl alerts

theorem Grows.trans {first second third : List StoredAlert} (h : Grows first second)
    (h' : Grows second third) : Grows first third :=
  ⟨List.Subset.trans h.1 h'.1, h'.2 ∘ h.2⟩

theorem Grows.append {alerts : List StoredAlert} {a : StoredAlert} (h : a.id ≠ "") :
    Grows alerts (alerts ++ [a]) := by
  refine ⟨List.subset_append_left alerts [a], fun hnamed b hb => ?_⟩
  rcases List.mem_append.mp hb with hb | hb
  · exact hnamed b hb
  · rw [List.mem_singleton.mp hb]
    exact h

theorem any_of_subset {α : Type} {p : α → Bool} {xs ys : List α} (h : xs ⊆ ys)
    (hany : xs.any p = true) : ys.any p = true := by
  obtain ⟨x, hx, hp⟩ := List.any_eq_true.mp hany
  exact List.any_eq_true.mpr ⟨x, h hx, hp⟩

namespace Executor

variable {ω β : Type}

/-- An executor whose store does not fail. A look-up finds an alert if there
is one that it is for, and new alerts have ids. -/
structure Reliable (e : Executor ω) (shared : SharedStore ω) : Prop extends e.Shares shared where
  find : ∀ organizationId fingerprint w,
    (shared.store.findOpen organizationId fingerprint e.configuration.openAlertStatuses).Ends w
      fun outcome _ =>
        (outcome = .ok none ∧ (shared.alerts w).any
            (·.isSought organizationId fingerprint e.configuration.openAlertStatuses) = false) ∨
        ∃ a ∈ shared.alerts w,
          a.isSought organizationId fingerprint e.configuration.openAlertStatuses = true ∧
            outcome = .ok (some a.id)
  named : ∀ a w, (shared.store.create a).Ends w fun outcome _ => outcome ≠ .ok (some "")

variable {e : Executor ω} {shared : SharedStore ω} {clock : Clock} {alerts : List StoredAlert}

/-! ### Settled submissions -/

/-- There is nothing left to do about a submission. -/
def Absorbs (e : Executor ω) (alerts : List StoredAlert) (s : Submission) : Prop :=
  ∀ context fingerprint, s.context? = .ok context → s.fingerprint = .ok fingerprint →
    alerts.any (·.isSought (e.organizationOf context) fingerprint
        e.configuration.openAlertStatuses) = true ∨
      ∀ clock a, e.buildAlert clock s (e.organizationOf context) fingerprint = .ok a →
        alerts.any (·.isOpenKey a.key) = true

theorem Absorbs.mono {alerts alerts' : List StoredAlert} {s : Submission}
    (h : e.Absorbs alerts s) (hsub : alerts ⊆ alerts') : e.Absorbs alerts' s := by
  intro context fingerprint hcontext hfingerprint
  refine (h context fingerprint hcontext hfingerprint).imp (any_of_subset hsub) ?_
  exact fun hbuilt clock a ha => any_of_subset hsub (hbuilt clock a ha)

/-- A look-up never fails and leaves the alerts alone; it finds an alert if
there is one that it is for. -/
theorem Reliable.findOpen_finds {view : ω → β} (h : e.Reliable shared) (hfind : e.FindLeaves view)
    (organizationId fingerprint : Value) (d : Desk ω) :
    (e.findOpen organizationId fingerprint).Ends d fun outcome d' =>
      ∃ existing, outcome = .ok existing ∧ view d'.world = view d.world ∧
        shared.alerts d'.world = shared.alerts d.world ∧ d'.pool = d.pool ∧
        ((existing = none ∧ (shared.alerts d.world).any
            (·.isSought organizationId fingerprint e.configuration.openAlertStatuses) = false) ∨
        ∃ a ∈ shared.alerts d.world,
          a.isSought organizationId fingerprint e.configuration.openAlertStatuses = true ∧
            existing = some a.id) := by
  simp only [findOpen, h.store]
  have hleaves := (hfind _ h.store organizationId fingerprint d.world).and
    (shared.find_alerts organizationId fingerprint _ d.world)
  refine .bind_attempt (Desk.outside_ends
    (hleaves.and (h.find organizationId fingerprint d.world))) ?_
  rintro found d' ⟨⟨⟨hview, halerts⟩, hfound⟩, hpool⟩
  rcases hfound with ⟨rfl, hnone⟩ | ⟨a, ha, hsought, rfl⟩
  · exact .pure ⟨none, rfl, hview, halerts, hpool, .inl ⟨rfl, hnone⟩⟩
  · exact .pure ⟨some a.id, rfl, hview, halerts, hpool, .inr ⟨a, ha, hsought, rfl⟩⟩

theorem key_of_buildAlert {clock' : Clock} {s : Submission} {organizationId fingerprint : Value}
    {a a' : Alert} (h : e.buildAlert clock s organizationId fingerprint = .ok a)
    (h' : e.buildAlert clock' s organizationId fingerprint = .ok a') : a'.key = a.key := by
  obtain ⟨ho, -, hf, -⟩ := buildAlert_eq_ok h
  obtain ⟨ho', -, hf', -⟩ := buildAlert_eq_ok h'
  exact Prod.ext (Value.text.inj (ho'.symm.trans ho)) (Value.text.inj (hf'.symm.trans hf))

theorem isOpenKey_inserted {a : Alert} (h : a.status = .active) (id : String) :
    StoredAlert.isOpenKey a.key ⟨id, a, a.status.name⟩ = true := by
  have hactive : AlertStatus.openNames.contains AlertStatus.active.name = true := by decide
  simp only [StoredAlert.isOpenKey, StoredAlert.isKey, StoredAlert.isOf, Alert.key,
    StoredAlert.isOpen, h, hactive, beq_self_eq_true, Bool.and_self]

/-- After an attempt to save an alert one of its kind is open, whoever
inserted it. -/
theorem Reliable.persist_opens (h : e.Reliable shared) (ruleId fingerprint : String) {a : Alert}
    (hactive : a.status = .active) (d : Desk ω) :
    (e.persist (.text ruleId) (.text fingerprint) a).Ends d fun outcome d' =>
      ∃ persisted, outcome = .ok persisted ∧
        Grows (shared.alerts d.world) (shared.alerts d'.world) ∧
        (shared.alerts d'.world).any (·.isOpenKey a.key) = true := by
  cases hopen : (shared.alerts d.world).any (·.isOpenKey a.key) with
  | true =>
      refine (h.persist_refuses (refusalLeaves_alerts shared) ruleId fingerprint hopen).mono ?_
      rintro outcome d' ⟨rfl, hd', -⟩
      exact ⟨_, rfl, .of_eq hd', hd' ▸ hopen⟩
  | false =>
      simp only [persist, h.store]
      refine .bind_attempt (Desk.outside_ends
        ((shared.create_inserts a d.world hopen).and (h.named a d.world))) ?_
      rintro created d' ⟨⟨⟨id, rfl, hd'⟩, hnamed⟩, -⟩
      refine .bind_written rfl (.bind_record (.pure ⟨_, rfl, ?_, ?_⟩))
      · rw [hd']
        exact Grows.append fun hid => hnamed (by rw [← hid])
      · rw [hd', List.any_append]
        simp [isOpenKey_inserted hactive]

theorem absorbs_of {s : Submission} {context : Option EvaluationContext} {fingerprint : Value}
    (hcontext : s.context? = .ok context) (hfingerprint : s.fingerprint = .ok fingerprint)
    (h : alerts.any (·.isSought (e.organizationOf context) fingerprint
        e.configuration.openAlertStatuses) = true ∨
      ∀ clock a, e.buildAlert clock s (e.organizationOf context) fingerprint = .ok a →
        alerts.any (·.isOpenKey a.key) = true) : e.Absorbs alerts s := by
  intro context' fingerprint' hcontext' hfingerprint'
  rw [hcontext] at hcontext'
  rw [hfingerprint] at hfingerprint'
  cases hcontext'
  cases hfingerprint'
  exact h

theorem Reliable.executeOne_settles (h : e.Reliable shared) (clock : Clock) (s : Submission)
    (d : Desk ω) :
    (e.executeOne clock s).Ends d fun _ d' =>
      Grows (shared.alerts d.world) (shared.alerts d'.world) ∧
        ∀ now, clock.now = .ok now → e.Absorbs (shared.alerts d'.world) s := by
  refine .bind_ofExcept (fun context hcontext => ?_) fun fault hfault => ⟨.refl _, fun _ _ => ?_⟩
  rotate_left
  · intro context fingerprint hcontext
    rw [hfault] at hcontext
    cases hcontext
  refine .bind_ofExcept (fun fingerprint hfingerprint => ?_) fun fault hfault =>
    ⟨.refl _, fun _ _ => ?_⟩
  rotate_left
  · intro context fingerprint _ hfingerprint
    rw [hfault] at hfingerprint
    cases hfingerprint
  refine .bind_returns (h.findOpen_finds h.findLeaves _ fingerprint d) ?_
  rintro existing d₁ ⟨-, hd₁, -, hfound⟩
  split
  next hexisting =>
      have habsorbs : e.Absorbs (shared.alerts d₁.world) s := by
        refine absorbs_of hcontext hfingerprint (.inl ?_)
        rcases hfound with ⟨rfl, -⟩ | ⟨a, ha, hsought, -⟩
        · exact absurd hexisting (by decide)
        · rw [hd₁]
          exact List.any_eq_true.mpr ⟨a, ha, hsought⟩
      refine .bind_ofExcept (fun name _ => ?_) fun fault _ => ⟨.of_eq hd₁, fun _ _ => habsorbs⟩
      exact .bind_record (.pure ⟨.of_eq hd₁, fun _ _ => habsorbs⟩)
  next =>
      refine .bind_ofExcept (fun a ha => ?_) fun fault hfault => ⟨.of_eq hd₁, fun now hnow => ?_⟩
      rotate_left
      · -- an alert that could be built at another time could be built now
        refine absorbs_of hcontext hfingerprint (.inr fun clock' a' ha' => ?_)
        obtain ⟨a, ha⟩ := (buildAlert_eq_ok ha').2.2.2.2 hnow
        rw [hfault] at ha
        cases ha
      -- the open alert is of the kind that a later alert would be
      have hsettled : ∀ {d' : Desk ω}, (shared.alerts d'.world).any (·.isOpenKey a.key) = true →
          e.Absorbs (shared.alerts d'.world) s := by
        intro d' hopen
        refine absorbs_of hcontext hfingerprint (.inr fun clock' a' ha' => ?_)
        rw [key_of_buildAlert ha ha']
        exact hopen
      obtain ⟨-, hrule, hprint, hactive, -⟩ := buildAlert_eq_ok ha
      rw [hrule, hprint]
      refine .bind_returns (h.persist_opens _ _ hactive d₁) ?_
      rintro persisted d₂ ⟨hgrows, hopen⟩
      rw [hd₁] at hgrows
      have hannounce : ∀ alertId : Option String, (do
          e.announce clock s a alertId
          pure alertId : Action (Desk ω) (Option String)).Ends d₂ fun _ d' =>
            Grows (shared.alerts d.world) (shared.alerts d'.world) ∧
              ∀ now, clock.now = .ok now → e.Absorbs (shared.alerts d'.world) s := by
        intro alertId
        refine .bind (h.announce_ends clock s a alertId d₂) (fun _ d₃ hd₃ => .pure ?_) ?_
        · exact ⟨hgrows.trans (.of_eq hd₃), fun _ _ => hsettled (hd₃ ▸ hopen)⟩
        · exact fun _ d₃ hd₃ => ⟨hgrows.trans (.of_eq hd₃), fun _ _ => hsettled (hd₃ ▸ hopen)⟩
      cases persisted with
      | duplicate => exact .pure ⟨hgrows, fun _ _ => hsettled hopen⟩
      | unsaved => exact hannounce none
      | saved id => exact hannounce (some id)

/-- Work on several submissions never fails, and settles all of them: induction
on the submissions, those that were settled staying so. -/
theorem Reliable.execute_settles (h : e.Reliable shared) (clock : Clock)
    {submissions : List Submission} (hrules : ∀ s ∈ submissions, s.ruleId.hasText = true)
    (d : Desk ω) :
    (e.execute clock submissions).Ends d fun outcome d' =>
      ∃ ids, outcome = .ok ids ∧ Grows (shared.alerts d.world) (shared.alerts d'.world) ∧
        ∀ now, clock.now = .ok now → ∀ s ∈ submissions, s.triggered.truthy = true →
          s.actions.isAbsent = false → e.Absorbs (shared.alerts d'.world) s := by
  induction submissions generalizing d with
  | nil => exact .pure ⟨[], rfl, .refl _, fun _ _ _ hs => absurd hs List.not_mem_nil⟩
  | cons s rest ih =>
      obtain ⟨hrule, hrules⟩ := List.forall_mem_cons.mp hrules
      have ih := ih hrules
      unfold execute
      split
      next hskipped =>
          refine (ih d).mono ?_
          rintro outcome d' ⟨ids, houtcome, hgrows, hrest⟩
          refine ⟨ids, houtcome, hgrows, fun now hnow => ?_⟩
          refine List.forall_mem_cons.mpr ⟨fun htriggered hactions => ?_, hrest now hnow⟩
          simp [htriggered, hactions] at hskipped
      next =>
          refine .bind_attempt (h.executeOne_settles clock s d) ?_
          rintro outcome d₁ ⟨hgrows₁, hsettled⟩
          have hrest : (e.execute clock rest).Ends d₁ fun outcome d₂ =>
              ∃ ids, outcome = .ok ids ∧ Grows (shared.alerts d.world) (shared.alerts d₂.world) ∧
                ∀ now, clock.now = .ok now → ∀ s' ∈ s :: rest, s'.triggered.truthy = true →
                  s'.actions.isAbsent = false → e.Absorbs (shared.alerts d₂.world) s' := by
            refine (ih d₁).mono ?_
            rintro outcome d₂ ⟨ids, houtcome, hgrows₂, hrest⟩
            refine ⟨ids, houtcome, hgrows₁.trans hgrows₂, fun now hnow => ?_⟩
            refine List.forall_mem_cons.mpr ⟨fun _ _ => ?_, hrest now hnow⟩
            exact (hsettled now hnow).mono hgrows₂.1
          cases outcome with
          | ok id => exact .bind_returns hrest fun ids d₂ hd₂ => .pure ⟨_, rfl, hd₂⟩
          | error fault => exact .bind_written hrule (.bind_record hrest)

/-! ### Working again -/

variable {view : ω → β}

/-- Work on a settled submission comes to a look-up and, at most, to a refused
alert. -/
theorem Reliable.executeOne_absorbed (h : e.Reliable shared) (hfind : e.FindLeaves view)
    (hrefuse : RefusalLeaves shared view) (clock : Clock) {s : Submission} {d : Desk ω}
    (hnamed : Named (shared.alerts d.world)) (habsorbs : e.Absorbs (shared.alerts d.world) s) :
    (e.executeOne clock s).Ends d fun outcome d' =>
      (∀ id, outcome = .ok id → id = none) ∧ view d'.world = view d.world ∧ d'.pool = d.pool := by
  refine .bind_ofExcept (fun context hcontext => ?_) fun fault _ => ⟨nofun, rfl, rfl⟩
  refine .bind_ofExcept (fun fingerprint hfingerprint => ?_) fun fault _ => ⟨nofun, rfl, rfl⟩
  refine .bind_returns (h.findOpen_finds hfind _ fingerprint d) ?_
  rintro existing d₁ ⟨hview₁, halerts₁, hpool₁, hfound⟩
  split
  next =>
      refine .bind_ofExcept (fun name _ => ?_) fun fault _ => ⟨nofun, hview₁, hpool₁⟩
      exact .bind_record (.pure ⟨fun id hid => by cases hid; rfl, hview₁, hpool₁⟩)
  next hexisting =>
      refine .bind_ofExcept (fun a ha => ?_) fun fault _ => ⟨nofun, hview₁, hpool₁⟩
      have hopen : (shared.alerts d₁.world).any (·.isOpenKey a.key) = true := by
        rw [halerts₁]
        refine (habsorbs context fingerprint hcontext hfingerprint).elim (fun hsought => ?_)
          fun hbuilt => hbuilt clock a ha
        -- an alert that is sought is found, and has an id
        rcases hfound with ⟨-, hnone⟩ | ⟨b, hb, -, rfl⟩
        · rw [hsought] at hnone
          cases hnone
        · exact absurd (hnamed b hb) (by simpa using hexisting)
      obtain ⟨-, hrule, hprint, -⟩ := buildAlert_eq_ok ha
      rw [hrule, hprint]
      refine .bind_ok (h.persist_refuses hrefuse _ _ hopen) ?_
      rintro d₂ ⟨hview₂, hpool₂⟩
      exact .pure ⟨fun id hid => by cases hid; rfl, hview₂.trans hview₁, hpool₂.trans hpool₁⟩

/-- Work on settled submissions creates no alert and announces none. -/
theorem Reliable.execute_absorbed (h : e.Reliable shared) (hfind : e.FindLeaves view)
    (hrefuse : RefusalLeaves shared view) (clock : Clock) {submissions : List Submission}
    (hrules : ∀ s ∈ submissions, s.ruleId.hasText = true) {d : Desk ω}
    (hnamed : Named (shared.alerts d.world))
    (habsorbs : ∀ s ∈ submissions, s.triggered.truthy = true → s.actions.isAbsent = false →
      e.Absorbs (shared.alerts d.world) s) :
    (e.execute clock submissions).Ends d fun outcome d' =>
      outcome = .ok [] ∧ view d'.world = view d.world ∧ d'.pool = d.pool := by
  induction submissions generalizing d with
  | nil => exact .pure ⟨rfl, rfl, rfl⟩
  | cons s rest ih =>
      obtain ⟨hs, hrest⟩ := List.forall_mem_cons.mp habsorbs
      obtain ⟨hrule, hrules⟩ := List.forall_mem_cons.mp hrules
      unfold execute
      split
      next => exact ih hrules hnamed hrest
      next htaken =>
          simp only [Bool.or_eq_true, Bool.not_eq_true', not_or, Bool.not_eq_false,
            Bool.not_eq_true] at htaken
          have habsorbed := hs htaken.1 htaken.2
          refine .bind_attempt ((h.executeOne_absorbed hfind hrefuse clock hnamed habsorbed).and
            (h.executeOne_absorbed h.findLeaves (refusalLeaves_alerts shared) clock hnamed
              habsorbed)) ?_
          rintro outcome d₁ ⟨⟨hnone, hview₁, hpool₁⟩, -, halerts₁, -⟩
          have hlater := ih hrules (d := d₁) (halerts₁ ▸ hnamed) (halerts₁ ▸ hrest)
          rw [hview₁, hpool₁] at hlater
          cases outcome with
          | ok id =>
              cases hnone id rfl
              exact .bind_ok hlater fun d₂ hd₂ => .pure ⟨rfl, hd₂⟩
          | error fault => exact .bind_written hrule (.bind_record hlater)

/-! ### The store in memory -/

theorem find_sought {organizationId fingerprint statuses : Value}
    (hstatuses : ∀ status, ∃ held, statuses.holds status = .ok held) (alerts : List StoredAlert) :
    (Memory.find organizationId fingerprint statuses alerts = .ok none ∧
        alerts.any (·.isSought organizationId fingerprint statuses) = false) ∨
      ∃ a ∈ alerts, a.isSought organizationId fingerprint statuses = true ∧
        Memory.find organizationId fingerprint statuses alerts = .ok (some a.id) := by
  induction alerts with
  | nil => exact .inl ⟨rfl, rfl⟩
  | cons a rest ih =>
      obtain ⟨held, hheld⟩ := hstatuses a.status
      have hlater : a.isSought organizationId fingerprint statuses = false →
          Memory.find organizationId fingerprint statuses (a :: rest) =
            Memory.find organizationId fingerprint statuses rest →
          (Memory.find organizationId fingerprint statuses (a :: rest) = .ok none ∧
              (a :: rest).any (·.isSought organizationId fingerprint statuses) = false) ∨
            ∃ b ∈ a :: rest, b.isSought organizationId fingerprint statuses = true ∧
              Memory.find organizationId fingerprint statuses (a :: rest) = .ok (some b.id) := by
        intro hnot hfind
        rw [hfind, List.any_cons, hnot, Bool.false_or]
        refine ih.imp_right ?_
        rintro ⟨b, hb, hsought, hfound⟩
        exact ⟨b, List.mem_cons_of_mem a hb, hsought, hfound⟩
      cases hmatch : organizationId.isText a.alert.organizationId &&
          fingerprint.isText a.alert.fingerprint with
      | false =>
          refine hlater ?_ ?_
          · rw [StoredAlert.isSought, hmatch, Bool.false_and]
          · rw [Memory.find, hmatch, if_neg Bool.false_ne_true]
      | true =>
          have hfirst : a.isSought organizationId fingerprint statuses = held := by
            rw [StoredAlert.isSought, hmatch, hheld, Bool.true_and]
            rfl
          cases held with
          | false =>
              refine hlater hfirst ?_
              rw [Memory.find, hmatch, if_pos rfl, hheld]
              rfl
          | true =>
              refine .inr ⟨a, by simp, hfirst, ?_⟩
              rw [Memory.find, hmatch, if_pos rfl, hheld]
              rfl

/-- An executor with nothing but the store in memory is reliable if the states
that it looks for can be told. -/
theorem reliable_ledger {e : Executor (List StoredAlert)} (h : e.Shares ledger)
    (hstatuses : ∀ status, ∃ held, e.configuration.openAlertStatuses.holds status = .ok held) :
    e.Reliable ledger where
  toShares := h
  find organizationId fingerprint alerts := by
    refine .within (.bind_modify (.bind_get (.ofExcept ?_)))
    exact find_sought hstatuses alerts
  named a alerts := by
    refine .within (.bind_get ?_)
    dsimp only
    cases hinsert : Memory.insert { alerts } a with
    | none => exact .pure nofun
    | some inserted =>
        obtain ⟨id, m⟩ := inserted
        refine .bind_set (.pure fun heq => ?_)
        cases heq
        unfold Memory.insert at hinsert
        split at hinsert
        · cases hinsert
        · obtain ⟨hid, -⟩ := Prod.mk.inj (Option.some.inj hinsert)
          exact absurd hid (by simp [Memory.nextId])

end Executor

end AlertRules
