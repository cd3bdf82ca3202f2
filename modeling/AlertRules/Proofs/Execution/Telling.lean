import AlertRules.Proofs.Execution.Courses
import AlertRules.Proofs.Execution.Stages

/-!
What is told of a submission.

Whatever notification an executor sends, or hands to the pool to be sent
later, is made of a submission by way of its alert (`Executor.Announces`).
Nothing else is told on any channel (`Executor.execute_tells`). So it is known
what a notification says: the message is that of the submission, the title is
its title cut to what the store takes, or its message if the title is empty,
and the link is that of the actions.
-/

namespace AlertRules

open AlertRules.Action

/-- Whatever was sent is of a kind, and so is whatever was handed to the pool after
the first jobs. -/
structure Desk.Tells {ω : Type} (p : Notification → Prop) (first : List Job)
    (d : Desk (Watched ω)) : Prop where
  sent : ∀ name n, .sent name n ∈ d.world.deeds → p n
  later : ∃ more, d.pool.jobs = first ++ more ∧ ∀ name n, .deliver name n ∈ more → p n

namespace Executor

variable {ω : Type} {e : Executor ω} {clock : Clock} {s : Submission}

/-- The notification is made of the submission. -/
def Announces (e : Executor ω) (clock : Clock) (s : Submission) (n : Notification) : Prop :=
  ∃ organizationId fingerprint a actions alertId,
    e.buildAlert clock s organizationId fingerprint = .ok a ∧ s.actions = .held actions ∧
      buildNotification clock actions a alertId = .ok n

/-! ### What a notification says -/

variable {n : Notification}

theorem orElse_text (s : String) (v : Value) :
    (Value.text s).orElse v = if s.isEmpty then v else .text s := by
  by_cases hempty : s.isEmpty = true <;> simp [Value.orElse, Value.truthy, hempty]

/-- An alert has the message of its submission, and its title cut to what the store
takes. -/
theorem buildAlert_says {organizationId fingerprint : Value} {a : Alert}
    (h : e.buildAlert clock s organizationId fingerprint = .ok a) {title message : String}
    (htitle : s.alertTitle = .text title) (hmessage : s.message = .text message) :
    a.description = message ∧
      a.title = Markup.truncate Alert.titleLimit (if title.isEmpty then message else title) := by
  have hnoted : s.message.orElse (.text "") = .text message := by
    rw [hmessage, orElse_text]
    split
    next hempty => rw [String.isEmpty_iff.mp hempty]
    next => rfl
  have hnamed : s.alertTitle.orElse (.text message) =
      .text (if title.isEmpty then message else title) := by
    rw [htitle, orElse_text]
    split <;> rfl
  unfold buildAlert at h
  obtain ⟨context, -, h⟩ := exists_of_bind_eq_ok h
  obtain ⟨cut, hcut, h⟩ := exists_of_bind_eq_ok h
  obtain ⟨metadata, -, h⟩ := exists_of_bind_eq_ok h
  obtain ⟨now, -, h⟩ := exists_of_bind_eq_ok h
  rw [hnoted, hnamed] at hcut
  cases hcut
  rw [Schema.Checked.toExcept_eq_ok] at h
  simp only [Schema.Checked.seq_eq_ok, Schema.Checked.map_eq_ok] at h
  -- the checks of the fields, from the last to the first
  obtain ⟨_, _, ⟨_, _, ⟨_, _, ⟨_, _, ⟨_, description, ⟨_, name, ⟨_, _, ⟨_, -, rfl⟩, -, rfl⟩,
    hname, rfl⟩, hdescription, rfl⟩, -, rfl⟩, -, rfl⟩, -, rfl⟩, -, rfl⟩ := h
  rw [hnoted] at hdescription
  refine ⟨?_, ?_⟩
  · exact (Value.text.inj (Schema.text_eq_ok.mp (Schema.Checked.under_eq_ok.mp hdescription))).symm
  · exact (Value.text.inj
      (Schema.eq_text_of_boundedText (Schema.Checked.under_eq_ok.mp hname))).symm

/-- A notification has the title and the message of its alert, and the link of the
actions. -/
theorem buildNotification_says {actions : RuleActions} {a : Alert} {alertId : Option String}
    (h : buildNotification clock actions a alertId = .ok n) :
    n.title = a.title ∧ n.message = a.description ∧ actions.link = Value.ofText? n.link := by
  obtain ⟨now, -, h⟩ := exists_of_bind_eq_ok h
  obtain ⟨link, hlink, h⟩ := exists_of_bind_eq_ok h
  cases h
  refine ⟨rfl, rfl, ?_⟩
  rw [Schema.Checked.toExcept_eq_ok, field, Schema.Checked.under_eq_ok,
    Schema.nullable_eq_ok (c := Schema.text) nofun] at hlink
  cases link with
  | none => exact hlink
  | some s => exact Schema.text_eq_ok.mp hlink

/-- A notification has the message of its submission and its title, or its message
again if the title is empty, cut to what the store takes. -/
theorem Announces.says (h : e.Announces clock s n) {title message : String} {actions : RuleActions}
    (htitle : s.alertTitle = .text title) (hmessage : s.message = .text message)
    (hactions : s.actions = .held actions) :
    n.message = message ∧
      n.title = Markup.truncate Alert.titleLimit (if title.isEmpty then message else title) ∧
      actions.link = Value.ofText? n.link := by
  obtain ⟨organizationId, fingerprint, a, held, alertId, ha, hheld, hn⟩ := h
  rw [hheld] at hactions
  cases hactions
  obtain ⟨hdescription, hname⟩ := buildAlert_says ha htitle hmessage
  obtain ⟨hntitle, hnmessage, hlink⟩ := buildNotification_says hn
  exact ⟨hnmessage.trans hdescription, hntitle.trans hname, hlink⟩

/-! ### What is told -/

variable {p : Notification → Prop} {first : List Job} {d d' : Desk (Watched ω)}

theorem tells_quiet (hd : d.Tells p first) (hdeeds : d'.world.deeds = d.world.deeds)
    (hpool : d'.pool = d.pool) : d'.Tells p first :=
  ⟨hdeeds ▸ hd.sent, hpool ▸ hd.later⟩

/-- Sends of one kind keep to it, made at once or left for later. -/
theorem Sent.tells {sends : Sends} (h : e.Sent sends d d') (hd : d.Tells p first)
    (hsends : ∀ name n, (name, n) ∈ sends → p n) : d'.Tells p first := by
  obtain ⟨more, hjobs, hmore⟩ := hd.later
  have hdeeds := h.deeds
  have hpool := h.pool
  split at hdeeds
  next hinline =>
      rw [if_pos hinline, List.append_nil] at hpool
      refine ⟨fun name n hsent => ?_, more, by rw [hpool]; exact hjobs, hmore⟩
      rw [hdeeds, List.mem_append] at hsent
      rcases hsent with hsent | hsent
      · exact hd.sent name n hsent
      · obtain ⟨⟨_, _⟩, hsend, ⟨⟩⟩ := List.mem_map.mp hsent
        exact hsends name n hsend
  next hlater =>
      rw [if_neg hlater] at hpool
      rw [List.append_nil] at hdeeds
      refine ⟨hdeeds ▸ hd.sent, more ++ sends.jobs, ?_, fun name n hjob => ?_⟩
      · rw [hpool, hjobs, List.append_assoc]
      · rcases List.mem_append.mp hjob with hjob | hjob
        · exact hmore name n hjob
        · obtain ⟨⟨_, _⟩, hsend, ⟨⟩⟩ := List.mem_map.mp hjob
          exact hsends name n hsend

theorem announce_tells {ruleId : String} (hrule : s.ruleId = .text ruleId) {a : Alert}
    {alertId : Option String} (h : ∀ actions n, s.actions = .held actions →
      buildNotification clock actions a alertId = .ok n → p n) :
    (e.watched.announce clock s a alertId).Keeps (Desk.Tells p first) := by
  unfold announce
  rw [hrule]
  cases hactions : s.actions with
  | absent => exact .throw _
  | foreign => exact .throw _
  | held actions =>
      refine .bind_ofExcept fun n hn d hd => ?_
      refine (e.announceAll_ends clock ruleId actions n _ d).mono ?_
      rintro _ d' ⟨-, hsent⟩
      refine hsent.tells hd fun name n' hsend => ?_
      obtain ⟨_, -, ⟨⟩⟩ := List.mem_map.mp hsend
      exact h actions n hactions hn

theorem findKeeps_tells : e.watched.FindKeeps (Desk.Tells p first) := by
  intro store hstore organizationId fingerprint d hd
  obtain ⟨_, -, rfl⟩ := Option.map_eq_some_iff.mp hstore
  exact fun log => tells_quiet hd rfl rfl

/-- All that is told of a submission is notifications made of it. -/
theorem executeOne_tells (h : ∀ n, e.Announces clock s n → p n) :
    (e.watched.executeOne clock s).Keeps (Desk.Tells p first) := by
  refine .bind_ofExcept fun context _ => .bind_ofExcept fun fingerprint _ => ?_
  refine .bind (findOpen_keeps findKeeps_tells _ fingerprint) fun existing => ?_
  split
  · exact .bind (.ofExcept _) fun _ => .bind (.record _ _) fun _ => .pure _
  · refine .bind_ofExcept fun a ha => ?_
    obtain ⟨-, hrule, hfingerprint, -⟩ := buildAlert_eq_ok ha
    have hannounce : ∀ alertId,
        (e.watched.announce clock s a alertId).Keeps (Desk.Tells p first) := fun alertId =>
      announce_tells hrule fun actions n hactions hn =>
        h n ⟨_, fingerprint, a, actions, alertId, ha, hactions, hn⟩
    rw [hrule, hfingerprint]
    refine .bind ?_ fun persisted => ?_
    · intro d hd
      refine (e.persist_ends _ _ a d).mono ?_
      rintro _ d' ⟨created, -, hdeeds, hpool⟩
      refine ⟨fun name n hsent => ?_, hpool ▸ hd.later⟩
      rw [hdeeds, List.mem_append] at hsent
      rcases hsent with hsent | hsent
      · exact hd.sent name n hsent
      · cases created <;> simp at hsent
    · cases persisted with
      | duplicate => exact .pure none
      | unsaved => exact .bind (hannounce none) fun _ => .pure none
      | saved id => exact .bind (hannounce (some id)) fun _ => .pure (some id)

/-- All that is told of submissions is notifications made of them. -/
theorem execute_tells {submissions : List Submission}
    (h : ∀ s ∈ submissions, ∀ n, e.Announces clock s n → p n) :
    (e.watched.execute clock submissions).Keeps (Desk.Tells p first) := by
  induction submissions with
  | nil => exact .pure []
  | cons s rest ih =>
      obtain ⟨hfirst, hrest⟩ := List.forall_mem_cons.mp h
      unfold execute
      split
      · exact ih hrest
      · refine .bind (.attempt (executeOne_tells hfirst)) fun outcome => ?_
        cases outcome with
        | ok id => exact .bind (ih hrest) fun ids => .pure _
        | error fault => exact .bind (.ofExcept _) fun _ => .bind (.record _ _) fun _ => ih hrest

end Executor

end AlertRules
