import AlertRules.Proofs.Evaluation.Identity
import AlertRules.Proofs.Execution.Announcing
import AlertRules.Store.Memory

/-!
What becomes of a result.

The course of a result is what the executor does about it: whether it
asked the store to create an alert and what the store answered, and what
it sent. An id that the store gave is reported and announced on every
channel that the rule reaches, unless the rule has a link that is no
text (`execute_follows`). Such a link stops the notification from being
made, when the alert is in the store already: nobody is told of it, not
even the caller.
-/

namespace AlertRules

/-- Whether the link of actions is one that a notification can have. -/
def RuleActions.hasTextLink (a : RuleActions) : Bool :=
  match a.link with
  | .null | .text _ => true
  | _ => false

/-- What an executor did about a result. -/
structure Course where
  result : EvaluationResult
  created : Option (Alert × Except Fault (Option String)) := none
  sends : Sends := []

namespace Course

/-- What the store answered, unless it failed. -/
def answer (c : Course) : Option String :=
  match c.created with
  | some (_, .ok id) => id
  | _ => none

def id? (c : Course) : Option String := c.answer.filter (· != "")

def reported (c : Course) : Option String :=
  match c.result.actions with
  | some actions => if actions.hasTextLink then c.id? else none
  | none => none

def deeds (inline : Bool) (c : Course) : List Deed :=
  (c.created.map fun (a, outcome) => Deed.created a outcome).toList ++
    if inline then c.sends.deeds else []

def jobs (inline : Bool) (c : Course) : List Job := if inline then [] else c.sends.jobs

/-- A course that an executor may take. An alert that the store created is
announced with its id on every channel that the rule reaches, unless the
link of the rule is no text. Whatever is announced, it is announced so. -/
structure Lawful {ω : Type} (e : Executor ω) (c : Course) : Prop where
  sends : c.sends = [] ∨ ∃ actions, c.result.actions = some actions ∧
    c.sends.map (fun (name, n) => (name, n.alertId)) = (e.targets actions).map (·, c.answer)
  told : ∀ id, c.id? = some id → ∃ actions, c.result.actions = some actions ∧
    c.sends.map (fun (name, n) => (name, n.alertId)) =
      if actions.hasTextLink then (e.targets actions).map (·, some id) else []

end Course

/-- What became of an alert, by what the store answered if it was asked. -/
def Persistence.ofAnswer : Option (Except Fault (Option String)) → Persistence
  | some (.ok (some id)) => .saved id
  | some (.ok none) => .duplicate
  | _ => .unsaved

namespace Executor

variable {ω : Type} {e : Executor ω} {clock : Clock}

/-! ### Building -/

/-- An alert that could be built was stamped, so the clock can be read. -/
theorem now_of_buildAlert {s : Submission} {organizationId fingerprint : Value} {a : Alert}
    (h : e.buildAlert clock s organizationId fingerprint = .ok a) : ∃ now, clock.now = .ok now := by
  unfold buildAlert at h
  obtain ⟨context, -, h⟩ := exists_of_bind_eq_ok h
  obtain ⟨title, -, h⟩ := exists_of_bind_eq_ok h
  obtain ⟨metadata, -, h⟩ := exists_of_bind_eq_ok h
  obtain ⟨now, hnow, -⟩ := exists_of_bind_eq_ok h
  exact ⟨now, hnow⟩

theorem buildNotification_ok {actions : RuleActions} {now : Moment} (hnow : clock.now = .ok now)
    (hlink : actions.hasTextLink) (a : Alert) (alertId : Option String) :
    ∃ n, buildNotification clock actions a alertId = .ok n ∧ n.alertId = alertId := by
  unfold buildNotification
  rw [hnow]
  unfold RuleActions.hasTextLink at hlink
  split at hlink
  next hnull =>
      rw [hnull]
      exact ⟨_, rfl, rfl⟩
  next s htext =>
      rw [htext]
      exact ⟨_, rfl, rfl⟩
  next => cases hlink

theorem buildNotification_error (clock : Clock) {actions : RuleActions}
    (hlink : actions.hasTextLink = false)
    (a : Alert) (alertId : Option String) :
    ∃ fault, buildNotification clock actions a alertId = .error fault := by
  cases hbuilt : buildNotification clock actions a alertId with
  | error fault => exact ⟨fault, rfl⟩
  | ok n =>
      obtain ⟨now, -, h⟩ := exists_of_bind_eq_ok hbuilt
      obtain ⟨link, hchecked, -⟩ := exists_of_bind_eq_ok h
      unfold RuleActions.hasTextLink at hlink
      cases hvalue : actions.link with
      | null | text s =>
          rw [hvalue] at hlink
          cases hlink
      | _ =>
          rw [hvalue] at hchecked
          cases hchecked

/-! ### Steps -/

variable {c : Course} {d d' d'' : Desk (Watched ω)}

theorem findOpen_ends (e : Executor ω) (organizationId : Value) (fingerprint : String)
    (d : Desk (Watched ω)) :
    (e.watched.findOpen organizationId (.text fingerprint)).Ends d fun outcome d' =>
      ∃ id, outcome = .ok id ∧ d'.world.deeds = d.world.deeds ∧ d'.pool = d.pool := by
  cases hstore : e.store with
  | none =>
      simp only [findOpen, watched, hstore, Option.map_none]
      exact .pure ⟨none, rfl, rfl, rfl⟩
  | some store =>
      simp only [findOpen, watched, hstore, Option.map_some]
      have hlook : (Desk.outside (store.watched.findOpen organizationId (.text fingerprint)
          e.configuration.openAlertStatuses)).Ends d fun _ d' =>
            d'.world.deeds = d.world.deeds ∧ d'.pool = d.pool :=
        fun _ => ⟨rfl, rfl⟩
      refine .bind_attempt hlook ?_
      rintro found d' hquiet
      cases found with
      | ok id => exact .pure ⟨id, rfl, hquiet⟩
      | error fault => exact .bind_written rfl (.bind_record (.pure ⟨none, rfl, hquiet⟩))

theorem persist_ends (e : Executor ω) (ruleId fingerprint : String) (a : Alert)
    (d : Desk (Watched ω)) :
    (e.watched.persist (.text ruleId) (.text fingerprint) a).Ends d fun outcome d' =>
      ∃ created, outcome = .ok (Persistence.ofAnswer created) ∧
        d'.world.deeds = d.world.deeds ++ (created.map (Deed.created a)).toList ∧
        d'.pool = d.pool := by
  cases hstore : e.store with
  | none =>
      simp only [persist, watched, hstore, Option.map_none]
      exact .pure ⟨none, rfl, (List.append_nil _).symm, rfl⟩
  | some store =>
      simp only [persist, watched, hstore, Option.map_some]
      have hcreate : (Desk.outside (store.watched.create a)).Ends d fun outcome d' =>
          d'.world.deeds = d.world.deeds ++ [.created a outcome] ∧ d'.pool = d.pool := by
        intro log
        rw [Desk.outside, Action.runFrom_within, Executor.runFrom_create]
        exact ⟨rfl, rfl⟩
      refine .bind_attempt hcreate ?_
      rintro created d' ⟨hdeeds, hpool⟩
      rcases created with fault | _ | id
      · exact .bind_written rfl (.bind_record (.pure ⟨some (.error fault), rfl, hdeeds, hpool⟩))
      · exact .bind_written rfl (.bind_record (.pure ⟨some (.ok none), rfl, hdeeds, hpool⟩))
      · exact .bind_written rfl (.bind_record (.pure ⟨some (.ok (some id)), rfl, hdeeds, hpool⟩))

/-- An announcement reaches every target, or it fails before the first. -/
theorem announce_ends {now : Moment} (hnow : clock.now = .ok now) {s : Submission}
    {ruleId : String} (hrule : s.ruleId = .text ruleId) {actions : RuleActions}
    (hactions : s.actions = .held actions) (a : Alert) (alertId : Option String)
    (d : Desk (Watched ω)) :
    (e.watched.announce clock s a alertId).Ends d fun outcome d' =>
      ∃ sends : Sends, e.Sent sends d d' ∧
        if actions.hasTextLink then
          outcome = .ok () ∧
            sends.map (fun (name, n) => (name, n.alertId)) = (e.targets actions).map (·, alertId)
        else (∃ fault, outcome = .error fault) ∧ sends = [] := by
  simp only [announce, hactions, hrule]
  split
  next hlink =>
      obtain ⟨n, hn, halertId⟩ := buildNotification_ok hnow hlink a alertId
      refine .bind_ofExcept ?_ ?_
      · intro n' hn'
        rw [hn] at hn'
        cases hn'
        refine (e.announceAll_ends clock ruleId actions n _ d).mono ?_
        rintro outcome d' ⟨rfl, hsent⟩
        refine ⟨_, hsent, rfl, ?_⟩
        simp [targets, halertId, Function.comp_def]
      · intro fault hfault
        rw [hn] at hfault
        cases hfault
  next hlink =>
      rw [Bool.not_eq_true] at hlink
      obtain ⟨fault, hfault⟩ := buildNotification_error clock hlink a alertId
      refine .bind_ofExcept ?_ fun fault' _ => ⟨[], Sent.nil e d, ⟨fault', rfl⟩, rfl⟩
      intro n hn
      rw [hfault] at hn
      cases hn

/-! ### Courses -/

/-- How a desk changes when courses are taken one after the other. -/
structure Acted (e : Executor ω) (courses : List Course) (d d' : Desk (Watched ω)) : Prop where
  deeds : d'.world.deeds =
    d.world.deeds ++ courses.flatMap (Course.deeds (e.sendsInline d.pool))
  pool : d'.pool =
    { d.pool with jobs := d.pool.jobs ++ courses.flatMap (Course.jobs (e.sendsInline d.pool)) }

theorem Acted.nil (e : Executor ω) (d : Desk (Watched ω)) : e.Acted [] d d :=
  ⟨(List.append_nil _).symm, by rw [List.flatMap_nil, List.append_nil]⟩

theorem Acted.append {courses later : List Course} (h : e.Acted courses d d')
    (hlater : e.Acted later d' d'') : e.Acted (courses ++ later) d d'' := by
  have hinline : e.sendsInline d'.pool = e.sendsInline d.pool := by rw [h.pool]; rfl
  refine ⟨?_, ?_⟩
  · rw [hlater.deeds, h.deeds, hinline, List.flatMap_append, List.append_assoc]
  · rw [hlater.pool, hinline, h.pool, List.flatMap_append, List.append_assoc]

/-- A course is to ask the store, if there is one, and then to announce. -/
theorem acted_of_steps {c : Course}
    (hdeeds : d'.world.deeds =
      d.world.deeds ++ (c.created.map fun (a, outcome) => Deed.created a outcome).toList)
    (hpool : d'.pool = d.pool) (hsent : e.Sent c.sends d' d'') : e.Acted [c] d d'' := by
  refine ⟨?_, ?_⟩
  · rw [hsent.deeds, hdeeds, hpool, List.append_assoc]
    simp [Course.deeds]
  · rw [hsent.pool, hpool]
    simp [Course.jobs]

theorem acted_quiet {c : Course} (hcreated : c.created = none) (hsends : c.sends = [])
    (hdeeds : d'.world.deeds = d.world.deeds) (hpool : d'.pool = d.pool) : e.Acted [c] d d' := by
  refine acted_of_steps ?_ hpool (hsends ▸ Sent.nil e d')
  rw [hdeeds, hcreated]
  exact (List.append_nil _).symm

/-- What an execution returns of a course: the id that it reports, if it has
not failed. -/
def Returns (c : Course) : Except Fault (Option String) → Prop
  | .ok id => id.filter (· != "") = c.reported
  | .error _ => c.reported = none

theorem lawful_of_unasked {c : Course} (hanswer : c.answer = none) (hsends : c.sends = []) :
    c.Lawful e ∧ c.reported = none := by
  have hid : c.id? = none := by rw [Course.id?, hanswer, Option.filter_none]
  refine ⟨⟨.inl hsends, fun id h => ?_⟩, ?_⟩
  · rw [hid] at h
    cases h
  · unfold Course.reported
    split
    · rw [hid, ite_self]
    · rfl

/-- The course of an alert that was announced after the store had been asked. -/
theorem course_of_announce {r : EvaluationResult} {actions : RuleActions}
    (hactions : r.actions = some actions) {a : Alert}
    {created : Option (Except Fault (Option String))} {alertId : Option String}
    (hanswer : alertId = (⟨r, created.map (a, ·), []⟩ : Course).answer)
    (hdeeds : d'.world.deeds = d.world.deeds ++ (created.map (Deed.created a)).toList)
    (hpool : d'.pool = d.pool) {outcome : Except Fault Unit}
    (h : ∃ sends : Sends, e.Sent sends d' d'' ∧
      if actions.hasTextLink then
        outcome = .ok () ∧
          sends.map (fun (name, n) => (name, n.alertId)) = (e.targets actions).map (·, alertId)
      else (∃ fault, outcome = .error fault) ∧ sends = []) :
    ∃ c : Course, c.result = r ∧ c.Lawful e ∧ e.Acted [c] d d'' ∧
      Returns c (outcome.map fun _ => alertId) := by
  obtain ⟨sends, hsent, hlaw⟩ := h
  have hsame : (⟨r, created.map (a, ·), sends⟩ : Course).answer = alertId := hanswer.symm
  refine ⟨⟨r, created.map (a, ·), sends⟩, rfl, ?_, ?_, ?_⟩
  · cases hlink : actions.hasTextLink with
    | true =>
        rw [if_pos hlink] at hlaw
        refine ⟨.inr ⟨actions, hactions, by rw [hsame, hlaw.2]⟩, fun id hid => ?_⟩
        rw [Course.id?, hsame] at hid
        refine ⟨actions, hactions, ?_⟩
        rw [if_pos hlink, hlaw.2, (Option.filter_eq_some_iff.mp hid).1]
    | false =>
        rw [hlink, if_neg Bool.false_ne_true] at hlaw
        refine ⟨.inl hlaw.2, fun id _ => ⟨actions, hactions, ?_⟩⟩
        rw [hlink, if_neg Bool.false_ne_true, hlaw.2, List.map_nil]
  · refine acted_of_steps ?_ hpool hsent
    rw [hdeeds, Option.map_map]
    rfl
  · cases hlink : actions.hasTextLink with
    | true =>
        rw [if_pos hlink] at hlaw
        rw [hlaw.1]
        simp only [Except.map, Returns, Course.reported, hactions, hlink, if_true, Course.id?,
          hsame]
    | false =>
        rw [hlink, if_neg Bool.false_ne_true] at hlaw
        obtain ⟨⟨fault, rfl⟩, -⟩ := hlaw
        simp only [Except.map, Returns, Course.reported, hactions, hlink, Bool.false_eq_true,
          if_false]

theorem executeOne_ends (e : Executor ω) (clock : Clock) (r : EvaluationResult)
    {actions : RuleActions} (hactions : r.actions = some actions) (d : Desk (Watched ω)) :
    (e.watched.executeOne clock (.ofResult r)).Ends d fun outcome d' =>
      ∃ c : Course, c.result = r ∧ c.Lawful e ∧ e.Acted [c] d d' ∧ Returns c outcome := by
  -- until the store is asked nothing has been done that others see
  have hquiet : ∀ {d' : Desk (Watched ω)} {outcome : Except Fault (Option String)},
      d'.world.deeds = d.world.deeds → d'.pool = d.pool →
      (outcome = .ok none ∨ ∃ fault, outcome = .error fault) →
        ∃ c : Course, c.result = r ∧ c.Lawful e ∧ e.Acted [c] d d' ∧ Returns c outcome := by
    intro d' outcome hdeeds hpool houtcome
    obtain ⟨hlawful, hreported⟩ := lawful_of_unasked (e := e) (c := { result := r }) rfl rfl
    refine ⟨{ result := r }, rfl, hlawful, acted_quiet rfl rfl hdeeds hpool, ?_⟩
    rcases houtcome with rfl | ⟨fault, rfl⟩
    · exact hreported.symm
    · exact hreported
  refine .bind_ofExcept (fun context hcontext => ?_) fun fault _ => hquiet rfl rfl (.inr ⟨_, rfl⟩)
  refine .bind_ofExcept (fun fingerprint hfingerprint => ?_) fun fault _ =>
    hquiet rfl rfl (.inr ⟨_, rfl⟩)
  rw [Submission.fingerprint_ofResult] at hfingerprint
  obtain ⟨fingerprint, -, rfl⟩ := map_eq_ok.mp hfingerprint
  refine .bind_returns (e.findOpen_ends _ fingerprint d) ?_
  rintro existing d₁ ⟨hdeeds₁, hpool₁⟩
  split
  next => exact .bind_written rfl (.bind_record (.pure (hquiet hdeeds₁ hpool₁ (.inl rfl))))
  next =>
      refine .bind_ofExcept (fun a ha => ?_) fun fault _ => hquiet hdeeds₁ hpool₁ (.inr ⟨_, rfl⟩)
      obtain ⟨now, hnow⟩ := now_of_buildAlert ha
      refine .bind (e.persist_ends _ fingerprint a d₁) ?_ ?_
      · rintro persisted d₂ ⟨created, hpersisted, hdeeds₂, hpool₂⟩
        cases hpersisted
        rw [hdeeds₁] at hdeeds₂
        rw [hpool₁] at hpool₂
        have hheld : (Submission.ofResult r).actions = .held actions :=
          congrArg Part.ofOption hactions
        have hannounce : ∀ alertId, alertId = (⟨r, created.map (a, ·), []⟩ : Course).answer →
            (do
              e.watched.announce clock (.ofResult r) a alertId
              pure alertId).Ends d₂ fun outcome d' =>
                ∃ c : Course, c.result = r ∧ c.Lawful e ∧ e.Acted [c] d d' ∧
                  Returns c outcome := by
          intro alertId hanswer
          refine .bind (announce_ends hnow rfl hheld a alertId d₂) ?_ ?_
          · rintro ⟨⟩ d₃ h
            exact .pure (course_of_announce hactions hanswer hdeeds₂ hpool₂ h)
          · rintro fault d₃ h
            exact course_of_announce hactions hanswer hdeeds₂ hpool₂ h
        rcases created with _ | fault | _ | id
        · exact hannounce none rfl
        · exact hannounce none rfl
        · -- a refused alert is asked for, and then left at that
          have hcourse := lawful_of_unasked (e := e) (c := ⟨r, some (a, .ok none), []⟩) rfl rfl
          exact .pure ⟨⟨r, some (a, .ok none), []⟩, rfl, hcourse.1,
            acted_of_steps hdeeds₂ hpool₂ (Sent.nil e d₂), hcourse.2.symm⟩
        · exact hannounce (some id) rfl
      · rintro fault d₂ ⟨created, heq, -⟩
        cases heq

theorem createdIds_eq (id : Option String) :
    (if (id.getD "") != "" then id.toList else []) = (id.filter (· != "")).toList := by
  cases id with
  | none => rfl
  | some id =>
      by_cases hid : id = ""
      · simp [hid]
      · simp [hid, Option.filter]

theorem filterMap_reported_cons (c : Course) (courses : List Course) :
    (c :: courses).filterMap Course.reported =
      c.reported.toList ++ courses.filterMap Course.reported := by
  cases hreported : c.reported with
  | none => rw [List.filterMap_cons_none hreported]; rfl
  | some id => rw [List.filterMap_cons_some hreported]; rfl

/-- A run over results follows one lawful course for each, one after the
other, and returns what the courses report. -/
theorem execute_ends (e : Executor ω) (clock : Clock) (results : List EvaluationResult)
    (d : Desk (Watched ω)) :
    (e.watched.execute clock (results.map Submission.ofResult)).Ends d fun outcome d' =>
      ∃ courses : List Course, courses.map Course.result = results ∧
        (∀ c ∈ courses, c.Lawful e) ∧ e.Acted courses d d' ∧
        outcome = .ok (courses.filterMap Course.reported) := by
  induction results generalizing d with
  | nil =>
      exact .pure ⟨[], rfl, fun _ h => absurd h List.not_mem_nil, Acted.nil e d, rfl⟩
  | cons r rest ih =>
      -- a course for the first result, and those of the rest after it
      have hcons : ∀ {c : Course} {d' d'' : Desk (Watched ω)} {courses : List Course},
          c.result = r → c.Lawful e → e.Acted [c] d d' → courses.map Course.result = rest →
          (∀ c ∈ courses, c.Lawful e) → e.Acted courses d' d'' →
            (c :: courses).map Course.result = r :: rest ∧ (∀ c' ∈ c :: courses, c'.Lawful e) ∧
              e.Acted (c :: courses) d d'' := by
        intro c d' d'' courses hresult hlawful hacted hresults hlawfuls hacteds
        refine ⟨by rw [List.map_cons, hresult, hresults], ?_, hacted.append hacteds⟩
        exact List.forall_mem_cons.mpr ⟨hlawful, hlawfuls⟩
      rw [List.map_cons, execute]
      split
      next hskipped =>
          obtain ⟨hlawful, hreported⟩ := lawful_of_unasked (e := e) (c := { result := r }) rfl rfl
          refine (ih d).mono ?_
          rintro outcome d' ⟨courses, hresults, hlawfuls, hacteds, rfl⟩
          obtain ⟨h1, h2, h3⟩ :=
            hcons rfl hlawful (acted_quiet rfl rfl rfl rfl) hresults hlawfuls hacteds
          exact ⟨_, h1, h2, h3, by rw [filterMap_reported_cons, hreported]; rfl⟩
      next htaken =>
          obtain ⟨actions, hactions⟩ : ∃ actions, r.actions = some actions := by
            cases hactions : r.actions with
            | some actions => exact ⟨actions, rfl⟩
            | none => simp [Submission.ofResult, hactions, Part.ofOption, Part.isAbsent] at htaken
          refine .bind_attempt (e.executeOne_ends clock r hactions d) ?_
          rintro outcome d' ⟨c, hresult, hlawful, hacted, hreturns⟩
          cases outcome with
          | ok id =>
              refine .bind (ih d') ?_ ?_
              · rintro ids d'' ⟨courses, hresults, hlawfuls, hacteds, heq⟩
                cases heq
                obtain ⟨h1, h2, h3⟩ := hcons hresult hlawful hacted hresults hlawfuls hacteds
                refine .pure ⟨_, h1, h2, h3, ?_⟩
                rw [createdIds_eq, hreturns, filterMap_reported_cons]
              · rintro fault d'' ⟨courses, -, -, -, heq⟩
                cases heq
          | error fault =>
              refine .bind_written rfl (.bind_record ((ih d').mono ?_))
              rintro outcome d'' ⟨courses, hresults, hlawfuls, hacteds, rfl⟩
              obtain ⟨h1, h2, h3⟩ := hcons hresult hlawful hacted hresults hlawfuls hacteds
              exact ⟨_, h1, h2, h3, by rw [filterMap_reported_cons, hreturns]; rfl⟩

/-- A job that a course leaves for the pool is one send, whenever it is done
and whatever the world has come to. -/
theorem runJob_ends (hlawful : c.Lawful e) {inline : Bool} {job : Job} (hjob : job ∈ c.jobs inline)
    (clock : Clock) (d : Desk (Watched ω)) :
    ∃ name n, job = .deliver name n ∧ (name, n) ∈ c.sends ∧
      (e.watched.runJob clock job).Ends d fun outcome d' =>
        outcome = .ok () ∧ d'.world.deeds = d.world.deeds ++ [.sent name n] ∧
          d'.pool = d.pool := by
  cases inline with
  | true => exact absurd hjob List.not_mem_nil
  | false =>
      obtain ⟨⟨name, n⟩, hsend, rfl⟩ := List.mem_map.mp hjob
      refine ⟨name, n, rfl, hsend, ?_⟩
      obtain ⟨outlet, houtlet⟩ : ∃ outlet, e.outlet? name = some outlet := by
        rcases hlawful.sends with hnone | ⟨actions, -, hsends⟩
        · rw [hnone] at hsend
          cases hsend
        · have hmem := List.mem_map_of_mem (f := fun (name, n) => (name, n.alertId)) hsend
          rw [hsends] at hmem
          obtain ⟨target, htarget, heq⟩ := List.mem_map.mp hmem
          obtain ⟨rfl, -⟩ := Prod.mk.inj heq
          have hreaches := (List.mem_filter.mp htarget).2
          rw [reaches, Bool.and_eq_true] at hreaches
          exact Option.isSome_iff_exists.mp hreaches.2
      simp only [runJob, outlet?_watched, houtlet, Option.map_some]
      rw [← outlet?_name houtlet]
      exact deliver_ends outlet clock n d

/-- Every result has a lawful course, and the courses say what is returned,
what is done at once and what is left for the pool. -/
theorem execute_follows (e : Executor ω) (clock : Clock) (results : List EvaluationResult)
    (d : Desk ω) (log : Log) :
    let inline := e.sendsInline d.pool
    let submissions := results.map Submission.ofResult
    let ending := (e.watched.execute clock submissions).runFrom d.watched log
    (e.execute clock submissions).runFrom d log =
        ⟨ending.outcome, ending.state.unwatched, ending.log⟩ ∧
      ∃ courses : List Course, courses.map Course.result = results ∧
        (∀ c ∈ courses, c.Lawful e) ∧
        ending.outcome = .ok (courses.filterMap Course.reported) ∧
        ending.state.world.deeds = courses.flatMap (Course.deeds inline) ∧
        ending.state.pool.jobs = d.pool.jobs ++ courses.flatMap (Course.jobs inline) ∧
        ∀ c ∈ courses, ∀ job ∈ c.jobs inline, ∀ clock' d',
          ∃ name n, job = .deliver name n ∧ (name, n) ∈ c.sends ∧
            (e.watched.runJob clock' job).Ends d' fun outcome d'' =>
              outcome = .ok () ∧ d''.world.deeds = d'.world.deeds ++ [.sent name n] ∧
                d''.pool = d'.pool := by
  intro inline submissions ending
  obtain ⟨courses, hresults, hlawful, hacted, houtcome⟩ :=
    e.execute_ends clock results d.watched log
  refine ⟨e.execute_mirrors clock submissions d.watched log, courses, hresults, hlawful, houtcome,
    hacted.deeds, by rw [hacted.pool]; rfl, ?_⟩
  intro c hc job hjob clock' d'
  exact runJob_ends (hlawful c hc) hjob clock' d'

def withSlack (store : AlertStore ω) : Executor ω where
  configuration := .ofSettings {
    organizationId := "org-1", moduleName := none, warehouseDsn := none, maxRulesPerBatch := 100
    ruleCacheTtl := .ofInt 30, inSetThreshold := 100, maxDepth := 3, maxConditionsPerLevel := 10
    openAlertStatuses := AlertStatus.openNames, entityIdFields := ["id"], backgroundWorkers := 1
    dryRun := false, debug := false }
  store := some store
  outlets := [⟨"slack", fun clock n => Channel.sent "slack" clock n .dryRun⟩]
  usesPool := false

def resultOf (actions : RuleActions) : EvaluationResult where
  ruleId := "rule-1"
  ruleName := some "Test Rule"
  triggered := true
  severity := .warning
  matchedCondition := none
  alertTitle := some "Test Rule"
  message := some "Something happened"
  actions := some actions
  metadata := [("rule_name", .text "Test Rule"), ("link", actions.link)]
  evaluatedAt := ⟨2026, 1, 1, 0, 0, 0, 0, some 0⟩
  context := none

/-- The alert of a rule whose link is a number is in the store, but its id is
not returned, and nothing is sent. -/
theorem id_lost_by_link :
    let result := resultOf { notify := ["slack"], customData := some [("link", .int 5)] }
    let ending := ((withSlack Memory.store).watched.execute {} [.ofResult result]).runFrom
      ⟨⟨{}, []⟩, {}⟩ []
    ending.outcome.toOption = some [] ∧
      ending.state.world.world.alerts.map StoredAlert.id = ["alert-1"] ∧
      ending.state.world.deeds.length = 1 := by
  decide +kernel

end Executor

end AlertRules
