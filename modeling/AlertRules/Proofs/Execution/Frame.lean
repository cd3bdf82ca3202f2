import AlertRules.Execution.Executor
import AlertRules.Proofs.Action

/-!
What an executor leaves alone.

An executor changes the world by what it asks of its store and its
channels, and by nothing else; to the pool it hands deliveries. So a desk
stays good if the look-ups, the new alerts, the sends and the deliveries
keep it good. A view of the world that the first three leave alone is the
same after any work of the executor; the lemmas ask for no more than each
stage needs.
-/

namespace AlertRules

open AlertRules.Action

variable {ω α β : Type} {view : ω → β} {good : Desk ω → Prop}

/-! ### At the desk -/

theorem Desk.outside_ends {a : Action ω α} {d : Desk ω} {post : Except Fault α → ω → Prop}
    (h : a.Ends d.world post) :
    (Desk.outside a).Ends d fun outcome d' => post outcome d'.world ∧ d'.pool = d.pool :=
  fun log => ⟨h log, rfl⟩

theorem Desk.outside_keeps {a : Action ω α} (h : a.Leaves view) (shown : β) :
    (Desk.outside a).Keeps fun d => view d.world = shown :=
  fun d hd log => (h d.world log).trans hd

theorem Desk.submit_ends (job : Job) (d : Desk ω) :
    (Desk.submit job).Ends d fun outcome d' =>
      outcome = .ok (!d.pool.isClosed) ∧ d'.world = d.world ∧
        d'.pool = { d.pool with jobs := d.pool.jobs ++ if d.pool.isClosed then [] else [job] } := by
  intro log
  obtain ⟨world, isClosed, jobs⟩ := d
  cases isClosed
  · exact ⟨rfl, rfl, rfl⟩
  · exact ⟨rfl, rfl, by simp; rfl⟩

theorem Desk.submit_keeps (job : Job) (shown : β) :
    (Desk.submit job).Keeps fun d => view d.world = shown :=
  fun d hd => (Desk.submit_ends job d).mono fun _ _ h => (congrArg view h.2.1).trans hd

namespace Executor

/-! ### Stage by stage -/

def FindKeeps (e : Executor ω) (good : Desk ω → Prop) : Prop :=
  ∀ store, e.store = some store → ∀ organizationId fingerprint, (Desk.outside
    (store.findOpen organizationId fingerprint e.configuration.openAlertStatuses)).Keeps good

def CreateKeeps (e : Executor ω) (good : Desk ω → Prop) : Prop :=
  ∀ store, e.store = some store → ∀ a, (Desk.outside (store.create a)).Keeps good

def SendKeeps (e : Executor ω) (good : Desk ω → Prop) : Prop :=
  ∀ outlet ∈ e.outlets, ∀ clock n, (Desk.outside (outlet.send clock n)).Keeps good

def SubmitKeeps (good : Desk ω → Prop) : Prop :=
  ∀ name n, (Desk.submit (.deliver name n)).Keeps good

variable {e : Executor ω}

theorem findOpen_keeps (h : e.FindKeeps good) (organizationId fingerprint : Value) :
    (e.findOpen organizationId fingerprint).Keeps good := by
  cases hstore : e.store with
  | none =>
      simp only [findOpen, hstore]
      exact .pure none
  | some store =>
      simp only [findOpen, hstore]
      refine .bind (.attempt (h store hstore _ _)) fun found => ?_
      cases found with
      | ok id => exact .pure id
      | error fault => exact .bind (.ofExcept _) fun _ => .bind (.record _ _) fun _ => .pure none

theorem persist_keeps (h : e.CreateKeeps good) (ruleId fingerprint : Value) (a : Alert) :
    (e.persist ruleId fingerprint a).Keeps good := by
  cases hstore : e.store with
  | none =>
      simp only [persist, hstore]
      exact .pure _
  | some store =>
      simp only [persist, hstore]
      refine .bind (.attempt (h store hstore a)) fun created => ?_
      match created with
      | .error fault => exact .bind (.ofExcept _) fun _ => .bind (.record _ _) fun _ => .pure _
      | .ok none => exact .bind (.ofExcept _) fun _ => .bind (.record _ _) fun _ => .pure _
      | .ok (some id) => exact .bind (.ofExcept _) fun _ => .bind (.record _ _) fun _ => .pure _

theorem deliver_keeps {outlet : Outlet ω}
    (h : ∀ clock n, (Desk.outside (outlet.send clock n)).Keeps good) (clock : Clock)
    (n : Notification) : (deliver outlet clock n).Keeps good := by
  refine .bind (.attempt (h clock n)) fun outcome => ?_
  cases outcome with
  | ok dispatch =>
      dsimp only
      split
      · exact .record _ _
      · exact .pure ()
  | error fault => exact .record _ _

theorem announceOn_keeps (h : e.SendKeeps good) (hsubmit : SubmitKeeps good) (clock : Clock)
    (ruleId : Value) (actions : RuleActions) (n : Notification) (name : String) :
    (e.announceOn clock ruleId actions n name).Keeps good := by
  unfold announceOn
  split
  · exact .bind (.ofExcept _) fun _ => .record _ _
  · cases houtlet : e.outlet? name with
    | none => exact .bind (.ofExcept _) fun _ => .record _ _
    | some outlet =>
        have hdeliver := deliver_keeps (h outlet (List.mem_of_find?_eq_some houtlet)) clock n
        dsimp only
        split
        · refine .bind (hsubmit _ _) fun submitted => ?_
          split
          · exact .bind (.record _ _) fun _ => hdeliver
          · exact .pure ()
        · exact hdeliver

theorem announceAll_keeps (h : e.SendKeeps good) (hsubmit : SubmitKeeps good) (clock : Clock)
    (ruleId : Value) (actions : RuleActions) (n : Notification) (names : List String) :
    (e.announceAll clock ruleId actions n names).Keeps good := by
  induction names with
  | nil => exact .pure ()
  | cons name names ih =>
      exact .bind (announceOn_keeps h hsubmit clock ruleId actions n name) fun _ => ih

theorem announce_keeps (h : e.SendKeeps good) (hsubmit : SubmitKeeps good) (clock : Clock)
    (s : Submission) (a : Alert) (alertId : Option String) :
    (e.announce clock s a alertId).Keeps good := by
  unfold announce
  split
  · exact .bind (.ofExcept _) fun n => announceAll_keeps h hsubmit clock _ _ n _
  · exact .throw _

/-! ### The whole work -/

theorem executeOne_keeps (hfind : e.FindKeeps good) (hcreate : e.CreateKeeps good)
    (hsend : e.SendKeeps good) (hsubmit : SubmitKeeps good) (clock : Clock) (s : Submission) :
    (e.executeOne clock s).Keeps good := by
  refine .bind (.ofExcept _) fun context => .bind (.ofExcept _) fun fingerprint =>
    .bind (findOpen_keeps hfind _ fingerprint) fun existing => ?_
  split
  · exact .bind (.ofExcept _) fun _ => .bind (.record _ _) fun _ => .pure none
  · refine .bind (.ofExcept _) fun a => .bind (persist_keeps hcreate _ _ a) fun persisted => ?_
    have hannounce := announce_keeps hsend hsubmit clock s a
    cases persisted with
    | duplicate => exact .pure none
    | unsaved => exact .bind (hannounce none) fun _ => .pure none
    | saved id => exact .bind (hannounce _) fun _ => .pure _

theorem execute_keeps (hfind : e.FindKeeps good) (hcreate : e.CreateKeeps good)
    (hsend : e.SendKeeps good) (hsubmit : SubmitKeeps good) (clock : Clock)
    (submissions : List Submission) : (e.execute clock submissions).Keeps good := by
  induction submissions with
  | nil => exact .pure []
  | cons s rest ih =>
      unfold execute
      split
      · exact ih
      · refine .bind (.attempt (executeOne_keeps hfind hcreate hsend hsubmit clock s))
          fun outcome => ?_
        cases outcome with
        | ok id => exact .bind ih fun ids => .pure _
        | error fault => exact .bind (.ofExcept _) fun _ => .bind (.record _ _) fun _ => ih

theorem runJob_keeps (h : e.SendKeeps good) (clock : Clock) (job : Job) :
    (e.runJob clock job).Keeps good := by
  cases job with
  | deliver name n =>
      cases houtlet : e.outlet? name with
      | none =>
          simp only [runJob, houtlet]
          exact .pure ()
      | some outlet =>
          simp only [runJob, houtlet]
          exact deliver_keeps (h outlet (List.mem_of_find?_eq_some houtlet)) clock n
  | increment ruleId => exact .pure ()

/-! ### Views of the world -/

/-- The look-ups of the store leave a view of the world alone. -/
def FindLeaves (e : Executor ω) (view : ω → β) : Prop :=
  ∀ store, e.store = some store → ∀ organizationId fingerprint,
    (store.findOpen organizationId fingerprint e.configuration.openAlertStatuses).Leaves view

def CreateLeaves (e : Executor ω) (view : ω → β) : Prop :=
  ∀ store, e.store = some store → ∀ a, (store.create a).Leaves view

def SendLeaves (e : Executor ω) (view : ω → β) : Prop :=
  ∀ outlet ∈ e.outlets, ∀ clock n, (outlet.send clock n).Leaves view

theorem FindLeaves.keeps (h : e.FindLeaves view) (shown : β) :
    e.FindKeeps fun d => view d.world = shown :=
  fun store hstore _ _ => Desk.outside_keeps (h store hstore _ _) shown

theorem CreateLeaves.keeps (h : e.CreateLeaves view) (shown : β) :
    e.CreateKeeps fun d => view d.world = shown :=
  fun store hstore a => Desk.outside_keeps (h store hstore a) shown

theorem SendLeaves.keeps (h : e.SendLeaves view) (shown : β) :
    e.SendKeeps fun d => view d.world = shown :=
  fun outlet houtlet clock n => Desk.outside_keeps (h outlet houtlet clock n) shown

theorem submitKeeps (shown : β) : SubmitKeeps fun d : Desk ω => view d.world = shown :=
  fun _ _ => Desk.submit_keeps _ shown

theorem findOpen_leaves (h : e.FindLeaves view) (organizationId fingerprint : Value) :
    (e.findOpen organizationId fingerprint).Leaves fun d => view d.world :=
  leaves_of_keeps fun shown => findOpen_keeps (h.keeps shown) organizationId fingerprint

theorem announce_leaves (h : e.SendLeaves view) (clock : Clock) (s : Submission) (a : Alert)
    (alertId : Option String) : (e.announce clock s a alertId).Leaves fun d => view d.world :=
  leaves_of_keeps fun shown => announce_keeps (h.keeps shown) (submitKeeps shown) clock s a alertId

theorem execute_leaves (hfind : e.FindLeaves view) (hcreate : e.CreateLeaves view)
    (hsend : e.SendLeaves view) (clock : Clock) (submissions : List Submission) :
    (e.execute clock submissions).Leaves fun d => view d.world :=
  leaves_of_keeps fun shown => execute_keeps (hfind.keeps shown) (hcreate.keeps shown)
    (hsend.keeps shown) (submitKeeps shown) clock submissions

theorem runJob_leaves (h : e.SendLeaves view) (clock : Clock) (job : Job) :
    (e.runJob clock job).Leaves fun d => view d.world :=
  leaves_of_keeps fun shown => runJob_keeps (h.keeps shown) clock job

/-! ### The pool -/

/-- The second pool has the jobs of the first, and deliveries after them. -/
def Delivers (pool pool' : Pool) : Prop :=
  ∃ deliveries : List (String × Notification), pool' =
    { pool with jobs := pool.jobs ++ deliveries.map fun delivery => .deliver delivery.1 delivery.2 }

theorem submit_delivers (pool : Pool) : SubmitKeeps fun d : Desk ω => Delivers pool d.pool := by
  rintro name n d ⟨deliveries, hpool⟩
  refine (Desk.submit_ends _ d).mono ?_
  rintro _ d' ⟨-, -, hpool'⟩
  rw [hpool']
  split
  · exact ⟨deliveries, by rw [List.append_nil, hpool]⟩
  · exact ⟨deliveries ++ [(name, n)], by rw [hpool, List.map_append, ← List.append_assoc]; rfl⟩

theorem execute_delivers (e : Executor ω) (clock : Clock) (submissions : List Submission)
    (d : Desk ω) :
    (e.execute clock submissions).Ends d fun _ d' => Delivers d.pool d'.pool :=
  execute_keeps (fun _ _ _ _ _ h _ => h) (fun _ _ _ _ h _ => h) (fun _ _ _ _ _ h _ => h)
    (submit_delivers d.pool) clock submissions d ⟨[], by simp⟩

theorem runJob_pool (e : Executor ω) (clock : Clock) (job : Job) :
    (e.runJob clock job).Leaves Desk.pool :=
  leaves_of_keeps fun _ => runJob_keeps (fun _ _ _ _ _ h _ => h) clock job

end Executor

end AlertRules
