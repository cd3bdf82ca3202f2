import AlertRules.Execution.Executor
import AlertRules.Proofs.Action
import Mathlib.Data.List.Forall2

/-!
Executors in two worlds.

A world may hold more than another and show it by a view. An executor mirrors one in
the world that is shown if its store and its outlets do there what those of the other
do; then it does there what the other does (`Executor.IsMirror.execute`). So whatever a
world holds besides can be written at will, to tell what an executor did.
-/

namespace AlertRules

open AlertRules.Action

variable {ω ω' α : Type} {view : ω' → ω}

def Desk.seen (view : ω' → ω) (d : Desk ω') : Desk ω := ⟨view d.world, d.pool⟩

/-- The first store does on the world that is shown what the second does. -/
structure AlertStore.IsMirror (view : ω' → ω) (store' : AlertStore ω') (store : AlertStore ω) :
    Prop where
  findOpen : ∀ organizationId fingerprint statuses, Action.Mirrors view
    (store'.findOpen organizationId fingerprint statuses)
    (store.findOpen organizationId fingerprint statuses)
  create : ∀ a, Action.Mirrors view (store'.create a) (store.create a)

/-- The first outlet does on the world that is shown what the second does. -/
structure Outlet.IsMirror (view : ω' → ω) (outlet' : Outlet ω') (outlet : Outlet ω) : Prop where
  name : outlet'.name = outlet.name
  send : ∀ clock n, Action.Mirrors view (outlet'.send clock n) (outlet.send clock n)

/-- The first executor has the store and the outlets of the second in the world that is
shown, and is otherwise the same. -/
structure Executor.IsMirror (view : ω' → ω) (e' : Executor ω') (e : Executor ω) : Prop where
  configuration : e'.configuration = e.configuration
  store : Option.Rel (AlertStore.IsMirror view) e'.store e.store
  outlets : List.Forall₂ (Outlet.IsMirror view) e'.outlets e.outlets
  usesPool : e'.usesPool = e.usesPool

/-! ### At the desk -/

theorem Desk.outside_mirrors {a : Action ω' α} {b : Action ω α} (h : Action.Mirrors view a b) :
    Action.Mirrors (Desk.seen view) (Desk.outside a) (Desk.outside b) := by
  intro d log
  rw [Desk.outside, Desk.outside, runFrom_within, runFrom_within]
  show (⟨(b.runFrom (view d.world) log).outcome, ⟨(b.runFrom (view d.world) log).state, d.pool⟩,
    (b.runFrom (view d.world) log).log⟩ : Ending (Desk ω) α) = _
  rw [h d.world log]
  rfl

theorem Desk.submit_mirrors (job : Job) :
    Action.Mirrors (Desk.seen view) (Desk.submit job) (Desk.submit job) := by
  intro d log
  obtain ⟨world, isClosed, jobs⟩ := d
  cases isClosed
  · rfl
  · rfl

namespace Executor.IsMirror

/-! ### Stage by stage -/

theorem deliver {outlet' : Outlet ω'} {outlet : Outlet ω} (h : outlet'.IsMirror view outlet)
    (clock : Clock) (n : Notification) :
    Action.Mirrors (Desk.seen view) (Executor.deliver outlet' clock n)
      (Executor.deliver outlet clock n) := by
  unfold Executor.deliver
  rw [h.name]
  refine .bind (.attempt (Desk.outside_mirrors (h.send clock n))) fun outcome => ?_
  cases outcome with
  | ok d =>
      dsimp only
      split
      · exact .record _ _
      · exact .pure ()
  | error fault => exact .record _ _

variable {e' : Executor ω'} {e : Executor ω} (h : e'.IsMirror view e)
include h

theorem findOpen (organizationId fingerprint : Value) :
    Action.Mirrors (Desk.seen view) (e'.findOpen organizationId fingerprint)
      (e.findOpen organizationId fingerprint) := by
  unfold Executor.findOpen
  rw [h.configuration]
  have hstore := h.store
  generalize e'.store = store', e.store = store at hstore
  cases hstore with
  | none => exact .pure none
  | some hstore =>
      refine .bind (.attempt (Desk.outside_mirrors (hstore.findOpen _ _ _))) fun found => ?_
      cases found with
      | ok id => exact .pure id
      | error fault => exact .bind (.ofExcept _) fun _ => .bind (.record _ _) fun _ => .pure none

theorem persist (ruleId fingerprint : Value) (a : Alert) :
    Action.Mirrors (Desk.seen view) (e'.persist ruleId fingerprint a)
      (e.persist ruleId fingerprint a) := by
  unfold Executor.persist
  have hstore := h.store
  generalize e'.store = store', e.store = store at hstore
  cases hstore with
  | none => exact .pure _
  | some hstore =>
      refine .bind (.attempt (Desk.outside_mirrors (hstore.create a))) fun created => ?_
      match created with
      | .error fault => exact .bind (.ofExcept _) fun _ => .bind (.record _ _) fun _ => .pure _
      | .ok none => exact .bind (.ofExcept _) fun _ => .bind (.record _ _) fun _ => .pure _
      | .ok (some id) => exact .bind (.ofExcept _) fun _ => .bind (.record _ _) fun _ => .pure _

theorem outlet? (name : String) :
    Option.Rel (Outlet.IsMirror view) (e'.outlet? name) (e.outlet? name) := by
  unfold Executor.outlet?
  have houtlets := h.outlets
  generalize e'.outlets = outlets', e.outlets = outlets at houtlets
  induction houtlets with
  | nil => exact .none
  | cons hfirst _ ih =>
      rw [List.find?_cons, List.find?_cons, hfirst.name]
      split
      · exact .some hfirst
      · exact ih

theorem announceOn (clock : Clock) (ruleId : Value) (actions : RuleActions) (n : Notification)
    (name : String) :
    Action.Mirrors (Desk.seen view) (e'.announceOn clock ruleId actions n name)
      (e.announceOn clock ruleId actions n name) := by
  unfold Executor.announceOn
  rw [h.usesPool]
  split
  · exact .bind (.ofExcept _) fun _ => .record _ _
  · have houtlet := h.outlet? name
    generalize e'.outlet? name = outlet', e.outlet? name = outlet at houtlet
    cases houtlet with
    | none => exact .bind (.ofExcept _) fun _ => .record _ _
    | some houtlet =>
        have hdeliver := deliver houtlet clock n
        dsimp only
        split
        · refine .bind (Desk.submit_mirrors _) fun submitted => ?_
          rw [houtlet.name]
          split
          · exact .bind (.record _ _) fun _ => hdeliver
          · exact .pure ()
        · exact hdeliver

theorem announceAll (clock : Clock) (ruleId : Value) (actions : RuleActions) (n : Notification)
    (names : List String) :
    Action.Mirrors (Desk.seen view) (e'.announceAll clock ruleId actions n names)
      (e.announceAll clock ruleId actions n names) := by
  induction names with
  | nil => exact .pure ()
  | cons name names ih => exact .bind (h.announceOn clock ruleId actions n name) fun _ => ih

theorem announce (clock : Clock) (s : Submission) (a : Alert) (alertId : Option String) :
    Action.Mirrors (Desk.seen view) (e'.announce clock s a alertId)
      (e.announce clock s a alertId) := by
  unfold Executor.announce
  cases s.actions with
  | held actions =>
      exact .bind (.ofExcept _) fun n => h.announceAll clock s.ruleId actions n _
  | absent => exact .throw _
  | foreign => exact .throw _

theorem buildAlert (clock : Clock) (s : Submission) (organizationId fingerprint : Value) :
    e'.buildAlert clock s organizationId fingerprint =
      e.buildAlert clock s organizationId fingerprint := by
  unfold Executor.buildAlert Executor.moduleOf
  rw [h.configuration]

/-! ### The whole work -/

theorem executeOne (clock : Clock) (s : Submission) :
    Action.Mirrors (Desk.seen view) (e'.executeOne clock s) (e.executeOne clock s) := by
  unfold Executor.executeOne Executor.organizationOf
  rw [h.configuration]
  refine .bind (.ofExcept _) fun context => .bind (.ofExcept _) fun fingerprint =>
    .bind (h.findOpen _ _) fun existing => ?_
  rw [h.buildAlert]
  split
  · exact .bind (.ofExcept _) fun _ => .bind (.record _ _) fun _ => .pure none
  · refine .bind (.ofExcept _) fun a => .bind (h.persist _ _ _) fun persisted => ?_
    cases persisted with
    | duplicate => exact .pure none
    | unsaved => exact .bind (h.announce clock s a none) fun _ => .pure none
    | saved id => exact .bind (h.announce clock s a (some id)) fun _ => .pure (some id)

theorem execute (clock : Clock) (submissions : List Submission) :
    Action.Mirrors (Desk.seen view) (e'.execute clock submissions)
      (e.execute clock submissions) := by
  induction submissions with
  | nil => exact .pure []
  | cons s rest ih =>
      unfold Executor.execute
      split
      · exact ih
      · refine .bind (.attempt (h.executeOne clock s)) fun outcome => ?_
        cases outcome with
        | ok id => exact .bind ih fun ids => .pure _
        | error fault => exact .bind (.ofExcept _) fun _ => .bind (.record _ _) fun _ => ih

theorem runJob (clock : Clock) (job : Job) :
    Action.Mirrors (Desk.seen view) (e'.runJob clock job) (e.runJob clock job) := by
  cases job with
  | increment ruleId => exact .pure ()
  | deliver name n =>
      have houtlet := h.outlet? name
      unfold Executor.runJob
      dsimp only
      generalize e'.outlet? name = outlet', e.outlet? name = outlet at houtlet
      cases houtlet with
      | none => exact .pure ()
      | some houtlet => exact deliver houtlet clock n

end Executor.IsMirror

end AlertRules
