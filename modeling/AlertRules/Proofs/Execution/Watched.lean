import AlertRules.Proofs.Execution.Mirror

/-!
Watching an executor at work.

What an executor does to others is not part of its result: it creates
alerts in a store and sends notifications on channels. A watched store
and watched outlets write down each call, with the answer of the store,
and do what they would have done. Watching changes nothing
(`execute_mirrors`), so what is written down about the watched executor
is what the executor does.
-/

namespace AlertRules

/-! ### Deeds -/

/-- What an executor does that others see. -/
inductive Deed where
  | created (a : Alert) (outcome : Except Fault (Option String))
  | sent (channel : String) (n : Notification)

/-- An outside world in which deeds are written down, oldest first. -/
structure Watched (ω : Type) where
  world : ω
  deeds : List Deed := []

namespace Watched

variable {ω α : Type}

def outside (a : Action ω α) : Action (Watched ω) α :=
  a.within (·.world) fun w x => { w with world := x }

def note (deed : Deed) : Action (Watched ω) Unit :=
  modify fun w => { w with deeds := w.deeds ++ [deed] }

theorem outside_mirrors (a : Action ω α) : Action.Mirrors Watched.world (outside a) a :=
  fun _ _ => rfl

end Watched

variable {ω : Type}

def AlertStore.watched (store : AlertStore ω) : AlertStore (Watched ω) where
  findOpen o f statuses := Watched.outside (store.findOpen o f statuses)
  create a := do
    let outcome ← (Watched.outside (store.create a)).attempt
    Watched.note (.created a outcome)
    Action.ofExcept outcome

def Outlet.watched (outlet : Outlet ω) : Outlet (Watched ω) where
  name := outlet.name
  send clock n := do
    Watched.note (.sent outlet.name n)
    Watched.outside (outlet.send clock n)

def Executor.watched (e : Executor ω) : Executor (Watched ω) where
  configuration := e.configuration
  store := e.store.map AlertStore.watched
  outlets := e.outlets.map Outlet.watched
  usesPool := e.usesPool

/-- A desk in whose world deeds are written down, none so far. -/
def Desk.watched (d : Desk ω) : Desk (Watched ω) := ⟨{ world := d.world }, d.pool⟩

def Desk.unwatched (d : Desk (Watched ω)) : Desk ω := ⟨d.world.world, d.pool⟩

/-! ### Watching changes nothing -/

namespace Executor

open AlertRules.Action

theorem runFrom_create (store : AlertStore ω) (a : Alert) (w : Watched ω) (log : Log) :
    (store.watched.create a).runFrom w log =
      ⟨((store.create a).runFrom w.world log).outcome,
        ⟨((store.create a).runFrom w.world log).state,
          w.deeds ++ [.created a ((store.create a).runFrom w.world log).outcome]⟩,
        ((store.create a).runFrom w.world log).log⟩ :=
  runFrom_ofExcept _ _ _

theorem store_mirrors (store : AlertStore ω) : store.watched.IsMirror Watched.world store where
  findOpen _ _ _ := Watched.outside_mirrors _
  create a := by
    intro w log
    rw [runFrom_create]

theorem outlet_mirrors (outlet : Outlet ω) : outlet.watched.IsMirror Watched.world outlet where
  name := rfl
  send _ _ := fun _ _ => rfl

theorem outlet?_watched (e : Executor ω) (name : String) :
    e.watched.outlet? name = (e.outlet? name).map Outlet.watched := by
  simp only [outlet?, watched, List.find?_map]
  rfl

theorem watched_mirrors (e : Executor ω) : e.watched.IsMirror Watched.world e where
  configuration := rfl
  store := by
    unfold watched
    cases e.store with
    | none => exact .none
    | some store => exact .some (store_mirrors store)
  outlets := by
    unfold watched
    rw [List.forall₂_map_left_iff, List.forall₂_same]
    exact fun outlet _ => outlet_mirrors outlet
  usesPool := rfl

theorem execute_mirrors (e : Executor ω) (clock : Clock) (submissions : List Submission) :
    Action.Mirrors Desk.unwatched (e.watched.execute clock submissions)
      (e.execute clock submissions) :=
  e.watched_mirrors.execute clock submissions

end Executor

end AlertRules
