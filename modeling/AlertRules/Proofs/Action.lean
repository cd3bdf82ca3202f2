import AlertRules.Action

/-!
The reasoning kit: what an action ends with.

`a.Ends s post` says that the action, run from the state `s` and any
log, ends with an outcome and a state of which `post` holds. Each
construct has one rule, so that a proof follows an action as it is
written. A fault is an outcome like any other: a bind hands it on, and
`attempt` turns it into a value.

The rules for the first step of a sequence (`Ends.bind_get` and the like)
are there because most actions begin with a step that cannot fail or
does not touch the state, and the general rule would ask for both.

Some kinds of actions need no postcondition of their own: those whose
outcome the state does not decide (`Steady`), those that do not fail
(`Succeeds`), those that keep a state good (`Keeps`) and return something good
(`Yields`), and those that leave a part of the state alone (`Leaves`). One action
mirrors another if it does the same on a view of the state (`Mirrors`), and two are
alike if they do the same as far as a view shows, whatever the logs (`Alike`).
-/

namespace AlertRules

theorem exists_of_bind_eq_ok {ε α β : Type} {x : Except ε α} {f : α → Except ε β} {b : β}
    (h : x >>= f = .ok b) : ∃ a, x = .ok a ∧ f a = .ok b := by
  cases x with
  | ok a => exact ⟨a, rfl, h⟩
  | error fault => cases h

theorem map_eq_ok {ε α β : Type} {f : α → β} {x : Except ε α} {b : β} :
    f <$> x = .ok b ↔ ∃ a, x = .ok a ∧ f a = b := by
  cases x with
  | ok a => exact ⟨fun h => ⟨a, rfl, Except.ok.inj h⟩, by rintro ⟨a, h, rfl⟩; cases h; rfl⟩
  | error fault => exact ⟨nofun, by rintro ⟨a, h, -⟩; cases h⟩

theorem mapError_eq_ok {ε ε' α : Type} {f : ε → ε'} {x : Except ε α} {a : α} :
    x.mapError f = .ok a ↔ x = .ok a := by
  cases x with
  | ok b => exact ⟨fun h => congrArg _ (Except.ok.inj h), fun h => congrArg _ (Except.ok.inj h)⟩
  | error fault => exact ⟨nofun, nofun⟩

theorem toOption_eq_some {ε α : Type} {x : Except ε α} {a : α} :
    x.toOption = some a ↔ x = .ok a := by
  cases x with
  | ok b => simp [Except.toOption]
  | error fault => simp [Except.toOption]

theorem exists_of_toOption {ε α : Type} {x : Except ε α} (h : x.toOption.isSome = true) :
    ∃ a, x = .ok a := by
  obtain ⟨a, ha⟩ := Option.isSome_iff_exists.mp h
  exact ⟨a, toOption_eq_some.mp ha⟩

theorem map_mapM {ε α β γ : Type} (f : α → Except ε β) (g : β → γ) (l : List α) :
    (l.mapM f).map (List.map g) = l.mapM fun a => (f a).map g := by
  induction l with
  | nil => rfl
  | cons a rest ih =>
      rw [List.mapM_cons, List.mapM_cons, ← ih]
      cases f a with
      | error fault => rfl
      | ok b => cases rest.mapM f <;> rfl

theorem mapM_eq_ok {ε α β : Type} {f : α → Except ε β} {l : List α} {bs : List β}
    (h : l.map f = bs.map .ok) : l.mapM f = .ok bs := by
  induction l generalizing bs with
  | nil =>
      rw [List.map_nil, eq_comm, List.map_eq_nil_iff] at h
      rw [h]
      rfl
  | cons a rest ih =>
      obtain ⟨b, others, rfl, hfirst, hrest⟩ := List.map_eq_cons_iff.mp h.symm
      rw [List.mapM_cons, ← hfirst, ih hrest.symm]
      rfl

/-- If there is but one error, any one stops the whole. -/
theorem mapM_eq_error {ε α β : Type} {f : α → Except ε β} {l : List α} {fault : ε}
    (hall : ∀ a ∈ l, ∀ other, f a = .error other → other = fault)
    (h : ∃ a ∈ l, f a = .error fault) : l.mapM f = .error fault := by
  induction l with
  | nil => exact absurd h (by simp)
  | cons a rest ih =>
      obtain ⟨hfirst, hrest⟩ := List.forall_mem_cons.mp hall
      rw [List.mapM_cons]
      cases ha : f a with
      | error other =>
          rw [hfirst other ha]
          rfl
      | ok b =>
          obtain ⟨a', ha', hfault⟩ := h
          have hmem : a' ∈ rest := by
            rcases List.mem_cons.mp ha' with rfl | hmem
            · cases ha.symm.trans hfault
            · exact hmem
          rw [ih hrest ⟨a', hmem, hfault⟩]
          rfl

namespace Action

variable {σ τ α β : Type}

/-! ### Runs -/

theorem ext {a b : Action σ α} (h : ∀ s log, a.runFrom s log = b.runFrom s log) : a = b := by
  funext s log
  obtain ⟨houtcome, hstate, hlog⟩ := Ending.mk.inj (h s log)
  exact Prod.ext (Prod.ext houtcome hstate) hlog

/-- A bind goes on with what its first action returned; a fault stands. -/
theorem runFrom_bind (a : Action σ α) (f : α → Action σ β) (s : σ) (log : Log) :
    (a >>= f).runFrom s log =
      match (a.runFrom s log).outcome with
      | .ok x => (f x).runFrom (a.runFrom s log).state (a.runFrom s log).log
      | .error fault => ⟨.error fault, (a.runFrom s log).state, (a.runFrom s log).log⟩ := by
  unfold runFrom
  simp only [bind, ExceptT.bind, ExceptT.mk, StateT.bind, ExceptT.run, StateT.run]
  rcases a s log with ⟨⟨_ | x, s'⟩, log'⟩
  · rfl
  · rfl

theorem runFrom_bind_ok {a : Action σ α} {f : α → Action σ β} {s : σ} {log : Log} {x : α}
    (h : (a.runFrom s log).outcome = .ok x) :
    (a >>= f).runFrom s log =
      (f x).runFrom (a.runFrom s log).state (a.runFrom s log).log := by
  rw [runFrom_bind, h]

theorem runFrom_discard (a : Action σ α) (s : σ) (log : Log) :
    (do
      let _ ← a
      pure () : Action σ Unit).runFrom s log =
      ⟨(fun _ => ()) <$> (a.runFrom s log).outcome, (a.runFrom s log).state,
        (a.runFrom s log).log⟩ := by
  rw [runFrom_bind]
  cases (a.runFrom s log).outcome with
  | ok x => rfl
  | error fault => rfl

theorem runFrom_attempt (a : Action σ α) (s : σ) (log : Log) :
    a.attempt.runFrom s log =
      ⟨.ok (a.runFrom s log).outcome, (a.runFrom s log).state, (a.runFrom s log).log⟩ := rfl

theorem runFrom_within (get : σ → τ) (put : σ → τ → σ) (a : Action τ α) (s : σ) (log : Log) :
    (a.within get put).runFrom s log =
      ⟨(a.runFrom (get s) log).outcome, put s (a.runFrom (get s) log).state,
        (a.runFrom (get s) log).log⟩ := rfl

theorem runFrom_beside (a : Action (σ × τ) Unit) (start : τ) (s : σ) (log : Log) :
    (a.beside start).runFrom s log =
      ⟨(a.runFrom (s, start) log).outcome.map fun () => (a.runFrom (s, start) log).state.2,
        (a.runFrom (s, start) log).state.1, (a.runFrom (s, start) log).log⟩ := rfl

theorem runFrom_ofExcept (e : Except Fault α) (s : σ) (log : Log) :
    (ofExcept e).runFrom s log = ⟨e, s, log⟩ := by
  cases e with
  | ok x => rfl
  | error fault => rfl

/-! ### Parts of a state -/

/-- What is done to a part of the state in several steps is done to it step by step. -/
theorem within_bind (get : σ → τ) (put : σ → τ → σ) (hget : ∀ s t, get (put s t) = t)
    (hput : ∀ s t t', put (put s t) t' = put s t') (a : Action τ α) (f : α → Action τ β) :
    (a >>= f).within get put = a.within get put >>= fun x => (f x).within get put := by
  refine ext fun s log => ?_
  rw [runFrom_bind, runFrom_within, runFrom_within, runFrom_bind]
  generalize a.runFrom (get s) log = ending
  obtain ⟨outcome, t, log'⟩ := ending
  cases outcome with
  | ok x => simp only [runFrom_within, hget, hput]
  | error fault => rfl

theorem within_ofExcept (get : σ → τ) (put : σ → τ → σ) (hput : ∀ s, put s (get s) = s)
    (e : Except Fault α) :
    (ofExcept e).within get put = ofExcept e := by
  refine ext fun s log => ?_
  rw [runFrom_within, runFrom_ofExcept, runFrom_ofExcept, hput]

/-! ### Endings -/

/-- Run from `s` and this log, the action ends with an outcome and a state of
which `post` holds. -/
def EndsAt (a : Action σ α) (s : σ) (log : Log) (post : Except Fault α → σ → Prop) : Prop :=
  post (a.runFrom s log).outcome (a.runFrom s log).state

/-- Whatever the log, the action run from `s` ends with an outcome and a
state of which `post` holds. -/
def Ends (a : Action σ α) (s : σ) (post : Except Fault α → σ → Prop) : Prop :=
  ∀ log, post (a.runFrom s log).outcome (a.runFrom s log).state

variable {s : σ} {post : Except Fault α → σ → Prop} {goal : Except Fault β → σ → Prop}

theorem Ends.mono {a : Action σ α} {weaker : Except Fault α → σ → Prop} (h : a.Ends s post)
    (hweaker : ∀ outcome s', post outcome s' → weaker outcome s') : a.Ends s weaker :=
  fun log => hweaker _ _ (h log)

/-- Whatever the log, the action ends as is known of it for this log. -/
theorem Ends.of_endsAt {a : Action σ α} {known : Log → Except Fault α → σ → Prop}
    (h : ∀ log, a.EndsAt s log (known log))
    (hpost : ∀ log outcome s', known log outcome s' → post outcome s') : a.Ends s post :=
  fun log => hpost log _ _ (h log)

theorem Ends.and {a : Action σ α} {other : Except Fault α → σ → Prop} (h : a.Ends s post)
    (hother : a.Ends s other) : a.Ends s fun outcome s' => post outcome s' ∧ other outcome s' :=
  fun log => ⟨h log, hother log⟩

theorem Ends.pure {x : α} (h : post (.ok x) s) : (Pure.pure x : Action σ α).Ends s post :=
  fun _ => h

theorem Ends.throw {fault : Fault} (h : post (.error fault) s) :
    (MonadExcept.throw fault : Action σ α).Ends s post :=
  fun _ => h

theorem Ends.ofExcept {e : Except Fault α} (h : post e s) : (ofExcept e).Ends s post := by
  cases e with
  | ok x => exact Ends.pure h
  | error fault => exact Ends.throw h

theorem Ends.record {post : Except Fault Unit → σ → Prop} {level : Level} {text : String}
    (h : post (.ok ()) s) : (record level text).Ends s post :=
  fun _ => h

theorem Ends.modify {post : Except Fault Unit → σ → Prop} {f : σ → σ} (h : post (.ok ()) (f s)) :
    (modify f : Action σ Unit).Ends s post :=
  fun _ => h

theorem Ends.attempt {a : Action σ α} {post : Except Fault (Except Fault α) → σ → Prop}
    (h : a.Ends s fun outcome s' => post (.ok outcome) s') : a.attempt.Ends s post :=
  fun log => h log

theorem Ends.within {a : Action τ α} {get : σ → τ} {put : σ → τ → σ}
    (h : a.Ends (get s) fun outcome t => post outcome (put s t)) : (a.within get put).Ends s post :=
  fun log => h log

theorem Ends.map {a : Action σ α} {f : α → β}
    (h : a.Ends s fun outcome s' => goal (f <$> outcome) s') : (f <$> a).Ends s goal := by
  intro log
  rw [map_eq_pure_bind, runFrom_bind]
  have hgoal := h log
  generalize a.runFrom s log = ending at hgoal
  obtain ⟨outcome, s', log'⟩ := ending
  cases outcome with
  | ok x => exact hgoal
  | error fault => exact hgoal

theorem EndsAt.bind {a : Action σ α} {f : α → Action σ β} {log : Log} (ha : a.EndsAt s log post)
    (hok : ∀ x s', post (.ok x) s' → (f x).Ends s' goal)
    (herror : ∀ fault s', post (.error fault) s' → goal (.error fault) s') :
    (a >>= f).EndsAt s log goal := by
  unfold EndsAt at ha ⊢
  rw [runFrom_bind]
  generalize a.runFrom s log = ending at ha
  obtain ⟨outcome, s', log'⟩ := ending
  cases outcome with
  | ok x => exact hok x s' ha log'
  | error fault => exact herror fault s' ha

theorem Ends.bind {a : Action σ α} {f : α → Action σ β} (ha : a.Ends s post)
    (hok : ∀ x s', post (.ok x) s' → (f x).Ends s' goal)
    (herror : ∀ fault s', post (.error fault) s' → goal (.error fault) s') :
    (a >>= f).Ends s goal :=
  fun log => EndsAt.bind (ha log) hok herror

theorem Ends.bind_returns {a : Action σ α} {f : α → Action σ β} {returned : α → σ → Prop}
    (ha : a.Ends s fun outcome s' => ∃ x, outcome = .ok x ∧ returned x s')
    (hf : ∀ x s', returned x s' → (f x).Ends s' goal) : (a >>= f).Ends s goal := by
  refine Ends.bind ha ?_ ?_
  · rintro x s' ⟨y, heq, hy⟩
    cases heq
    exact hf x s' hy
  · rintro fault s' ⟨y, heq, -⟩
    cases heq

theorem Ends.bind_ok {a : Action σ α} {f : α → Action σ β} {x : α} {after : σ → Prop}
    (ha : a.Ends s fun outcome s' => outcome = .ok x ∧ after s')
    (hf : ∀ s', after s' → (f x).Ends s' goal) : (a >>= f).Ends s goal := by
  refine Ends.bind ha ?_ ?_
  · rintro y s' ⟨heq, hs'⟩
    cases heq
    exact hf s' hs'
  · rintro fault s' ⟨heq, -⟩
    cases heq

theorem Ends.bind_eq {a : Action σ α} {f : α → Action σ β} {x : α} {s' : σ}
    (ha : a.Ends s fun outcome t => outcome = .ok x ∧ t = s') (hf : (f x).Ends s' goal) :
    (a >>= f).Ends s goal :=
  Ends.bind_ok ha fun _ ht => ht ▸ hf

/-- A bind computes what its parts compute, one after the other. -/
theorem Ends.bind_computes {a : Action σ α} {f : α → Action σ β} {x : Except Fault α}
    {g : α → Except Fault β} {between after : σ → Prop}
    (ha : a.Ends s fun outcome s' => outcome = x ∧ between s')
    (hf : ∀ y s', x = .ok y → between s' →
      (f y).Ends s' fun outcome s'' => outcome = g y ∧ after s'')
    (hfault : ∀ s', between s' → after s') :
    (a >>= f).Ends s fun outcome s' => outcome = x >>= g ∧ after s' := by
  cases x with
  | ok y => exact Ends.bind_ok ha fun s' hs' => hf y s' rfl hs'
  | error fault =>
      refine Ends.bind ha ?_ ?_
      · rintro y s' ⟨heq, -⟩
        cases heq
      · rintro fault' s' ⟨heq, hs'⟩
        exact ⟨congrArg _ (Except.error.inj heq), hfault s' hs'⟩

/-! ### The first step of a sequence -/

theorem Ends.bind_ofExcept {e : Except Fault α} {f : α → Action σ β}
    (hok : ∀ x, e = .ok x → (f x).Ends s goal)
    (herror : ∀ fault, e = .error fault → goal (.error fault) s) :
    (Action.ofExcept e >>= f).Ends s goal := by
  cases he : e with
  | ok x => exact fun log => hok x he log
  | error fault => exact fun log => herror fault he

theorem Ends.bind_ofExcept_computes {x : Except Fault α} {f : α → Action σ β}
    {g : α → Except Fault β} {after : σ → Prop} (hs : after s)
    (hf : ∀ y, x = .ok y → (f y).Ends s fun outcome s' => outcome = g y ∧ after s') :
    (Action.ofExcept x >>= f).Ends s fun outcome s' => outcome = x >>= g ∧ after s' := by
  cases x with
  | ok y => exact hf y rfl
  | error fault => exact fun _ => ⟨rfl, hs⟩

theorem Ends.bind_attempt {a : Action σ α} {f : Except Fault α → Action σ β} (ha : a.Ends s post)
    (h : ∀ outcome s', post outcome s' → (f outcome).Ends s' goal) :
    (a.attempt >>= f).Ends s goal :=
  fun log => h _ _ (ha log) (a.runFrom s log).log

theorem EndsAt.bind_attempt {a : Action σ α} {f : Except Fault α → Action σ β} {log : Log}
    (ha : a.EndsAt s log post) (h : ∀ outcome s', post outcome s' → (f outcome).Ends s' goal) :
    (a.attempt >>= f).EndsAt s log goal :=
  h _ _ ha (a.runFrom s log).log

theorem Ends.bind_get {f : σ → Action σ β} (h : (f s).Ends s goal) :
    ((get : Action σ σ) >>= f).Ends s goal :=
  fun log => h log

theorem Ends.bind_set {s' : σ} {f : PUnit → Action σ β} (h : (f ⟨⟩).Ends s' goal) :
    ((MonadStateOf.set s' : Action σ PUnit) >>= f).Ends s goal :=
  fun log => h log

theorem Ends.bind_modify {g : σ → σ} {f : PUnit → Action σ β} (h : (f ⟨⟩).Ends (g s) goal) :
    ((MonadState.modifyGet (fun s => (⟨⟩, g s)) : Action σ PUnit) >>= f).Ends s goal :=
  fun log => h log

theorem Ends.bind_record {level : Level} {text : String} {f : Unit → Action σ β}
    (h : (f ()).Ends s goal) : (Action.record level text >>= f).Ends s goal :=
  fun log => h (log ++ [LogEntry.mk level text])

/-! ### Actions that do not look at the state

The outcome of a steady action is one and the same from every good state,
and it ends in a good state again. A cache is such a state: what it holds
decides how an answer is found, but not which. -/

/-- Every good state gives the action the same outcome and is followed by a
good state. -/
def Steady (good : σ → Prop) (a : Action σ α) : Prop :=
  ∃ o, ∀ s, good s → a.Ends s fun outcome s' => outcome = o ∧ good s'

variable {good : σ → Prop}

theorem Steady.pure (x : α) : (Pure.pure x : Action σ α).Steady good :=
  ⟨.ok x, fun _ hs => Ends.pure ⟨rfl, hs⟩⟩

theorem Steady.throw (fault : Fault) : (MonadExcept.throw fault : Action σ α).Steady good :=
  ⟨.error fault, fun _ hs => Ends.throw ⟨rfl, hs⟩⟩

theorem Steady.ofExcept (e : Except Fault α) : (Action.ofExcept e : Action σ α).Steady good :=
  ⟨e, fun _ hs => Ends.ofExcept ⟨rfl, hs⟩⟩

theorem Steady.record (level : Level) (text : String) :
    (Action.record level text : Action σ Unit).Steady good :=
  ⟨.ok (), fun _ hs => Ends.record ⟨rfl, hs⟩⟩

theorem Steady.bind {a : Action σ α} {f : α → Action σ β} (ha : a.Steady good)
    (hf : ∀ x, (f x).Steady good) : (a >>= f).Steady good := by
  obtain ⟨o, ha⟩ := ha
  cases o with
  | ok x =>
      obtain ⟨o, hx⟩ := hf x
      exact ⟨o, fun s hs => Ends.bind_ok (ha s hs) hx⟩
  | error fault =>
      refine ⟨.error fault, fun s hs => ?_⟩
      exact Ends.bind_computes (x := .error fault) (g := fun _ => .error fault) (ha s hs) nofun
        fun _ hs' => hs'

theorem Steady.bind_ofExcept {e : Except Fault α} {f : α → Action σ β}
    (h : ∀ x, e = .ok x → (f x).Steady good) : (Action.ofExcept e >>= f).Steady good := by
  cases e with
  | ok x => exact h x rfl
  | error fault => exact Steady.throw fault

/-- The outcome of a steady action is the one from any good state. -/
theorem Steady.ends {a : Action σ α} (h : a.Steady good) {start : σ} (hstart : good start)
    (hs : good s) :
    a.Ends s fun outcome s' => outcome = (a.runFrom start []).outcome ∧ good s' := by
  obtain ⟨o, h⟩ := h
  refine (h s hs).mono fun outcome s' hend => ⟨?_, hend.2⟩
  rw [hend.1, (h start hstart []).1]

/-! ### Actions that do not fail -/

def Succeeds (a : Action σ α) : Prop := ∀ s, a.Ends s fun outcome _ => ∃ x, outcome = .ok x

theorem Succeeds.pure (x : α) : (Pure.pure x : Action σ α).Succeeds := fun _ => Ends.pure ⟨x, rfl⟩

theorem Succeeds.record (level : Level) (text : String) :
    (Action.record level text : Action σ Unit).Succeeds :=
  fun _ => Ends.record ⟨(), rfl⟩

theorem Succeeds.modify (f : σ → σ) : (modify f : Action σ Unit).Succeeds :=
  fun _ => Ends.modify ⟨(), rfl⟩

theorem Succeeds.attempt (a : Action σ α) : a.attempt.Succeeds := fun _ _ => ⟨_, rfl⟩

theorem Succeeds.bind {a : Action σ α} {f : α → Action σ β} (ha : a.Succeeds)
    (hf : ∀ x, (f x).Succeeds) : (a >>= f).Succeeds :=
  fun s => Ends.bind (ha s) (fun x s' _ => hf x s') fun _ _ h => by
    obtain ⟨_, h⟩ := h
    cases h

/-! ### Actions that keep a state good -/

/-- A good state is followed by a good state, whatever the outcome. -/
def Keeps (good : σ → Prop) (a : Action σ α) : Prop :=
  ∀ s, good s → a.Ends s fun _ s' => good s'

theorem Keeps.pure (x : α) : (Pure.pure x : Action σ α).Keeps good := fun _ hs => Ends.pure hs

theorem Keeps.throw (fault : Fault) : (MonadExcept.throw fault : Action σ α).Keeps good :=
  fun _ hs => Ends.throw hs

theorem Keeps.ofExcept (e : Except Fault α) : (Action.ofExcept e : Action σ α).Keeps good :=
  fun _ hs => Ends.ofExcept hs

theorem Keeps.record (level : Level) (text : String) :
    (Action.record level text : Action σ Unit).Keeps good :=
  fun _ hs => Ends.record hs

theorem Keeps.modify {f : σ → σ} (h : ∀ s, good s → good (f s)) :
    (modify f : Action σ Unit).Keeps good :=
  fun s hs => Ends.modify (h s hs)

theorem Keeps.attempt {a : Action σ α} (h : a.Keeps good) : a.attempt.Keeps good :=
  fun s hs => Ends.attempt (h s hs)

theorem Keeps.bind {a : Action σ α} {f : α → Action σ β} (ha : a.Keeps good)
    (hf : ∀ x, (f x).Keeps good) : (a >>= f).Keeps good :=
  fun s hs => Ends.bind (ha s hs) (fun x s' hs' => hf x s' hs') fun _ _ hs' => hs'

theorem Keeps.bind_ofExcept {e : Except Fault α} {f : α → Action σ β}
    (h : ∀ x, e = .ok x → (f x).Keeps good) : (Action.ofExcept e >>= f).Keeps good := by
  cases e with
  | ok x => exact h x rfl
  | error fault => exact Keeps.throw fault

/-! ### Actions that return something good -/

/-- A good state is followed by a good state, and whatever the action returns is as
it should be. -/
def Yields (good : σ → Prop) (a : Action σ α) (returned : α → Prop) : Prop :=
  ∀ s, good s → a.Ends s fun outcome s' => good s' ∧ ∀ x, outcome = .ok x → returned x

variable {returned : α → Prop} {wanted : β → Prop}

theorem Yields.pure {x : α} (h : returned x) : (Pure.pure x : Action σ α).Yields good returned :=
  fun _ hs => Ends.pure ⟨hs, by rintro _ ⟨⟩; exact h⟩

theorem Yields.throw (fault : Fault) :
    (MonadExcept.throw fault : Action σ α).Yields good returned :=
  fun _ hs => Ends.throw ⟨hs, fun _ h => by cases h⟩

theorem Yields.ofExcept {e : Except Fault α} (h : ∀ x, e = .ok x → returned x) :
    (Action.ofExcept e : Action σ α).Yields good returned :=
  fun _ hs => Ends.ofExcept ⟨hs, h⟩

theorem Keeps.yields {a : Action σ α} (h : a.Keeps good) : a.Yields good fun _ => True :=
  fun s hs => (h s hs).mono fun _ _ hs' => ⟨hs', fun _ _ => trivial⟩

theorem Yields.anything (a : Action σ α) : a.Yields (fun _ => True) fun _ => True :=
  fun _ _ _ => ⟨trivial, fun _ _ => trivial⟩

theorem Yields.bind {a : Action σ α} {f : α → Action σ β} (ha : a.Yields good returned)
    (hf : ∀ x, returned x → (f x).Yields good wanted) : (a >>= f).Yields good wanted :=
  fun s hs => Ends.bind (ha s hs) (fun x s' h => hf x (h.2 x rfl) s' h.1)
    fun _ _ h => ⟨h.1, fun _ h => by cases h⟩

theorem Yields.map {a : Action σ α} {f : α → β} (ha : a.Yields good fun x => wanted (f x)) :
    (f <$> a).Yields good wanted := by
  rw [map_eq_pure_bind]
  exact .bind ha fun _ hx => .pure hx

/-- What goes on after an attempt has a fault or something good to go on with. -/
theorem Yields.bind_attempt {a : Action σ α} {f : Except Fault α → Action σ β}
    (ha : a.Yields good returned) (hok : ∀ x, returned x → (f (.ok x)).Yields good wanted)
    (herror : ∀ fault, (f (.error fault)).Yields good wanted) :
    (a.attempt >>= f).Yields good wanted := by
  intro s hs
  refine Ends.bind_attempt (ha s hs) ?_
  rintro (fault | x) s' ⟨hs', hx⟩
  · exact herror fault s' hs'
  · exact hok x (hx x rfl) s' hs'

/-! ### Actions that leave something alone -/

/-- What a view shows of the state is the same after the action. -/
def Leaves (view : σ → τ) (a : Action σ α) : Prop :=
  ∀ s, a.Ends s fun _ s' => view s' = view s

variable {view : σ → τ}

theorem Leaves.comp {a : Action σ α} (h : a.Leaves view) {γ : Type} (f : τ → γ) :
    a.Leaves fun s => f (view s) :=
  fun s => (h s).mono fun _ _ hs => congrArg f hs

theorem Leaves.prod {a : Action σ α} (h : a.Leaves view) {γ : Type} {other : σ → γ}
    (hother : a.Leaves other) : a.Leaves fun s => (view s, other s) :=
  fun s => ((h s).and (hother s)).mono fun _ _ hs => Prod.ext hs.1 hs.2

theorem Leaves.pure (x : α) : (Pure.pure x : Action σ α).Leaves view := fun _ => Ends.pure rfl

theorem Leaves.throw (fault : Fault) : (MonadExcept.throw fault : Action σ α).Leaves view :=
  fun _ => Ends.throw rfl

theorem Leaves.ofExcept (e : Except Fault α) : (Action.ofExcept e : Action σ α).Leaves view :=
  fun _ => Ends.ofExcept rfl

theorem Leaves.record (level : Level) (text : String) :
    (Action.record level text : Action σ Unit).Leaves view :=
  fun _ => Ends.record rfl

theorem Leaves.attempt {a : Action σ α} (h : a.Leaves view) : a.attempt.Leaves view :=
  fun s => Ends.attempt (h s)

theorem Leaves.bind {a : Action σ α} {f : α → Action σ β} (ha : a.Leaves view)
    (hf : ∀ x, (f x).Leaves view) : (a >>= f).Leaves view :=
  fun s => Ends.bind (ha s) (fun x s' hs => hs ▸ hf x s') fun _ _ hs => hs

/-- An action leaves a view alone if it keeps it from being anything else. -/
theorem leaves_of_keeps {a : Action σ α} (h : ∀ shown, a.Keeps fun s => view s = shown) :
    a.Leaves view :=
  fun s => h (view s) s rfl

/-- What depends on the view alone is kept. -/
theorem Leaves.keeps {a : Action σ α} (h : a.Leaves view) (shown : τ → Prop) :
    a.Keeps fun s => shown (view s) :=
  fun s hs => (h s).mono fun _ _ heq => (congrArg shown heq).mpr hs

/-! ### Actions on views -/

/-- The second action does on the view of a state what the first does on
the state. -/
def Mirrors (view : σ → τ) (a : Action σ α) (b : Action τ α) : Prop :=
  ∀ s log, b.runFrom (view s) log =
    ⟨(a.runFrom s log).outcome, view (a.runFrom s log).state, (a.runFrom s log).log⟩

theorem Mirrors.pure (x : α) : Mirrors view (Pure.pure x) (Pure.pure x) := fun _ _ => rfl

theorem Mirrors.throw (fault : Fault) :
    Mirrors view (MonadExcept.throw fault : Action σ α) (MonadExcept.throw fault) := fun _ _ => rfl

theorem Mirrors.record (level : Level) (text : String) :
    Mirrors view (Action.record level text) (Action.record level text) := fun _ _ => rfl

theorem Mirrors.ofExcept (e : Except Fault α) :
    Mirrors view (Action.ofExcept e) (Action.ofExcept e) := by
  cases e with
  | ok x => exact .pure x
  | error fault => exact .throw fault

theorem Mirrors.attempt {a : Action σ α} {b : Action τ α} (h : Mirrors view a b) :
    Mirrors view a.attempt b.attempt := by
  intro s log
  rw [runFrom_attempt, runFrom_attempt, h s log]

theorem Mirrors.bind {a : Action σ α} {b : Action τ α} {f : α → Action σ β} {g : α → Action τ β}
    (ha : Mirrors view a b) (hf : ∀ x, Mirrors view (f x) (g x)) :
    Mirrors view (a >>= f) (b >>= g) := by
  intro s log
  rw [runFrom_bind, runFrom_bind, ha s log]
  generalize a.runFrom s log = ending
  obtain ⟨outcome, s', log'⟩ := ending
  cases outcome with
  | ok x => exact hf x s' log'
  | error fault => rfl

theorem Mirrors.bind_get {f : σ → Action σ β} {g : τ → Action τ β}
    (h : ∀ s, Mirrors view (f s) (g (view s))) :
    Mirrors view ((get : Action σ σ) >>= f) ((get : Action τ τ) >>= g) :=
  fun s log => h s s log

theorem Mirrors.modify {f : σ → σ} {g : τ → τ} (h : ∀ s, g (view s) = view (f s)) :
    Mirrors view (modify f : Action σ Unit) (modify g : Action τ Unit) := by
  intro s log
  show (⟨.ok (), g (view s), log⟩ : Ending τ Unit) = ⟨.ok (), view (f s), log⟩
  rw [h s]

end Action

/-! ### Actions alike

An action may do something else when it finds another log, as what is outside can. What
an engine does by itself does not: it ends alike from all states that look the same. -/

/-- Two endings have the same outcome, and their states look the same. -/
structure Ending.Alike {σ τ α : Type} (view : σ → τ) (x y : Ending σ α) : Prop where
  outcome : x.outcome = y.outcome
  state : view x.state = view y.state

namespace Ending.Alike

open AlertRules.Action

variable {σ τ α β : Type} {view : σ → τ} {a b : Action σ α} {s t : σ} {log log' : Log}

theorem attempt (h : (a.runFrom s log).Alike view (b.runFrom t log')) :
    (a.attempt.runFrom s log).Alike view (b.attempt.runFrom t log') :=
  ⟨congrArg Except.ok h.outcome, h.state⟩

end Ending.Alike

namespace Action

variable {σ τ α β : Type} {view : σ → τ}

/-- From states that look the same both actions end alike, whatever the logs. -/
def Alike (view : σ → τ) (a b : Action σ α) : Prop :=
  ∀ s t, view s = view t → ∀ log log', (a.runFrom s log).Alike view (b.runFrom t log')

/-- What is alike goes on alike, if it goes on with actions that are. -/
theorem runFrom_bind_alike {a b : Action σ α} {f g : α → Action σ β} {s t : σ} {log log' : Log}
    (h : (a.runFrom s log).Alike view (b.runFrom t log')) (hf : ∀ x, Alike view (f x) (g x)) :
    ((a >>= f).runFrom s log).Alike view ((b >>= g).runFrom t log') := by
  rw [runFrom_bind, runFrom_bind, ← h.outcome]
  cases (a.runFrom s log).outcome with
  | ok x => exact hf x _ _ h.state _ _
  | error fault => exact ⟨rfl, h.state⟩

theorem Alike.bind {a b : Action σ α} {f g : α → Action σ β} (h : Alike view a b)
    (hf : ∀ x, Alike view (f x) (g x)) : Alike view (a >>= f) (b >>= g) :=
  fun s t hst log log' => runFrom_bind_alike (h s t hst log log') hf

theorem Alike.attempt {a b : Action σ α} (h : Alike view a b) : Alike view a.attempt b.attempt :=
  fun s t hst log log' => (h s t hst log log').attempt

theorem Alike.of_ends {a b : Action σ α} {o : Except Fault α}
    (ha : ∀ s, a.Ends s fun outcome s' => outcome = o ∧ view s' = view s)
    (hb : ∀ s, b.Ends s fun outcome s' => outcome = o ∧ view s' = view s) : Alike view a b :=
  fun s t hst log log' => ⟨(ha s log).1.trans (hb t log').1.symm,
    (ha s log).2.trans (hst.trans (hb t log').2.symm)⟩

theorem Alike.pure (x : α) : Alike view (Pure.pure x : Action σ α) (Pure.pure x) :=
  .of_ends (fun _ => .pure ⟨rfl, rfl⟩) fun _ => .pure ⟨rfl, rfl⟩

theorem Alike.throw (fault : Fault) :
    Alike view (MonadExcept.throw fault : Action σ α) (MonadExcept.throw fault) :=
  .of_ends (fun _ => .throw ⟨rfl, rfl⟩) fun _ => .throw ⟨rfl, rfl⟩

theorem Alike.record (level level' : Level) (text text' : String) :
    Alike view (Action.record level text : Action σ Unit) (Action.record level' text') :=
  .of_ends (fun _ => .record ⟨rfl, rfl⟩) fun _ => .record ⟨rfl, rfl⟩

theorem Alike.ofExcept (e : Except Fault α) :
    Alike view (Action.ofExcept e : Action σ α) (Action.ofExcept e) :=
  .of_ends (fun _ => .ofExcept ⟨rfl, rfl⟩) fun _ => .ofExcept ⟨rfl, rfl⟩

theorem Alike.modify {f g : σ → σ} (h : ∀ s t, view s = view t → view (f s) = view (g t)) :
    Alike view (modify f : Action σ Unit) (modify g) :=
  fun s t hst _ _ => ⟨rfl, h s t hst⟩

theorem Steady.alike {a : Action σ α} (h : ∀ s, a.Steady (· = s)) : Alike id a a := by
  rintro s _ rfl log log'
  obtain ⟨o, hends⟩ := h s
  have hlog := hends s rfl log
  have hlog' := hends s rfl log'
  exact ⟨hlog.1.trans hlog'.1.symm, hlog.2.trans hlog'.2.symm⟩

end Action

end AlertRules
