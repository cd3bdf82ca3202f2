import AlertRules.Proofs.Execution.Courses
import AlertRules.Proofs.Execution.Stages
import Mathlib.Logic.Function.Basic

/-!
Executors that share a store.

Several executors work on results of their own and take turns after each
stage, in any order. Between the turns the states of alerts may change,
as long as none is opened. What each executor does is written down as
events.

The events of one executor run through the same phases for every result
(`Phase.next`): it looks for an open alert, and what ends the work early
is that one is found or that the store refuses the new one; otherwise it
holds the alert that it has inserted, until it has dispatched it. So a
dispatch always follows the insertion it belongs to, and no more alerts
are dispatched than inserted (`Team.interleaved`).
-/

namespace AlertRules

/-! ### Events and phases -/

inductive WorkEvent where
  | began
  | found
  | refused
  | inserted (key : AlertKey) (id : String)
  | dispatched (key : AlertKey) (id : Option String)
  | gaveUp
  deriving DecidableEq

namespace WorkEvent

def isInsert (key : AlertKey) : WorkEvent → Bool
  | .inserted k _ => k == key
  | _ => false

def isDispatch (key : AlertKey) : WorkEvent → Bool
  | .dispatched k _ => k == key
  | _ => false

end WorkEvent

inductive Phase where
  | resting
  | searching
  | holding (key : AlertKey) (id : String)
  deriving DecidableEq

namespace Phase

def next : Phase → WorkEvent → Option Phase
  | .resting, .began => some .searching
  | .searching, .found => some .resting
  | .searching, .refused => some .resting
  | .searching, .gaveUp => some .resting
  | .searching, .inserted key id => some (.holding key id)
  | .holding key id, .dispatched k i => if k = key ∧ i = some id then some .resting else none
  | .holding _ _, .gaveUp => some .resting
  | _, _ => none

/-- The phase after several events, if they may come in this order. -/
def run : Phase → List WorkEvent → Option Phase
  | p, [] => some p
  | p, event :: rest => (p.next event).bind fun q => q.run rest

def held (key : AlertKey) : Phase → Nat
  | .holding k _ => if k = key then 1 else 0
  | _ => 0

theorem run_append (p : Phase) (events later : List WorkEvent) :
    p.run (events ++ later) = (p.run events).bind fun q => q.run later := by
  induction events generalizing p with
  | nil => rfl
  | cons event rest ih =>
      rw [List.cons_append, run, run]
      cases p.next event with
      | none => rfl
      | some q => exact ih q

/-- One event neither dispatches nor holds more than was inserted or held. -/
theorem held_next {p q : Phase} {event : WorkEvent} (h : p.next event = some q) (key : AlertKey) :
    (if event.isDispatch key then 1 else 0) + q.held key ≤
      (if event.isInsert key then 1 else 0) + p.held key := by
  unfold next at h
  split at h
  · cases h
    exact Nat.le_refl 0
  · cases h
    exact Nat.le_refl 0
  · cases h
    exact Nat.le_refl 0
  · cases h
    exact Nat.le_refl 0
  · cases h
    simp [WorkEvent.isDispatch, WorkEvent.isInsert, held]
  · split at h
    next hsame =>
        cases h
        simp [WorkEvent.isDispatch, WorkEvent.isInsert, held, hsame.1]
    next => cases h
  · cases h
    exact Nat.zero_le _
  · cases h

theorem held_run {p q : Phase} {events : List WorkEvent} (h : p.run events = some q)
    (key : AlertKey) :
    events.countP (·.isDispatch key) + q.held key ≤
      events.countP (·.isInsert key) + p.held key := by
  induction events generalizing p with
  | nil =>
      cases h
      simp
  | cons event rest ih =>
      obtain ⟨r, hr, hrest⟩ := Option.bind_eq_some_iff.mp h
      have hfirst := held_next hr key
      have hlater := ih hrest
      rw [List.countP_cons, List.countP_cons]
      omega

/-- What is held was the last thing to be inserted. -/
theorem run_holding {events : List WorkEvent} {key : AlertKey} {id : String}
    (h : resting.run events = some (.holding key id)) :
    ∃ earlier, events = earlier ++ [.inserted key id] := by
  rcases List.eq_nil_or_concat events with rfl | ⟨earlier, last, rfl⟩
  · cases h
  · rw [List.concat_eq_append, run_append] at h
    obtain ⟨p, -, hlast⟩ := Option.bind_eq_some_iff.mp h
    obtain ⟨q, hq, hdone⟩ := Option.bind_eq_some_iff.mp hlast
    cases hdone
    refine ⟨earlier, ?_⟩
    rw [List.concat_eq_append]
    unfold next at hq
    split at hq
    all_goals first | cases hq | (split at hq <;> cases hq)
    rfl

/-- A dispatch comes right after the insertion of what is dispatched. -/
theorem dispatched_inserted {events before after : List WorkEvent} {key : AlertKey}
    {id : Option String} {p : Phase} (h : resting.run events = some p)
    (hevents : events = before ++ .dispatched key id :: after) :
    ∃ earlier inserted, id = some inserted ∧ before = earlier ++ [.inserted key inserted] := by
  rw [hevents, run_append] at h
  obtain ⟨q, hbefore, hrest⟩ := Option.bind_eq_some_iff.mp h
  obtain ⟨r, hr, -⟩ := Option.bind_eq_some_iff.mp hrest
  cases q with
  | holding k i =>
      rw [next] at hr
      split at hr
      next hsame =>
          obtain ⟨earlier, heq⟩ := run_holding hbefore
          exact ⟨earlier, i, hsame.2, hsame.1 ▸ heq⟩
      next => cases hr
  | resting => cases hr
  | searching => cases hr

/-- After an alert that is found, or that the store refuses, the next thing
is to begin with another result. -/
theorem began_of_duplicate {events before after : List WorkEvent} {event following : WorkEvent}
    {p : Phase} (h : resting.run events = some p)
    (hevents : events = before ++ event :: following :: after)
    (hduplicate : event = .found ∨ event = .refused) : following = .began := by
  rw [hevents, run_append] at h
  obtain ⟨q, -, hrest⟩ := Option.bind_eq_some_iff.mp h
  obtain ⟨r, hr, hrest⟩ := Option.bind_eq_some_iff.mp hrest
  obtain ⟨t, ht, -⟩ := Option.bind_eq_some_iff.mp hrest
  have hresting : r = .resting := by
    rcases hduplicate with rfl | rfl
    · cases q <;> cases hr
      rfl
    · cases q <;> cases hr
      rfl
  rw [hresting] at ht
  cases following <;> cases ht
  rfl

end Phase

/-! ### Turns -/

/-- Where an executor stands between two turns. -/
inductive Standing where
  | idle
  | creating (s : Submission) (organizationId fingerprint : Value)
  | announcing (s : Submission) (a : Alert) (id : Option String)

namespace Standing

variable {ω : Type}

/-- One turn: the next stage of the work on a result, and what it came to. An
idle executor takes up the result `s`. -/
def turn (e : Executor ω) (clock : Clock) (s : Submission) :
    Standing → Action (Desk ω) (Standing × List WorkEvent)
  | .idle => do
    match ← (e.search s).attempt with
    | .ok none => pure (.idle, [.began, .found])
    | .ok (some (organizationId, fingerprint)) =>
      pure (.creating s organizationId fingerprint, [.began])
    | .error _ => pure (.idle, [.began, .gaveUp])
  | .creating s organizationId fingerprint => do
    match ← (e.create clock s organizationId fingerprint).attempt with
    | .ok none => pure (.idle, [.refused])
    | .ok (some (a, some id)) => pure (.announcing s a (some id), [.inserted a.key id])
    | .ok (some (a, none)) => pure (.announcing s a none, [])
    | .error _ => pure (.idle, [.gaveUp])
  | .announcing s a id => do
    -- an announcement fails before its first send or not at all
    match ← (e.announce clock s a id).attempt with
    | .ok () => pure (.idle, [.dispatched a.key id])
    | .error _ => pure (.idle, [.gaveUp])

/-- The phase of a stage; an alert that could not be saved has none. -/
def phase? : Standing → Option Phase
  | .idle => some .resting
  | .creating _ _ _ => some .searching
  | .announcing _ a (some id) => some (.holding a.key id)
  | .announcing _ _ none => none

/-- What a turn may do to the alerts: nothing, or what it says it inserted. -/
def Inserts (events : List WorkEvent) (alerts alerts' : List StoredAlert) : Prop :=
  ((∀ key, events.countP (·.isInsert key) = 0) ∧ alerts' = alerts) ∨
    ∃ a id, events = [.inserted a.key id] ∧ alerts.any (·.isOpenKey a.key) = false ∧
      alerts' = alerts ++ [⟨id, a, a.status.name⟩]

theorem turn_ends {e : Executor ω} {shared : SharedStore ω} (h : e.Shares shared) (clock : Clock)
    (s : Submission) {standing : Standing} {p : Phase} (hphase : standing.phase? = some p)
    (d : Desk ω) :
    (standing.turn e clock s).Ends d fun outcome d' =>
      ∃ standing' events p', outcome = .ok (standing', events) ∧ standing'.phase? = some p' ∧
        p.run events = some p' ∧
        Inserts events (shared.alerts d.world) (shared.alerts d'.world) := by
  cases standing with
  | idle =>
      cases hphase
      refine .bind_attempt (h.search_ends s d) ?_
      intro outcome d' hd'
      match outcome with
      | .ok none => exact .pure ⟨_, _, _, rfl, rfl, rfl, .inl ⟨fun _ => rfl, hd'⟩⟩
      | .ok (some (organizationId, fingerprint)) =>
          exact .pure ⟨_, _, _, rfl, rfl, rfl, .inl ⟨fun _ => rfl, hd'⟩⟩
      | .error _ => exact .pure ⟨_, _, _, rfl, rfl, rfl, .inl ⟨fun _ => rfl, hd'⟩⟩
  | creating s organizationId fingerprint =>
      cases hphase
      refine .bind_attempt (h.create_ends clock s organizationId fingerprint d) ?_
      rintro outcome d' (⟨⟨fault, rfl⟩ | rfl, hd'⟩ | ⟨a, id, rfl, hnone, hd'⟩)
      · exact .pure ⟨_, _, _, rfl, rfl, rfl, .inl ⟨fun _ => rfl, hd'⟩⟩
      · exact .pure ⟨_, _, _, rfl, rfl, rfl, .inl ⟨fun _ => rfl, hd'⟩⟩
      · exact .pure ⟨_, _, _, rfl, rfl, rfl, .inr ⟨a, id, rfl, hnone, hd'⟩⟩
  | announcing s a alertId =>
      cases alertId with
      | none => cases hphase
      | some id =>
          cases hphase
          refine .bind_attempt (h.announce_ends clock s a (some id) d) ?_
          intro outcome d' hd'
          cases outcome with
          | ok =>
              refine .pure ⟨_, _, _, rfl, rfl, ?_, .inl ⟨fun _ => rfl, hd'⟩⟩
              simp [Phase.run, Phase.next]
          | error fault => exact .pure ⟨_, _, _, rfl, rfl, rfl, .inl ⟨fun _ => rfl, hd'⟩⟩

end Standing

/-! ### Teams -/

/-- Executors on a shared store. -/
structure Team (ι ω : Type) where
  shared : SharedStore ω
  executor : ι → Executor ω
  shares : ∀ i, (executor i).Shares shared

/-- The world that a team works in, where each executor stands, and what has
happened so far. -/
structure Site (ι ω : Type) where
  world : ω
  pools : ι → Pool := fun _ => {}
  standings : ι → Standing := fun _ => .idle
  trace : List (ι × WorkEvent) := []

/-- What can happen next: a turn of an executor, or a change in the world that
opens no alert. An idle executor takes up the result `s`. -/
inductive Move {ι ω : Type} (team : Team ι ω) where
  | turn (i : ι) (s : Submission) (clock : Clock) (log : Log)
  | outside (change : ω → ω)
      (closes : ∀ w, Closes (team.shared.alerts w) (team.shared.alerts (change w)))

namespace Site

variable {ι ω : Type} [DecidableEq ι]

def history (site : Site ι ω) (i : ι) : List WorkEvent :=
  (site.trace.filter (·.1 == i)).map Prod.snd

def after {team : Team ι ω} (site : Site ι ω) : Move team → Site ι ω
  | .turn i s clock log =>
    let ending := ((site.standings i).turn (team.executor i) clock s).runFrom
      ⟨site.world, site.pools i⟩ log
    match ending.outcome with
    | .ok (standing, events) =>
      { world := ending.state.world
        pools := Function.update site.pools i ending.state.pool
        standings := Function.update site.standings i standing
        trace := site.trace ++ events.map (i, ·) }
    | .error _ => site
  | .outside change _ => { site with world := change site.world }

theorem history_append {site site' : Site ι ω} {i : ι} {events : List WorkEvent}
    (h : site'.trace = site.trace ++ events.map (i, ·)) (j : ι) :
    site'.history j = if j = i then site.history j ++ events else site.history j := by
  rw [history, h, List.filter_append, List.map_append, List.filter_map, List.map_map]
  split
  next hsame =>
      subst hsame
      have hall : events.filter ((fun entry => entry.1 == j) ∘ (j, ·)) = events := by
        simp [Function.comp_def]
      rw [hall]
      simp [history, Function.comp_def]
  next hother =>
      have hnone : events.filter ((fun entry => entry.1 == j) ∘ (i, ·)) = [] := by
        simp [Function.comp_def, Ne.symm hother]
      rw [hnone, List.map_nil, List.append_nil, history]

/-- What the invariant of a team at work is: one open alert of a kind, every
alert accounted for, and every executor in the phase of its history. -/
structure Sound (team : Team ι ω) (start : ω) (site : Site ι ω) : Prop where
  oneOpen : OneOpen (team.shared.alerts site.world)
  stock : ∀ key, (team.shared.alerts site.world).countP (·.isKey key) =
    (team.shared.alerts start).countP (·.isKey key) + site.trace.countP (·.2.isInsert key)
  history : ∀ i, ∃ p, (site.standings i).phase? = some p ∧
    Phase.resting.run (site.history i) = some p

theorem sound_start {team : Team ι ω} {start : ω} (h : OneOpen (team.shared.alerts start)) :
    Sound team start { world := start } :=
  ⟨h, fun _ => rfl, fun _ => ⟨.resting, rfl, rfl⟩⟩

/-- A move keeps the invariant: one case for a turn, one for the world. -/
theorem Sound.after {team : Team ι ω} {start : ω} {site : Site ι ω} (h : Sound team start site)
    (move : Move team) : Sound team start (site.after move) := by
  cases move with
  | outside change closes =>
      refine ⟨(closes site.world).oneOpen h.oneOpen, fun key => ?_, h.history⟩
      exact ((closes site.world).countP_isKey key).trans (h.stock key)
  | turn i s clock log =>
      obtain ⟨p, hphase, hrun⟩ := h.history i
      obtain ⟨standing, events, q, houtcome, hphase', hrun', hinserts⟩ :=
        Standing.turn_ends (team.shares i) clock s hphase ⟨site.world, site.pools i⟩ log
      simp only [Site.after, houtcome]
      refine ⟨?_, fun key => ?_, fun j => ?_⟩
      · rcases hinserts with ⟨-, hsame⟩ | ⟨a, id, -, hnone, hinserted⟩
        · dsimp only
          rw [hsame]
          exact h.oneOpen
        · dsimp only
          rw [hinserted]
          exact h.oneOpen.insert hnone id _
      · -- the stock grows by what the turn says it has inserted
        have hevents : (events.map (i, ·)).countP (fun entry => entry.2.isInsert key) =
            events.countP (·.isInsert key) := List.countP_map
        have hstock := h.stock key
        rw [List.countP_append, hevents]
        dsimp only
        rcases hinserts with ⟨hnone, hsame⟩ | ⟨a, id, rfl, -, hinserted⟩
        · rw [hsame, hstock, hnone, Nat.add_zero]
        · rw [hinserted, List.countP_append, hstock, List.countP_singleton, List.countP_singleton]
          have hkey : StoredAlert.isKey key ⟨id, a, a.status.name⟩ =
              (WorkEvent.inserted a.key id).isInsert key := by
            simp only [StoredAlert.isKey, StoredAlert.isOf, WorkEvent.isInsert, Alert.key]
            rfl
          rw [hkey, Nat.add_assoc]
      · -- the history of the others is what it was
        rw [history_append rfl]
        dsimp only
        by_cases hj : j = i
        · subst hj
          refine ⟨q, by rw [Function.update_self, hphase'], ?_⟩
          rw [if_pos rfl, Phase.run_append, hrun, Option.bind_some, hrun']
        · rw [if_neg hj, Function.update_of_ne hj]
          exact h.history j

def afterAll {team : Team ι ω} (site : Site ι ω) (moves : List (Move team)) : Site ι ω :=
  moves.foldl after site

theorem Sound.afterAll {team : Team ι ω} {start : ω} {site : Site ι ω} (h : Sound team start site)
    (moves : List (Move team)) : Sound team start (site.afterAll moves) := by
  induction moves generalizing site with
  | nil => exact h
  | cons move moves ih => exact ih (h.after move)

end Site

/-! ### Counting over all executors -/

/-- If each owner has no more of one thing than of another, all of them
together have not either: induction on the number of entries, those of one
owner being taken out at once. -/
theorem countP_le_of_owners {ι α : Type} [DecidableEq ι] (few many : α → Bool)
    (entries : List (ι × α))
    (h : ∀ i, ((entries.filter (·.1 == i)).countP fun entry => few entry.2) ≤
      (entries.filter (·.1 == i)).countP fun entry => many entry.2) :
    entries.countP (fun entry => few entry.2) ≤ entries.countP fun entry => many entry.2 := by
  induction hlength : entries.length using Nat.strongRecOn generalizing entries with
  | _ n ih =>
      cases entries with
      | nil => exact Nat.le_refl 0
      | cons entry rest =>
          subst hlength
          -- the entries of the first owner, and all the others
          let isOwner : ι × α → Bool := fun other => other.1 == entry.1
          let others := (entry :: rest).filter fun other => !isOwner other
          have hshorter : others.length < (entry :: rest).length := by
            have : others = rest.filter fun other => !isOwner other := by
              simp [others, isOwner]
            rw [this, List.length_cons]
            exact Nat.lt_succ_of_le (List.length_filter_le _ _)
          have hothers : ∀ i, ((others.filter (·.1 == i)).countP fun other => few other.2) ≤
              (others.filter (·.1 == i)).countP fun other => many other.2 := by
            intro i
            by_cases hi : i = entry.1
            · have hnone : others.filter (·.1 == i) = [] := by
                rw [List.filter_filter, List.filter_eq_nil_iff]
                intro other _
                simp [isOwner, hi]
              rw [hnone]
              exact Nat.le_refl 0
            · have hall : others.filter (·.1 == i) = (entry :: rest).filter (·.1 == i) := by
                rw [List.filter_filter]
                refine List.filter_congr fun other _ => ?_
                by_cases hother : other.1 = i
                · simp [isOwner, hother, hi]
                · simp [hother]
              rw [hall]
              exact h i
          have howner := h entry.1
          have hrest := ih others.length hshorter others hothers rfl
          rw [List.countP_eq_countP_filter_add (entry :: rest) _ isOwner,
            List.countP_eq_countP_filter_add (entry :: rest) (fun other => many other.2) isOwner]
          exact Nat.add_le_add howner hrest

namespace Team

variable {ι ω : Type} [DecidableEq ι]

/-- Whatever the order of the turns, there is one open alert of a kind, no more
alerts are dispatched than inserted, and an executor dispatches nothing but
what it has just inserted; after a duplicate it goes on to another result. -/
theorem interleaved (team : Team ι ω) {start : ω} (hstart : OneOpen (team.shared.alerts start))
    (moves : List (Move team)) :
    let site : Site ι ω := Site.afterAll { world := start } moves
    OneOpen (team.shared.alerts site.world) ∧
      (∀ key, (team.shared.alerts site.world).countP (·.isKey key) =
        (team.shared.alerts start).countP (·.isKey key) + site.trace.countP (·.2.isInsert key)) ∧
      (∀ key, site.trace.countP (·.2.isDispatch key) ≤ site.trace.countP (·.2.isInsert key)) ∧
      (∀ i before key id after, site.history i = before ++ .dispatched key id :: after →
        ∃ earlier inserted, id = some inserted ∧ before = earlier ++ [.inserted key inserted]) ∧
      ∀ i before event following after, site.history i = before ++ event :: following :: after →
        event = .found ∨ event = .refused → following = .began := by
  intro site
  have hsound : Site.Sound team start site := (Site.sound_start hstart).afterAll moves
  refine ⟨hsound.oneOpen, hsound.stock, fun key => ?_, ?_, ?_⟩
  · refine countP_le_of_owners _ _ site.trace fun i => ?_
    obtain ⟨p, -, hrun⟩ := hsound.history i
    have hheld := Phase.held_run hrun key
    rw [Site.history, List.countP_map, List.countP_map] at hheld
    exact Nat.le_trans (Nat.le_add_right _ _) hheld
  · intro i before key id after hevents
    obtain ⟨p, -, hrun⟩ := hsound.history i
    exact Phase.dispatched_inserted hrun hevents
  · intro i before event following after hevents hduplicate
    obtain ⟨p, -, hrun⟩ := hsound.history i
    exact Phase.began_of_duplicate hrun hevents hduplicate

theorem shares_withSlack {ω : Type} (shared : SharedStore ω) :
    (Executor.withSlack shared.store).Shares shared := by
  refine ⟨rfl, fun outlet houtlet clock n w => ?_⟩
  rw [List.mem_singleton.mp houtlet]
  exact .bind_ofExcept (fun now _ => .pure rfl) fun _ _ => rfl

def pair : Team Bool (List StoredAlert) where
  shared := ledger
  executor _ := Executor.withSlack ledger.store
  shares _ := shares_withSlack ledger

/-- Two executors that overtake each other with one result: both find no alert,
one inserts and dispatches its own, and the other is refused. -/
theorem interleaved_pair :
    let s := Submission.ofResult (Executor.resultOf { notify := ["slack"] })
    let moves : List (Move pair) :=
      [.turn true s {} [], .turn false s {} [], .turn true s {} [], .turn false s {} [],
        .turn true s {} []]
    let site : Site Bool (List StoredAlert) := Site.afterAll { world := [] } moves
    site.trace = [(true, .began), (false, .began), (true, .inserted ("org-1", "rule-1") "alert-1"),
        (false, .refused), (true, .dispatched ("org-1", "rule-1") (some "alert-1"))] ∧
      OneOpen (pair.shared.alerts site.world) := by
  intro s moves site
  have hstart : OneOpen (pair.shared.alerts []) := fun _ => Nat.zero_le 1
  exact ⟨by decide +kernel, (pair.interleaved hstart moves).1⟩

end Team

end AlertRules
