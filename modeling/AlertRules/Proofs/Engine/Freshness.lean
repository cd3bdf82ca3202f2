import AlertRules.Proofs.Engine.Isolation
import AlertRules.Proofs.Engine.Mirror
import AlertRules.Proofs.Execution.Frame
import AlertRules.Proofs.Number.Ages
import Mathlib.Data.List.Induction

/-!
How fresh loaded rules are.

An engine keeps the rules that it loaded last. A noted engine writes down each time
that its source is asked, with the answer, and is otherwise the engine that it is
(`Engine.serveAll_mirrors`). At any time in a run the rules that are kept follow from
what is written down (`keptAfter`): they are those of the last answer that was a list,
unless the cache was cleared since. So a load that does not ask the source returns that
list while it is fresh, and any other load asks once (`Engine.load_fresh`).
-/

namespace AlertRules

open AlertRules.Action

variable {ω α : Type}

/-! ### Noted engines -/

/-- What becomes of the rules of an engine: the source is asked for them, or they are
forgotten. -/
inductive Mark where
  | asked (time : Double) (answer : Except Fault RuleSet)
  | cleared

def Mark.IsFailure : Mark → Prop
  | .asked _ (.error _) => True
  | .asked _ (.ok found) => ∃ fault, found.toList = .error fault
  | .cleared => False

/-- Some rules are those of the last list that the source gave, at some time, and the
cache was not cleared since. -/
def Mark.LastList (marks : List Mark) (rules : List RuleInput) (time : Double) : Prop :=
  ∃ before found after, marks = before ++ .asked time (.ok found) :: after ∧
    found.toList = .ok rules ∧ ∀ mark ∈ after, mark.IsFailure

/-- An outside world in which it is written down what became of the rules, oldest
first. -/
structure Noted (ω : Type) where
  world : ω
  marks : List Mark := []

namespace Noted

def outside (a : Action ω α) : Action (Noted ω) α :=
  a.within (·.world) fun w x => { w with world := x }

def note (mark : Mark) : Action (Noted ω) Unit :=
  modify fun w => { w with marks := w.marks ++ [mark] }

/-- A change of the world changes nothing that is written down. -/
def changed (change : ω → ω) (w : Noted ω) : Noted ω := { w with world := change w.world }

theorem outside_mirrors (a : Action ω α) : Action.Mirrors Noted.world (outside a) a :=
  fun _ _ => rfl

theorem outside_leaves (a : Action ω α) : (outside a).Leaves Noted.marks := fun _ _ => rfl

end Noted

def AlertStore.noted (store : AlertStore ω) : AlertStore (Noted ω) where
  findOpen o f statuses := Noted.outside (store.findOpen o f statuses)
  create a := Noted.outside (store.create a)

def Outlet.noted (outlet : Outlet ω) : Outlet (Noted ω) where
  name := outlet.name
  send clock n := Noted.outside (outlet.send clock n)

def Executor.noted (e : Executor ω) : Executor (Noted ω) where
  configuration := e.configuration
  store := e.store.map AlertStore.noted
  outlets := e.outlets.map Outlet.noted
  usesPool := e.usesPool

/-- The source with its answers written down, at the time that the clock shows. -/
def RuleSource.noted (clock : Clock) (source : RuleSource ω) : RuleSource (Noted ω) where
  fetch o m l := do
    let answer ← (Noted.outside (source.fetch o m l)).attempt
    Noted.note (.asked clock.elapsed answer)
    Action.ofExcept answer
  increment := source.increment.map fun count id => Noted.outside (count id)

/-- The engine with the answers of its source written down, at the time that the clock
shows. -/
def Engine.noted (e : Engine ω) (clock : Clock) : Engine (Noted ω) where
  configuration := e.configuration
  source := e.source.map (·.noted clock)
  executor := e.executor.noted
  named := e.named

theorem RuleSource.runFrom_noted (clock : Clock) (source : RuleSource ω) (o m l : Value)
    (w : Noted ω) (log : Log) :
    ((source.noted clock).fetch o m l).runFrom w log =
      ⟨((source.fetch o m l).runFrom w.world log).outcome,
        ⟨((source.fetch o m l).runFrom w.world log).state,
          w.marks ++
            [.asked clock.elapsed ((source.fetch o m l).runFrom w.world log).outcome]⟩,
        ((source.fetch o m l).runFrom w.world log).log⟩ :=
  runFrom_ofExcept _ _ _

theorem RuleSource.noted_mirrors (clock : Clock) (source : RuleSource ω) :
    (source.noted clock).IsMirror Noted.world source where
  fetch o m l := by
    intro w log
    rw [runFrom_noted]
  increment := by
    unfold RuleSource.noted
    cases source.increment with
    | none => exact .none
    | some count => exact .some fun id => Noted.outside_mirrors (count id)

theorem Executor.noted_mirrors (e : Executor ω) : e.noted.IsMirror Noted.world e where
  configuration := rfl
  store := by
    unfold noted
    cases e.store with
    | none => exact .none
    | some store =>
        exact .some ⟨fun _ _ _ => Noted.outside_mirrors _, fun _ => Noted.outside_mirrors _⟩
  outlets := by
    unfold noted
    rw [List.forall₂_map_left_iff, List.forall₂_same]
    exact fun outlet _ => ⟨rfl, fun _ _ => Noted.outside_mirrors _⟩
  usesPool := rfl

theorem Engine.noted_mirrors (e : Engine ω) (clock : Clock) :
    (e.noted clock).IsMirror Noted.world e where
  configuration := rfl
  source := by
    unfold noted
    cases e.source with
    | none => exact .none
    | some source => exact .some (source.noted_mirrors clock)
  executor := e.executor.noted_mirrors

namespace Engine

variable {e : Engine ω} {clock : Clock}

/-! ### Runs -/

def Request.clears : Request ω → Bool
  | .clearCache => true
  | _ => false

/-- Does what is asked, and writes down what becomes of the rules. -/
def serveNoted (e : Engine ω) (request : Request ω) : Action (EngineState (Noted ω)) Unit := do
  (e.noted (request.clock?.getD {})).serve (request.lift Noted.changed)
  if request.clears then EngineState.outside (Noted.note .cleared)

/-- Does all that is asked, and writes down what becomes of the rules. -/
def serveAllNoted (e : Engine ω) : List (Request ω) → Action (EngineState (Noted ω)) Unit :=
  inTurn e.serveNoted

theorem serve_mirrors (e : Engine ω) (request : Request ω) :
    Action.Mirrors (EngineState.seen Noted.world) (e.serveNoted request) (e.serve request) := by
  have hserve : Action.Mirrors (EngineState.seen Noted.world)
      ((e.noted (request.clock?.getD {})).serve (request.lift Noted.changed)) (e.serve request) :=
    (e.noted_mirrors _).serve (fun _ _ => rfl) request
  rw [← bind_pure (e.serve request)]
  refine .bind hserve fun _ => ?_
  split
  · exact fun _ _ => rfl
  · exact .pure ()

theorem serveAll_mirrors (e : Engine ω) (requests : List (Request ω)) :
    Action.Mirrors (EngineState.seen Noted.world) (e.serveAllNoted requests)
      (e.serveAll requests) :=
  inTurn_mirrors e.serve_mirrors requests

/-! ### What is kept -/

def keepAfter (cache : Option RuleCache) : Mark → Option RuleCache
  | .cleared => none
  | .asked _ (.error _) => cache
  | .asked time (.ok found) =>
    match found.toList with
    | .ok rules => some ⟨rules, time⟩
    | .error _ => cache

def keptAfter (marks : List Mark) : Option RuleCache := marks.foldl keepAfter none

theorem keptAfter_append (marks : List Mark) (mark : Mark) :
    keptAfter (marks ++ [mark]) = keepAfter (keptAfter marks) mark :=
  List.foldl_concat keepAfter none mark marks

theorem lastList_concat {marks : List Mark} {mark : Mark} {rules : List RuleInput}
    {time : Double} :
    Mark.LastList (marks ++ [mark]) rules time ↔
      (∃ found, mark = .asked time (.ok found) ∧ found.toList = .ok rules) ∨
        (mark.IsFailure ∧ Mark.LastList marks rules time) := by
  constructor
  · rintro ⟨before, found, after, hmarks, hlist, hafter⟩
    rcases List.eq_nil_or_concat after with rfl | ⟨earlier, last, rfl⟩
    · obtain ⟨-, hmark⟩ := List.append_inj' hmarks rfl
      cases hmark
      exact .inl ⟨found, rfl, hlist⟩
    · rw [List.concat_eq_append] at hmarks hafter
      rw [← List.cons_append, ← List.append_assoc] at hmarks
      obtain ⟨rfl, hmark⟩ := List.append_inj' hmarks rfl
      cases hmark
      rw [List.forall_mem_append, List.forall_mem_singleton] at hafter
      exact .inr ⟨hafter.2, before, found, earlier, rfl, hlist, hafter.1⟩
  · rintro (⟨found, rfl, hlist⟩ | ⟨hfailure, before, found, after, rfl, hlist, hafter⟩)
    · exact ⟨marks, found, [], rfl, hlist, List.forall_mem_nil _⟩
    · refine ⟨before, found, after ++ [mark], ?_, hlist, ?_⟩
      · rw [List.append_assoc, List.cons_append]
      · exact List.forall_mem_append.mpr ⟨hafter, List.forall_mem_singleton.mpr hfailure⟩

/-- What is kept is the last list that the source gave, unless the cache was cleared
since: induction on what is written down, from its end. -/
theorem keptAfter_eq_some_iff {marks : List Mark} {rules : List RuleInput} {time : Double} :
    keptAfter marks = some ⟨rules, time⟩ ↔ Mark.LastList marks rules time := by
  induction marks using List.reverseRecOn with
  | nil => exact ⟨nofun, fun ⟨_, _, _, h, _⟩ => absurd h.symm (by simp)⟩
  | append_singleton marks mark ih =>
      rw [keptAfter_append, lastList_concat]
      match mark with
      | .cleared => simp [keepAfter, Mark.IsFailure]
      | .asked _ (.error _) => simpa [keepAfter, Mark.IsFailure] using ih
      | .asked time' (.ok found) =>
          cases hlist : found.toList with
          | ok rules' =>
              have hno : ¬(Mark.asked time' (.ok found)).IsFailure := by
                rintro ⟨fault, h⟩
                cases hlist.symm.trans h
              simp only [keepAfter, hlist, hno, false_and, or_false]
              constructor
              · rintro ⟨⟩
                exact ⟨found, rfl, hlist⟩
              · rintro ⟨_, ⟨⟩, h⟩
                cases hlist.symm.trans h
                rfl
          | error fault => simpa [keepAfter, Mark.IsFailure, hlist] using ih

/-! ### Loading -/

theorem Answers.keepAfter_eq {cache cache' : Option RuleCache} {answer : Except Fault RuleSet}
    {outcome : Except Fault (List RuleInput)} (h : Answers clock cache answer outcome cache') :
    cache' = keepAfter cache (.asked clock.elapsed answer) := by
  cases h with
  | listed h => simp only [keepAfter, h]
  | failed fault => rfl
  | unlisted h => simp only [keepAfter, h]

theorem fetchRules_noted_ends (e : Engine ω) (clock : Clock) (source : RuleSource ω)
    (s : EngineState (Noted ω)) :
    ((e.noted clock).fetchRules (source.noted clock)).Ends s fun answer s' =>
      s'.desk.world.marks = s.desk.world.marks ++ [.asked clock.elapsed answer] ∧
        s'.cache = s.cache := by
  intro log
  let c := e.configuration
  have hfetch := source.runFrom_noted clock c.organizationId c.moduleName c.maxRulesPerBatch
    s.desk.world log
  refine ⟨?_, rfl⟩
  exact (congrArg (·.state.marks) hfetch).trans
    (congrArg (fun ending => s.desk.world.marks ++ [.asked clock.elapsed ending.outcome])
      hfetch).symm

/-- A load whose ages can be told serves what is kept while that is fresh, and asks the
source otherwise. -/
theorem loadRules_noted_ends {source : RuleSource ω} (hsource : e.source = some source)
    (hages : ∀ loadedAt, ∃ fresh, e.isFresh clock loadedAt = .ok fresh)
    (s : EngineState (Noted ω)) :
    ((e.noted clock).loadRules clock).Ends s fun outcome s' =>
      (∃ kept, s.cache = some kept ∧ e.isFresh clock kept.loadedAt = .ok true ∧
        outcome = .ok kept.rules ∧ s' = s) ∨
      ((∀ kept, s.cache = some kept → e.isFresh clock kept.loadedAt = .ok false) ∧
        ∃ answer, s'.desk.world.marks = s.desk.world.marks ++ [.asked clock.elapsed answer] ∧
          Answers clock s.cache answer outcome s'.cache) := by
  have hnoted : (e.noted clock).source = some (source.noted clock) :=
    congrArg (Option.map (RuleSource.noted clock)) hsource
  have hcases := cachedRules_cases (e := e.noted clock) hages s
  refine .of_endsAt ((e.noted clock).loadRules_loads clock s) ?_
  rintro log _ _ (hkept | hageless | ⟨-, hnone⟩ | ⟨hnot, hasked, rfl, hanswers⟩)
  case kept =>
      rcases hcases with ⟨kept, hcache, hfresh, hcached⟩ | ⟨-, hcached⟩
      · cases hcached.symm.trans hkept
        exact .inl ⟨kept, hcache, hfresh, rfl, rfl⟩
      · cases hcached.symm.trans hkept
  case ageless =>
      obtain ⟨cached, hcached⟩ := exists_cachedRules (e := e.noted clock) hages s
      cases hcached.symm.trans hageless
  case sourceless => cases hnoted.symm.trans hnone
  case asked =>
      cases hnoted.symm.trans hasked
      rcases hcases with ⟨_, -, -, hcached⟩ | ⟨hstale, -⟩
      · cases hcached.symm.trans hnot
      · exact .inr ⟨hstale, _, (fetchRules_noted_ends e clock source s log).1, hanswers⟩

/-! ### Runs keep what is written down -/

def Consistent (s : EngineState (Noted ω)) : Prop := s.cache = keptAfter s.desk.world.marks

theorem loadRules_consistent (e : Engine ω) (clock : Clock) :
    ((e.noted clock).loadRules clock).Keeps Consistent := by
  refine fun s hs => .of_endsAt ((e.noted clock).loadRules_loads clock s) ?_
  rintro log _ _ (_ | _ | _ | ⟨-, hasked, rfl, hanswers⟩)
  case kept => exact hs
  case ageless => exact hs
  case sourceless => exact hs
  case asked =>
      obtain ⟨source, -, rfl⟩ := Option.map_eq_some_iff.mp hasked
      obtain ⟨hmarks, -⟩ := fetchRules_noted_ends e clock source s log
      rw [Consistent, hmarks, keptAfter_append, hanswers.keepAfter_eq]
      exact congrArg (keepAfter · _) hs

/-- What is shown of a state to tell whether it is consistent. -/
def kept (s : EngineState (Noted ω)) : Option RuleCache × List Mark :=
  (s.cache, s.desk.world.marks)

theorem consistent_of_leaves {a : Action (EngineState (Noted ω)) α} (h : a.Leaves kept) :
    a.Keeps Consistent :=
  h.keeps fun shown => shown.1 = keptAfter shown.2

theorem evaluate_consistent (e : Engine ω) (clock : Clock) (payload : Payload)
    (input : ContextInput) : ((e.noted clock).evaluate clock payload input).Keeps Consistent :=
  evaluate_keeps (loadRules_consistent e clock).yields
    (fun rules _ => consistent_of_leaves (evaluateRules_leaves (fun _ _ _ => rfl)
      (fun _ _ => rfl) rules payload input)) fun _ _ hs => hs

theorem send_leaves (e : Executor ω) : e.noted.SendLeaves Noted.marks := by
  intro outlet' houtlet clock n
  obtain ⟨outlet, -, rfl⟩ := List.mem_map.mp houtlet
  exact Noted.outside_leaves _

theorem executor_leaves (e : Executor ω) (clock : Clock) (submissions : List Submission) :
    (e.noted.execute clock submissions).Leaves fun d => d.world.marks := by
  refine Executor.execute_leaves ?_ ?_ (send_leaves e) clock submissions
  · intro store' hstore organizationId fingerprint
    obtain ⟨store, -, rfl⟩ := Option.map_eq_some_iff.mp hstore
    exact Noted.outside_leaves _
  · intro store' hstore a
    obtain ⟨store, -, rfl⟩ := Option.map_eq_some_iff.mp hstore
    exact Noted.outside_leaves _

theorem evaluateGiven_consistent (e : Engine ω) (clock : Clock) (rules : RuleSet)
    (payload : Payload) (input : ContextInput) :
    ((e.noted clock).evaluateGiven clock rules payload input).Keeps Consistent :=
  evaluateGiven_keeps fun entries _ => consistent_of_leaves
    (evaluateRules_leaves (fun _ _ _ => rfl) (fun _ _ => rfl) entries payload input)

theorem executeActions_leaves (e : Engine ω) (clock : Clock) (results : List EvaluationResult) :
    ((e.noted clock).executeActions clock results).Leaves kept :=
  fun s log => congrArg (Prod.mk s.cache) (executor_leaves e.executor clock _ s.desk log)

theorem runJobs_leaves (e : Engine ω) (clock : Clock) (jobs : List Job) :
    ((e.noted clock).runJobs clock jobs).Leaves kept := by
  have hjob : ∀ job, ((e.noted clock).runJob clock job).Leaves kept := by
    intro job
    cases job with
    | deliver name n =>
        exact fun s log => congrArg (Prod.mk s.cache)
          (Executor.runJob_leaves (send_leaves e.executor) clock (.deliver name n) s.desk log)
    | increment ruleId =>
        unfold runJob noted
        cases e.source with
        | none => exact .pure _
        | some source =>
            unfold RuleSource.noted
            simp only [Option.map_some, Option.bind_some]
            cases source.increment with
            | none => exact .pure _
            | some count =>
                refine .bind (.attempt fun _ _ => rfl) fun outcome => ?_
                cases outcome with
                | ok => exact .pure _
                | error fault => exact .record _ _
  induction jobs with
  | nil => exact .pure _
  | cons job rest ih => exact .bind (hjob job) fun _ => ih

theorem processEvent_consistent (e : Engine ω) (clock : Clock) (payload : Payload)
    (input : ContextInput) :
    ((e.noted clock).processEvent clock payload input).Keeps Consistent :=
  .bind (evaluate_consistent e clock payload input) fun results =>
    .bind (consistent_of_leaves (executeActions_leaves e clock results)) fun _ => .pure _

/-- Whatever is asked of an engine, what it keeps follows from what is written down: one
case for each request. -/
theorem serveNoted_consistent (e : Engine ω) (request : Request ω) :
    (e.serveNoted request).Keeps Consistent := by
  cases request with
  | load clock =>
      exact .bind (.bind (loadRules_consistent e clock) fun _ => .pure _) fun _ => .pure _
  | batch clock rules payload input =>
      exact .bind (.bind (evaluateGiven_consistent e clock rules payload input) fun _ => .pure _)
        fun _ => .pure _
  | evaluation clock payload input =>
      exact .bind (.bind (evaluate_consistent e clock payload input) fun _ => .pure _)
        fun _ => .pure _
  | event clock payload input =>
      exact .bind (.bind (processEvent_consistent e clock payload input) fun _ => .pure _)
        fun _ => .pure _
  | actions clock results =>
      exact .bind (.bind (consistent_of_leaves (executeActions_leaves e clock results))
        fun _ => .pure _) fun _ => .pure _
  | drain clock =>
      exact .bind (.bind (consistent_of_leaves fun _ _ => rfl) fun jobs =>
        consistent_of_leaves (runJobs_leaves e clock jobs)) fun _ => .pure _
  | clearCache =>
      intro s _
      refine .bind_modify fun log => ?_
      show none = keptAfter (s.desk.world.marks ++ [.cleared])
      rw [keptAfter_append]
      rfl
  | resetStatistics clock =>
      exact .bind (.bind (.ofExcept _) fun _ => consistent_of_leaves fun _ _ => rfl)
        fun _ => .pure _
  | close => exact .bind (consistent_of_leaves fun _ _ => rfl) fun _ => .pure _
  | outside change => exact .bind (consistent_of_leaves fun _ _ => rfl) fun _ => .pure _

theorem serveAllNoted_consistent (e : Engine ω) (requests : List (Request ω)) :
    (e.serveAllNoted requests).Keeps Consistent :=
  inTurn_keeps fun request _ => serveNoted_consistent e request

/-! ### Ages -/

theorem isFresh_float {ttl : Double} (httl : e.configuration.ruleCacheTtl = .float ttl)
    (loadedAt : Double) :
    e.isFresh clock loadedAt = .ok
      ((clock.elapsed.add (isFresh.negate loadedAt)).quantity.compare? ttl.quantity ==
        some .lt) := by
  simp only [isFresh, httl, Value.less_float]

theorem isFinite_negate (x : Double) : (isFresh.negate x).isFinite = x.isFinite := by
  cases x <;> rfl

theorem units_negate (x : Double) : (isFresh.negate x).units = -x.units := by
  cases x with
  | finite negative mant shift canonical =>
      cases negative with
      | false => rfl
      | true => exact (Int.neg_neg _).symm
  | nan named => rfl
  | inf negative => rfl

/-- What is fresh is younger than the limit, by exact arithmetic. -/
theorem age_lt {ttl : Double} (httl : e.configuration.ruleCacheTtl = .float ttl)
    (hpos : 0 ≤ ttl.units) {loadedAt : Double} (h : e.isFresh clock loadedAt = .ok true)
    (hclock : clock.elapsed.isFinite = true) (hloaded : loadedAt.isFinite = true)
    (hfinite : ttl.isFinite = true) : clock.elapsed.units - loadedAt.units < ttl.units := by
  rw [isFresh_float httl, Except.ok.injEq, beq_iff_eq] at h
  have hlt := Double.add_units_lt hclock ((isFinite_negate loadedAt).trans hloaded) hfinite hpos h
  rwa [units_negate, ← Int.sub_eq_add_neg] at hlt

end Engine

/-- The state in a noted world, with nothing written down so far. -/
def EngineState.noted (s : EngineState ω) : EngineState (Noted ω) :=
  ⟨⟨⟨s.desk.world, []⟩, s.desk.pool⟩, s.cache, s.sets, s.statistics⟩

namespace Engine

variable {e : Engine ω} {clock : Clock}

/-! ### The rules that are loaded -/

/-- A load in a run from an empty cache. If it does not ask the source it returns the
last list that the source gave, which is fresh, and nothing was cleared since. Otherwise
it asks once, and returns and keeps what comes of the answer. -/
theorem load_fresh {source : RuleSource ω} (hsource : e.source = some source) {ttl : Double}
    (httl : e.configuration.ruleCacheTtl = .float ttl) (hpos : 0 ≤ ttl.units)
    (requests : List (Request ω)) (clock : Clock) {s₀ : EngineState ω} (hnew : s₀.cache = none)
    (log log' : Log) :
    let s := ((e.serveAll requests).runFrom s₀ log).state
    let load := (e.loadRules clock).runFrom s log'
    let noted := ((e.serveAllNoted requests).runFrom s₀.noted log).state
    let notedLoad := ((e.noted clock).loadRules clock).runFrom noted log'
    let marks := noted.desk.world.marks
    noted.seen Noted.world = s ∧
      load = ⟨notedLoad.outcome, notedLoad.state.seen Noted.world, notedLoad.log⟩ ∧
      ((notedLoad.state = noted ∧ ∃ rules t₀, load.outcome = .ok rules ∧
          Mark.LastList marks rules t₀ ∧ e.isFresh clock t₀ = .ok true ∧
          (clock.elapsed.isFinite → t₀.isFinite → ttl.isFinite →
            clock.elapsed.units - t₀.units < ttl.units)) ∨
        ((∀ rules t₀, Mark.LastList marks rules t₀ → e.isFresh clock t₀ = .ok false) ∧
          ∃ answer,
            notedLoad.state.desk.world.marks = marks ++ [.asked clock.elapsed answer] ∧
            Answers clock s.cache answer load.outcome load.state.cache)) := by
  intro s load noted notedLoad marks
  have hseen : noted.seen Noted.world = s :=
    (congrArg (·.state) (e.serveAll_mirrors requests s₀.noted log)).symm
  have hload : load = ⟨notedLoad.outcome, notedLoad.state.seen Noted.world, notedLoad.log⟩ := by
    have hmirrors := (e.noted_mirrors clock).loadRules clock noted log'
    rwa [hseen] at hmirrors
  have hcache : s.cache = noted.cache := congrArg (·.cache) hseen.symm
  have hconsistent : noted.cache = keptAfter marks :=
    serveAllNoted_consistent e requests s₀.noted hnew log
  have hlast : ∀ rules t₀, noted.cache = some ⟨rules, t₀⟩ ↔ Mark.LastList marks rules t₀ :=
    fun rules t₀ => by rw [hconsistent, keptAfter_eq_some_iff]
  refine ⟨hseen, hload, ?_⟩
  rw [hload, hcache]
  rcases loadRules_noted_ends hsource (fun _ => ⟨_, isFresh_float httl _⟩) noted log' with
    ⟨kept, hkept, hfresh, houtcome, hsame⟩ | ⟨hstale, answer, hmarks, hanswers⟩
  · exact .inl ⟨hsame, kept.rules, kept.loadedAt, houtcome, (hlast _ _).mp hkept, hfresh,
      fun hclock hloaded hfinite => age_lt httl hpos hfresh hclock hloaded hfinite⟩
  · exact .inr ⟨fun rules t₀ h => hstale ⟨rules, t₀⟩ ((hlast rules t₀).mpr h), answer, hmarks,
      hanswers⟩

/-- A load half a minute after another, where rules are kept for that long and the cache
was cleared in between. -/
theorem load_fresh_cleared :
    let ttl : Double := .ofInt 30
    let e := lookingUp (codeIn [])
    let source : RuleSource Unit := ⟨fun _ _ _ => pure (.entries [.rule (codeIn [])]), none⟩
    let requests : List (Request Unit) := [.load {}, .clearCache, .load ⟨.ofInt 5⟩]
    let clock : Clock := ⟨.ofInt 35⟩
    let s := ((e.serveAll requests).runFrom untouched []).state
    let load := (e.loadRules clock).runFrom s []
    let noted := ((e.serveAllNoted requests).runFrom untouched.noted []).state
    let notedLoad := ((e.noted clock).loadRules clock).runFrom noted []
    let marks := noted.desk.world.marks
    e.source = some source ∧ e.configuration.ruleCacheTtl = .float ttl ∧
      0 ≤ ttl.units ∧ untouched.cache.isNone ∧
      noted.seen Noted.world = s ∧
      load = ⟨notedLoad.outcome, notedLoad.state.seen Noted.world, notedLoad.log⟩ ∧
      ((notedLoad.state = noted ∧ ∃ rules t₀, load.outcome = .ok rules ∧
          Mark.LastList marks rules t₀ ∧ e.isFresh clock t₀ = .ok true ∧
          (clock.elapsed.isFinite → t₀.isFinite → ttl.isFinite →
            clock.elapsed.units - t₀.units < ttl.units)) ∨
        ((∀ rules t₀, Mark.LastList marks rules t₀ → e.isFresh clock t₀ = .ok false) ∧
          ∃ answer,
            notedLoad.state.desk.world.marks = marks ++ [.asked clock.elapsed answer] ∧
            Answers clock s.cache answer load.outcome load.state.cache)) := by
  intro ttl e source requests clock
  have hsource : e.source = some source := rfl
  have httl : e.configuration.ruleCacheTtl = .float ttl := by
    simp only [e, ttl, lookingUp, Configuration.ofSettings]
  have hpos : 0 ≤ ttl.units := by decide +kernel
  -- What the engine computes is not to be computed here.
  clear_value e clock ttl
  exact ⟨hsource, httl, hpos, rfl, load_fresh hsource httl hpos requests clock rfl [] []⟩

end Engine

end AlertRules
