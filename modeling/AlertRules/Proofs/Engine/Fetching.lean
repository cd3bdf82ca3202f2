import AlertRules.Engine.Loading
import AlertRules.Proofs.Value.Shown

/-!
What a load can do.

A load serves what is kept, or asks the source. Whatever the source does to the world, the
rest of the engine hears of its answer alone (`Answers`). So a load ends in one of four ways
(`Loads`), and all that is said of loads is said of these (`loadRules_loads`). Two engines
of one configuration load alike if their sources answer alike (`loadRules_mirrors`).
-/

namespace AlertRules.Engine

open AlertRules.Action

variable {ω : Type} {e : Engine ω} {clock : Clock} {s : EngineState ω} {log : Log}

/-- What a load makes of the answer of the source, and what is kept then. -/
inductive Answers (clock : Clock) (cache : Option RuleCache) :
    Except Fault RuleSet → Except Fault (List RuleInput) → Option RuleCache → Prop where
  /-- A list is returned, and kept with the time. -/
  | listed {found : RuleSet} {rules : List RuleInput} (h : found.toList = .ok rules) :
    Answers clock cache (.ok found) (.ok rules) (some ⟨rules, clock.elapsed⟩)
  /-- If the source fails there are no rules, and what was kept stays. -/
  | failed (fault : Fault) : Answers clock cache (.error fault) (.ok []) cache
  /-- An answer that is no list is a fault, and what was kept stays as well. -/
  | unlisted {found : RuleSet} {fault : Fault} (h : found.toList = .error fault) :
    Answers clock cache (.ok found) (.error fault) cache

theorem loadFrom_answers {source : RuleSource ω}
    {post : Except Fault RuleSet → EngineState ω → Prop}
    (hfetch : (e.fetchRules source).EndsAt s log post) :
    (e.loadFrom clock source).EndsAt s log fun outcome s' => ∃ answer asked,
      post answer asked ∧ Answers clock asked.cache answer outcome s'.cache ∧
        s' = { asked with cache := s'.cache } := by
  refine hfetch.bind_attempt ?_
  rintro (fault | found) asked hpost
  · exact .bind_record (.pure ⟨_, asked, hpost, .failed fault, rfl⟩)
  · refine .bind_ofExcept (fun rules hlist => .bind_modify ?_) fun fault hlist => ?_
    · split
      · exact .bind_written e.named.1 (.bind_written e.named.2
          (.bind_record (.pure ⟨_, asked, hpost, .listed hlist, rfl⟩)))
      · exact .pure ⟨_, asked, hpost, .listed hlist, rfl⟩
    · exact ⟨_, asked, hpost, .unlisted hlist, rfl⟩

/-- The ways in which a load can end. -/
inductive Loads (e : Engine ω) (clock : Clock) (s : EngineState ω) (log : Log) :
    Except Fault (List RuleInput) → EngineState ω → Prop where
  | kept {rules : List RuleInput} (h : e.cachedRules clock s = .ok (some rules)) :
    Loads e clock s log (.ok rules) s
  /-- It cannot be told how old the kept rules are. -/
  | ageless {fault : Fault} (h : e.cachedRules clock s = .error fault) :
    Loads e clock s log (.error fault) s
  | sourceless (hstale : e.cachedRules clock s = .ok none) (hsource : e.source = none) :
    Loads e clock s log (.ok []) s
  | asked {source : RuleSource ω} {answer : Except Fault RuleSet}
      {outcome : Except Fault (List RuleInput)} {cache : Option RuleCache}
      (hstale : e.cachedRules clock s = .ok none) (hsource : e.source = some source)
      (hfetch : ((e.fetchRules source).runFrom s log).outcome = answer)
      (hanswers : Answers clock s.cache answer outcome cache) :
    Loads e clock s log outcome { ((e.fetchRules source).runFrom s log).state with cache }

theorem loadRules_loads (e : Engine ω) (clock : Clock) (s : EngineState ω) (log : Log) :
    (e.loadRules clock).EndsAt s log (e.Loads clock s log) := by
  have hget : ∀ f : EngineState ω → Action (EngineState ω) (List RuleInput),
      ((get : Action (EngineState ω) (EngineState ω)) >>= f).runFrom s log = (f s).runFrom s log :=
    fun _ => rfl
  unfold EndsAt
  rw [loadRules, hget]
  cases hcached : e.cachedRules clock s with
  | error fault => exact .ageless hcached
  | ok cached =>
      cases cached with
      | some rules => exact .kept hcached
      | none =>
          cases hsource : e.source with
          | none => exact .sourceless hcached hsource
          | some source =>
              have hfetch : (e.fetchRules source).EndsAt s log fun answer asked =>
                  answer = ((e.fetchRules source).runFrom s log).outcome ∧
                    asked = ((e.fetchRules source).runFrom s log).state := ⟨rfl, rfl⟩
              have hload : (e.loadFrom clock source).EndsAt s log _ := loadFrom_answers hfetch
              obtain ⟨_, _, ⟨rfl, rfl⟩, hanswers, hstate⟩ := hload
              show e.Loads clock s log ((e.loadFrom clock source).runFrom s log).outcome
                ((e.loadFrom clock source).runFrom s log).state
              rw [hstate]
              exact .asked hcached hsource rfl hanswers

/-- Rules that are still fresh are the ones that the state keeps. -/
theorem exists_of_cachedRules {rules : List RuleInput}
    (h : e.cachedRules clock s = .ok (some rules)) :
    ∃ kept, s.cache = some kept ∧ kept.rules = rules := by
  unfold cachedRules at h
  cases hcache : s.cache with
  | none =>
      rw [hcache] at h
      cases h
  | some kept =>
      rw [hcache] at h
      obtain ⟨fresh, -, h⟩ := exists_of_bind_eq_ok h
      cases fresh with
      | false => cases h
      | true =>
          cases h
          exact ⟨kept, rfl, rfl⟩

/-- If ages can be told, what is kept is cached while it is fresh, and not any longer. -/
theorem cachedRules_cases (hages : ∀ loadedAt, ∃ fresh, e.isFresh clock loadedAt = .ok fresh)
    (s : EngineState ω) :
    (∃ kept, s.cache = some kept ∧ e.isFresh clock kept.loadedAt = .ok true ∧
      e.cachedRules clock s = .ok (some kept.rules)) ∨
    ((∀ kept, s.cache = some kept → e.isFresh clock kept.loadedAt = .ok false) ∧
      e.cachedRules clock s = .ok none) := by
  unfold cachedRules
  cases hcache : s.cache with
  | none => exact .inr ⟨nofun, rfl⟩
  | some kept =>
      obtain ⟨fresh, hfresh⟩ := hages kept.loadedAt
      cases fresh with
      | true => exact .inl ⟨kept, rfl, hfresh, by simp only [hfresh]; rfl⟩
      | false =>
          refine .inr ⟨?_, by simp only [hfresh]; rfl⟩
          rintro _ ⟨⟩
          exact hfresh

theorem exists_cachedRules (hages : ∀ loadedAt, ∃ fresh, e.isFresh clock loadedAt = .ok fresh)
    (s : EngineState ω) : ∃ cached, e.cachedRules clock s = .ok cached := by
  rcases cachedRules_cases hages s with ⟨_, -, -, h⟩ | ⟨-, h⟩
  · exact ⟨_, h⟩
  · exact ⟨_, h⟩

/-! ### Loads of two engines -/

section Mirrors

variable {ω' : Type} {e' : Engine ω'} {view : EngineState ω' → EngineState ω}
  (hconfiguration : e'.configuration = e.configuration)
  (hkeep : ∀ s cache, { view s with cache } = view { s with cache })
include hconfiguration hkeep

theorem loadFrom_mirrors {source' : RuleSource ω'} {source : RuleSource ω}
    (hfetch : Mirrors view (e'.fetchRules source') (e.fetchRules source)) :
    Mirrors view (e'.loadFrom clock source') (e.loadFrom clock source) := by
  refine .bind (.attempt hfetch) fun found => ?_
  cases found with
  | error fault => exact .bind (.record _ _) fun _ => .pure []
  | ok found =>
      refine .bind (.ofExcept _) fun rules => .bind (.modify fun s => hkeep s _) fun _ => ?_
      have hdebug : e'.isDebug = e.isDebug := congrArg (·.debug.truthy) hconfiguration
      rw [hdebug, hconfiguration]
      split
      · exact .bind (.ofExcept _) fun _ => .bind (.ofExcept _) fun _ =>
          .bind (.record _ _) fun _ => .pure rules
      · exact .pure rules

/-- Engines of one configuration load alike if their sources answer alike. -/
theorem loadRules_mirrors (hcache : ∀ s, (view s).cache = s.cache)
    (hsource : Option.Rel (fun source' source =>
      Mirrors view (e'.fetchRules source') (e.fetchRules source)) e'.source e.source) :
    Mirrors view (e'.loadRules clock) (e.loadRules clock) := by
  refine .bind_get fun s => ?_
  have hcached : e'.cachedRules clock s = e.cachedRules clock (view s) := by
    unfold cachedRules isFresh
    rw [hconfiguration, hcache]
  rw [hcached]
  refine .bind (.ofExcept _) fun cached => ?_
  cases cached with
  | some rules => exact .pure rules
  | none =>
      generalize e'.source = source', e.source = source at hsource
      cases hsource with
      | none => exact .bind (.record _ _) fun _ => .pure []
      | some hfetch => exact loadFrom_mirrors hconfiguration hkeep hfetch

end Mirrors

end AlertRules.Engine
