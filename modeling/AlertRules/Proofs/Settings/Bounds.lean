import AlertRules.Proofs.Action
import AlertRules.Proofs.Schema.Checked
import AlertRules.Proofs.Value.Order
import AlertRules.World

/-!
The bounds of settings, and the two ways around them.

Six settings are limits, each with a bound of its own (`Limit`). The value of a
limit is given, taken from the environment or fixed by default when settings
are made, and an engine may be built with some of the limits changed again. A
given value is compared with the bound (`Limit.holds_of_check`), nothing else
is: neither a default nor a change. `Limit.unchecked?` is what a limit has got
from either of them. The main statement is that those are the only ways to
break a bound (`bounds_hold_iff`): a limit keeps its bound, in settings and in
every engine built from them, exactly if what it has without a check does. A
pool looks once more at the number of its workers, and lets only two values
pass that are not above zero.
-/

namespace AlertRules

namespace Settings

/-- The least that a limit may be. -/
inductive Bound where
  | positive
  | notNegative

def Bound.Holds : Bound → Value → Prop
  | .positive, v => (Value.int 0).less v = .ok true
  | .notNegative, v => (Value.int 0).less v = .ok true ∨ (Value.int 0).equal v = .ok true

/-- The settings that have a bound. -/
inductive Limit where
  | batch
  | freshness
  | setThreshold
  | depth
  | breadth
  | workers

namespace Limit

def name : Limit → String
  | .batch => "max_rules_per_batch"
  | .freshness => "rule_cache_ttl_seconds"
  | .setThreshold => "in_set_threshold"
  | .depth => "max_depth"
  | .breadth => "max_conditions_per_level"
  | .workers => "background_workers"

def bound : Limit → Bound
  | .freshness | .depth => .notNegative
  | .batch | .setThreshold | .breadth | .workers => .positive

def check : Limit → Schema.Check Value
  | .freshness => fun v => Value.float <$> duration v
  | .depth => fun v => Value.int <$> notNegative v
  | .batch | .setThreshold | .breadth | .workers => fun v => Value.int <$> positive v

/-- What a limit is if it is not given. -/
def default (env : Environment) : Limit → Except Fault Value
  | .batch =>
    Value.int <$> Environment.parseInt (env.getD "ALERT_ENGINE_MAX_RULES_PER_BATCH" "100")
  | .freshness =>
    Value.float <$> Environment.parseDouble (env.getD "ALERT_ENGINE_RULE_CACHE_TTL" "30")
  | .setThreshold => .ok (.int 100)
  | .depth => .ok (.int 3)
  | .breadth => .ok (.int 10)
  | .workers =>
    Value.int <$> Environment.parseInt (env.getD "ALERT_ENGINE_BACKGROUND_WORKERS" "4")

def value (c : Configuration) : Limit → Value
  | .batch => c.maxRulesPerBatch
  | .freshness => c.ruleCacheTtl
  | .setThreshold => c.inSetThreshold
  | .depth => c.maxDepth
  | .breadth => c.maxConditionsPerLevel
  | .workers => c.backgroundWorkers

def Kept (l : Limit) (c : Configuration) : Prop := l.bound.Holds (l.value c)

/-- What a limit has been set to without a check: what it was changed to, or its
default if it is not among the given fields. -/
def unchecked? (env : Environment) (fields changes : Object) (l : Limit) : Option Value :=
  match changes.get? l.name, fields.get? l.name with
  | some v, _ => some v
  | none, some _ => none
  | none, none => (l.default env).toOption

end Limit

/-! ### Numbers within a bound -/

theorem Bound.positive_int {i : Int} : Bound.positive.Holds (.int i) ↔ 0 < i := by
  simp [Holds, Value.less_int]

theorem Bound.notNegative_int {i : Int} : Bound.notNegative.Holds (.int i) ↔ 0 ≤ i := by
  have hequal : (Value.int 0).equal (.int i) = .ok (compare 0 i == .eq) := by
    simp [Value.equal, Value.scalarEq, Value.quantity?, Quantity.compare?, Quantity.scale,
      Quantity.isSignalling]
  simp only [Holds, Value.less_int, hequal, Except.ok.injEq, decide_eq_true_iff, beq_iff_eq,
    Int.compare_eq_eq]
  omega

theorem compare?_zero_quantity (x : Double) :
    (Quantity.ratio 0 1 0).compare? x.quantity = Double.zero.compare? x := by
  cases x with
  | nan named => rfl
  | inf negative => cases negative <;> rfl
  | finite negative mant shift canonical =>
      have hzero : Double.zero.units = 0 := by simp [Double.zero, Double.signedZero, Double.units]
      simp only [Double.quantity, Quantity.compare?, Quantity.scale, Int.zero_mul]
      show some (compare 0 _) = some (compare Double.zero.units _)
      simp [hzero]

theorem Bound.notNegative_float {x : Double} :
    Bound.notNegative.Holds (.float x) ↔ Double.zero.le x = true := by
  have hless : (Value.int 0).less (.float x) = .ok (Double.zero.compare? x == some .lt) := by
    simp only [Value.less, Value.ordered, Value.scalarLess, Value.quantity?, Bool.false_eq_true,
      if_false, ← compare?_zero_quantity]
    cases (Quantity.ratio 0 1 0).compare? x.quantity with
    | none => rfl
    | some order => rfl
  have hequal : (Value.int 0).equal (.float x) = .ok (Double.zero.compare? x == some .eq) := by
    rw [← compare?_zero_quantity]
    cases x <;> rfl
  simp [Holds, hless, hequal, Double.le]

/-! ### Given values -/

theorem pos_of_positive {v : Value} {i : Int} (h : positive v = .ok i) : 0 < i := by
  unfold positive at h
  grind [Schema.Checked.flaw]

theorem nonneg_of_notNegative {v : Value} {i : Int} (h : notNegative v = .ok i) : 0 ≤ i := by
  unfold notNegative at h
  grind [Schema.Checked.flaw]

theorem le_of_duration {v : Value} {x : Double} (h : duration v = .ok x) :
    Double.zero.le x = true := by
  unfold duration at h
  grind [Schema.Checked.flaw]

theorem Limit.holds_of_check {l : Limit} {given v : Value} (h : l.check given = .ok v) :
    l.bound.Holds v := by
  cases l <;> obtain ⟨x, hx, rfl⟩ := Schema.Checked.map_eq_ok.mp h
  case freshness => exact Bound.notNegative_float.mpr (le_of_duration hx)
  case depth => exact Bound.notNegative_int.mpr (nonneg_of_notNegative hx)
  all_goals exact Bound.positive_int.mpr (pos_of_positive hx)

/-! ### Where the values come from -/

/-- Where a checked field has its value from: a given value that passed the
check, or else the default. -/
def Comes {α : Type} (c : Schema.Check α) (key : String) (fields : Object)
    (default : Except Fault α) (a : α) : Prop :=
  match fields.get? key with
  | some given => c given = .ok a
  | none => default = .ok a

theorem comes_of_givenOr {α : Type} {c : Schema.Check α} {key : String} {fields : Object}
    {default : Except Fault α} {a : α}
    (h : Schema.givenOr c key fields default = .ok (.ok a)) : Comes c key fields default a := by
  unfold Schema.givenOr at h
  unfold Comes
  cases hgiven : fields.get? key with
  | some given =>
      rw [hgiven] at h
      exact Schema.Checked.under_eq_ok.mp (Except.ok.inj h)
  | none =>
      rw [hgiven] at h
      cases default with
      | error fault => cases h
      | ok d =>
          cases h
          rfl

theorem comes_of_optional {α : Type} {c : Schema.Check α} {key : String} {fields : Object}
    {default a : α} (h : Schema.optional c key default fields = .ok a) :
    Comes c key fields (.ok default) a := by
  unfold Comes
  rcases Schema.optional_eq_ok.mp h with ⟨hnone, rfl⟩ | ⟨given, hgiven, hok⟩
  · simp only [hnone]
  · simpa only [hgiven] using hok

theorem Comes.map {α β : Type} {c : Schema.Check α} {key : String} {fields : Object}
    {default : Except Fault α} {a : α} (h : Comes c key fields default a) (f : α → β) :
    Comes (fun v => f <$> c v) key fields (f <$> default) (f a) := by
  unfold Comes at h ⊢
  split at h
  · simp only [h]
    rfl
  · simp only [h]
    rfl

theorem comes_of_ofFields {env : Environment} {fields : Object} {s : Settings}
    (h : ofFields env fields = .ok s) (l : Limit) :
    Comes l.check l.name fields (l.default env) (l.value (.ofSettings s)) := by
  obtain ⟨maxRules, hbatch, h⟩ := exists_of_bind_eq_ok h
  obtain ⟨ttl, hfreshness, h⟩ := exists_of_bind_eq_ok h
  obtain ⟨workers, hworkers, h⟩ := exists_of_bind_eq_ok h
  have h := Schema.Checked.toExcept_eq_ok.mp h
  simp only [Schema.Checked.seq_eq_ok, Schema.Checked.map_eq_ok] at h
  -- One level for each of the thirteen fields, the last field outermost.
  obtain ⟨_, _, ⟨_, _, ⟨_, _, ⟨_, _, ⟨_, _, ⟨_, _, ⟨_, _, ⟨_, _, ⟨_, _, ⟨_, _, ⟨_, _, ⟨_, _,
    ⟨_, -, rfl⟩, -, rfl⟩, -, rfl⟩, rfl, rfl⟩, rfl, rfl⟩, hthreshold, rfl⟩, hdepth, rfl⟩,
    hbreadth, rfl⟩, -, rfl⟩, -, rfl⟩, rfl, rfl⟩, -, rfl⟩, -, rfl⟩ := h
  cases l with
  | batch => exact (comes_of_givenOr hbatch).map Value.int
  | freshness => exact (comes_of_givenOr hfreshness).map Value.float
  | setThreshold => exact (comes_of_optional hthreshold).map Value.int
  | depth => exact (comes_of_optional hdepth).map Value.int
  | breadth => exact (comes_of_optional hbreadth).map Value.int
  | workers => exact (comes_of_givenOr hworkers).map Value.int

/-! ### Changes -/

theorem Limit.value_override (c : Configuration) (changes : Object) (l : Limit) :
    l.value (c.override changes) = (changes.get? l.name).getD (l.value c) := by
  cases l <;> rfl

/-- A limit keeps its bound if what it has without a check does. -/
theorem Limit.kept_iff {env : Environment} {fields : Object} {s : Settings}
    (h : ofFields env fields = .ok s) (changes : Object) (l : Limit) :
    l.Kept ((Configuration.ofSettings s).override changes) ↔
      ∀ v ∈ l.unchecked? env fields changes, l.bound.Holds v := by
  have hcomes := comes_of_ofFields h l
  rw [Kept, value_override]
  unfold unchecked?
  unfold Comes at hcomes
  cases changes.get? l.name with
  | some v => simp
  | none =>
      cases hgiven : fields.get? l.name with
      | some given =>
          simp only [hgiven] at hcomes
          simpa using holds_of_check hcomes
      | none =>
          simp only [hgiven] at hcomes
          simp [hcomes, Except.toOption]

/-! ### Workers -/

/-- The number of workers that a pool takes although it is not above zero: none is
said, or the undefined number. -/
def IsUncounted : Value → Prop
  | .null | .float (.nan _) => True
  | _ => False

theorem quantity_of_less {v : Value} {answer : Bool} (h : v.less (.int 0) = .ok answer) :
    ∃ q, v.quantity? = some q := by
  cases v <;> first | exact ⟨_, rfl⟩ | cases h

theorem uncounted_of_undefined {v : Value} {q : Quantity} {answer : Bool}
    (hless : v.less (.int 0) = .ok answer) (hq : v.quantity? = some q)
    (h : q.compare? (.ratio 0 1 0) = none) : IsUncounted v := by
  cases v with
  | float x =>
      cases x with
      | nan named => trivial
      | inf negative => cases hq; cases h
      | finite negative mant shift canonical => cases hq; cases h
  | decimal d =>
      cases d with
      -- An undefined decimal number refuses the question.
      | nan negative signalling payload => cases hless
      | inf negative => cases hq; cases h
      | finite negative coeff exponent => cases hq; cases h
  | bool b => cases hq; cases h
  | int i => cases hq; cases h
  | _ => cases hq

theorem less_zero {v : Value} {q : Quantity} {order : Ordering} (hq : v.quantity? = some q)
    (h : q.compare? (.ratio 0 1 0) = some order) :
    v.less (.int 0) = .ok (order == .lt) ∧ (Value.int 0).less v = .ok (order == .gt) := by
  have hless : v.less (.int 0) = v.scalarLess (.int 0) := by cases v <;> rfl
  have hzero : (Value.int 0).less v = (Value.int 0).scalarLess v := by cases v <;> rfl
  have hnum : (Value.int 0).quantity? = some (.ratio 0 1 0) := rfl
  have hswap : (Quantity.ratio 0 1 0).compare? q = some order.swap := by
    rw [Quantity.compare?_swap, h, Option.map_some]
  rw [hless, hzero]
  unfold Value.scalarLess
  simp only [hq, hnum, h, hswap, true_and]
  cases order <;> rfl

theorem equal_zero {v : Value} {q : Quantity} {order : Ordering} (hq : v.quantity? = some q)
    (h : q.compare? (.ratio 0 1 0) = some order) : v.equal (.int 0) = .ok (order == .eq) := by
  have hequal : v.equal (.int 0) = v.scalarEq (.int 0) := by cases v <;> rfl
  have hnum : (Value.int 0).quantity? = some (.ratio 0 1 0) := rfl
  have hsignal : q.isSignalling = false := by cases q <;> first | rfl | cases h
  rw [hequal]
  unfold Value.scalarEq
  simp only [hq, hnum, hsignal, h]
  cases order <;> rfl

theorem workers_of_lacksWorkers {v : Value} (h : Engine.lacksWorkers v = .ok false) :
    Bound.positive.Holds v ∨ IsUncounted v := by
  by_cases hnull : v = .null
  · subst hnull
    exact .inr trivial
  · unfold Engine.lacksWorkers at h
    split at h
    next => exact absurd rfl hnull
    next =>
        split at h
        next below zero hless hequal =>
            obtain ⟨q, hq⟩ := quantity_of_less hless
            cases horder : q.compare? (.ratio 0 1 0) with
            | none => exact .inr (uncounted_of_undefined hless hq horder)
            | some order =>
                obtain ⟨hbelow, habove⟩ := less_zero hq horder
                rw [hbelow] at hless
                rw [equal_zero hq horder] at hequal
                cases hless
                cases hequal
                -- Neither below nor equal is above.
                cases order <;> first | exact .inl habove | cases h
        next => cases h

theorem not_positive_of_uncounted {v : Value} (h : IsUncounted v) : ¬ Bound.positive.Holds v := by
  cases v with
  | null => nofun
  | float x =>
      cases x with
      | nan named => nofun
      | inf negative => cases h
      | finite negative mant shift canonical => cases h
  | _ => cases h

theorem workers_of_checkConfiguration {c : Configuration}
    (h : Engine.checkConfiguration c = .ok ()) :
    Limit.workers.Kept c ↔ ¬ IsUncounted c.backgroundWorkers := by
  refine ⟨fun hkept huncounted => not_positive_of_uncounted huncounted hkept, fun hcounted => ?_⟩
  unfold Engine.checkConfiguration at h
  split at h
  · cases h
  · obtain ⟨lacks, hlacks, h⟩ := exists_of_bind_eq_ok h
    cases lacks with
    | true => cases h
    | false => exact (workers_of_lacksWorkers hlacks).resolve_right hcounted

theorem configuration_of_make {ω : Type} {c : Configuration} {source : Option (RuleSource ω)}
    {executor : Executor ω} {engine : Engine ω}
    (h : Engine.make c source executor = .ok engine) : engine.configuration = c := by
  unfold Engine.make at h
  split at h
  · cases h
    rfl
  · cases h

theorem checked_of_engine {c : Configuration} {env : Environment}
    {source : Option (RuleSource World)} {executor : Option (Executor World)}
    {engine : Engine World} (h : World.engine c env source executor = .ok engine) :
    Engine.checkConfiguration c = .ok () ∧ engine.configuration = c := by
  obtain ⟨_, hchecked, h⟩ := exists_of_bind_eq_ok h
  refine ⟨hchecked, ?_⟩
  cases executor with
  | some e => exact configuration_of_make h
  | none =>
      obtain ⟨executor', -, h⟩ := exists_of_bind_eq_ok h
      exact configuration_of_make h

/-! ### Main statement -/

/-- The bounds hold of whatever was checked. Settings keep the bound of a limit exactly
if the limit is given or its default is within the bound; an engine that is built
from them, with changes, exactly if what the limit was changed to, or else its
default if it was not given, is. The engine is certain only of its workers, unless
their number says nothing. -/
theorem bounds_hold_iff {env : Environment} {fields : Object} {s : Settings}
    (h : ofFields env fields = .ok s) :
    (∀ l : Limit, l.Kept (.ofSettings s) ↔
      ∀ v ∈ l.unchecked? env fields [], l.bound.Holds v) ∧
    ∀ (changes : Object) (env' : Environment) (source : Option (RuleSource World))
      (executor : Option (Executor World)) (engine : Engine World),
      World.engine ((Configuration.ofSettings s).override changes) env' source executor =
        .ok engine →
      (∀ l : Limit, l.Kept engine.configuration ↔
        ∀ v ∈ l.unchecked? env fields changes, l.bound.Holds v) ∧
      (Limit.workers.Kept engine.configuration ↔
        ¬ IsUncounted engine.configuration.backgroundWorkers) := by
  refine ⟨fun l => l.kept_iff h [], fun changes env' source executor engine hbuilt => ?_⟩
  obtain ⟨hchecked, hconfiguration⟩ := checked_of_engine hbuilt
  rw [hconfiguration]
  exact ⟨fun l => l.kept_iff h changes, workers_of_checkConfiguration hchecked⟩

/-- What is given counts and not the environment, and of a batch size that the
environment has, nothing is asked. -/
theorem bounds_hold_batch :
    let env : Environment := ⟨[("ALERT_ENGINE_MAX_RULES_PER_BATCH", "-1"),
      ("ALERT_ENGINE_RULE_CACHE_TTL", "nan"), ("ALERT_ENGINE_BACKGROUND_WORKERS", "0")]⟩
    let fields : Object := [("rule_cache_ttl_seconds", .int 0), ("background_workers", .text "2")]
    ∃ s, ofFields env fields = .ok s ∧ ¬ Limit.batch.Kept (.ofSettings s) ∧
      Limit.freshness.Kept (.ofSettings s) ∧ Limit.workers.Kept (.ofSettings s) := by
  intro env fields
  obtain ⟨s, hs⟩ := exists_of_toOption (x := ofFields env fields) (by decide +kernel)
  obtain ⟨hkept, -⟩ := bounds_hold_iff hs
  have habsent : fields.get? Limit.batch.name = none := by
    simp [fields, Limit.name, Object.get?]
  have hbatch : Limit.batch.unchecked? env fields [] = some (.int (-1)) := by
    unfold Limit.unchecked?
    rw [habsent]
    subst env
    rfl
  have hfreshness : Limit.freshness.unchecked? env fields [] = none := rfl
  have hworkers : Limit.workers.unchecked? env fields [] = none := rfl
  refine ⟨s, hs, fun h => ?_, (hkept .freshness).mpr ?_, (hkept .workers).mpr ?_⟩
  · exact absurd (Bound.positive_int.mp ((hkept .batch).mp h _ hbatch)) (by decide)
  · simp [hfreshness]
  · simp [hworkers]

/-- The environment sets a batch size below its bound, and an engine is built with a
depth below its bound, from settings that keep it. -/
theorem bounds_passed_by :
    (∃ s, ofFields ⟨[("ALERT_ENGINE_MAX_RULES_PER_BATCH", "-1")]⟩ [] = .ok s ∧
      ¬ Limit.batch.Kept (.ofSettings s)) ∧
    ∃ s engine, ofFields ⟨[]⟩ [("organization_id", .text "org-1")] = .ok s ∧
      Limit.depth.Kept (.ofSettings s) ∧
      World.engine ((Configuration.ofSettings s).override [("max_depth", .int (-1))]) ⟨[]⟩ none
        none = .ok engine ∧
      ¬ Limit.depth.Kept engine.configuration := by
  constructor
  · obtain ⟨s, hs⟩ := exists_of_toOption
      (x := ofFields ⟨[("ALERT_ENGINE_MAX_RULES_PER_BATCH", "-1")]⟩ []) (by decide +kernel)
    have hbatch : Limit.batch.unchecked? ⟨[("ALERT_ENGINE_MAX_RULES_PER_BATCH", "-1")]⟩ [] [] =
      some (.int (-1)) := rfl
    refine ⟨s, hs, fun hkept => ?_⟩
    have hholds := (Limit.batch.kept_iff hs []).mp hkept _ hbatch
    exact absurd (Bound.positive_int.mp hholds) (by decide)
  · obtain ⟨engine, hengine⟩ := exists_of_toOption (x := do
      let s ← ofFields ⟨[]⟩ [("organization_id", .text "org-1")]
      World.engine ((Configuration.ofSettings s).override [("max_depth", .int (-1))]) ⟨[]⟩ none
        none) (by decide +kernel)
    obtain ⟨s, hs, hbuilt⟩ := exists_of_bind_eq_ok hengine
    refine ⟨s, engine, hs, (Limit.depth.kept_iff hs []).mpr ?_, hbuilt, fun hkept => ?_⟩
    · rintro v ⟨⟩
      exact Bound.notNegative_int.mpr (by decide)
    · rw [(checked_of_engine hbuilt).2] at hkept
      exact absurd (Bound.notNegative_int.mp hkept) (by decide)

end Settings

end AlertRules
