import AlertRules.Proofs.Condition.Shape
import AlertRules.Proofs.Engine.Isolation

/-!
How often a rule compares.

What a rule costs is how often it compares, and this is not part of its
result. So the comparisons are counted: a count stands beside the state, and
each comparison of the counting engine adds one to it and is otherwise what it
is (`Engine.evaluateCounting_mirrors`).

An evaluation compares at most once for each leaf (`Condition.evaluateBy_costs`),
and a condition that is kept within limits has as many leaves as these
allow (`Condition.leaves_le`). Nothing is compared before the limits are
checked and the whole document is read, so a rule that is refused costs
nothing, wherever its fault is.
-/

namespace AlertRules

namespace Action

variable {σ τ α β : Type}

/-! ### Counting -/

/-- The action, with one added to the count beside its state. -/
def counted (a : Action σ α) : Action (σ × Nat) α := do
  modify fun s => (s.1, s.2 + 1)
  a.within Prod.fst fun s t => (t, s.2)

theorem counted_mirrors (a : Action σ α) : Mirrors Prod.fst a.counted a := fun _ _ => rfl

/-- The action adds at most `bound` to the count, whatever becomes of it. -/
def Costs (bound : Nat) (a : Action (σ × Nat) α) : Prop :=
  ∀ s, a.Ends s fun _ s' => s'.2 ≤ s.2 + bound

variable {bound : Nat}

theorem Costs.mono {a : Action (σ × Nat) α} {more : Nat} (h : a.Costs bound)
    (hle : bound ≤ more) : a.Costs more :=
  fun s => (h s).mono fun _ _ hs' => Nat.le_trans hs' (Nat.add_le_add_left hle s.2)

theorem Costs.pure (x : α) : (Pure.pure x : Action (σ × Nat) α).Costs bound :=
  fun s => Ends.pure (Nat.le_add_right s.2 bound)

theorem Costs.throw (fault : Fault) : (MonadExcept.throw fault : Action (σ × Nat) α).Costs bound :=
  fun s => Ends.throw (Nat.le_add_right s.2 bound)

theorem Costs.counted (a : Action σ α) : a.counted.Costs 1 := fun s _ => Nat.le_refl (s.2 + 1)

theorem Costs.bind {a : Action (σ × Nat) α} {f : α → Action (σ × Nat) β} {more : Nat}
    (ha : a.Costs bound) (hf : ∀ x, (f x).Costs more) : (a >>= f).Costs (bound + more) := by
  refine fun s => Ends.bind (ha s) (fun x s' hs' => (hf x s').mono fun _ _ hs'' => ?_)
    fun _ _ hs' => ?_
  · omega
  · omega

theorem Costs.bind_free {a : Action (σ × Nat) α} {f : α → Action (σ × Nat) β}
    (ha : a.Costs bound) (hf : ∀ x, (f x).Costs 0) : (a >>= f).Costs bound :=
  Costs.bind ha hf

theorem Costs.bind_ofExcept {e : Except Fault α} {f : α → Action (σ × Nat) β}
    (h : ∀ x, e = .ok x → (f x).Costs bound) : (Action.ofExcept e >>= f).Costs bound := by
  cases e with
  | ok x => exact h x rfl
  | error fault => exact Costs.throw fault

end Action

open AlertRules.Action

/-! ### Evaluation with any way to compare -/

variable {σ τ : Type}

/-- A way to compare what a payload holds with what is expected. -/
abbrev Comparing (σ : Type) := Operator → Value → Value → Action σ Bool

def Leaf.evaluateBy (compare : Comparing σ) (data : Value) (l : Leaf) : Action σ Bool := do
  let expected ← Action.ofExcept (l.operand.resolve data)
  compare l.operator (Path.extract data l.field) expected

namespace Condition

mutual

/-- Whether a payload meets a condition, by some way to compare. -/
def evaluateBy (compare : Comparing σ) (data : Value) : Condition → Action σ Bool
  | .leaf l => l.evaluateBy compare data
  | .allOf children => evaluateAllBy compare data children
  | .anyOf children => evaluateAnyBy compare data children

/-- Whether a payload meets all of several conditions, by some way to compare. -/
def evaluateAllBy (compare : Comparing σ) (data : Value) : List Condition → Action σ Bool
  | [] => pure true
  | c :: rest => do
    if ← evaluateBy compare data c then evaluateAllBy compare data rest else pure false

/-- Whether a payload meets any of several conditions, by some way to compare. -/
def evaluateAnyBy (compare : Comparing σ) (data : Value) : List Condition → Action σ Bool
  | [] => pure false
  | c :: rest => do
    if ← evaluateBy compare data c then pure true else evaluateAnyBy compare data rest

end

end Condition

/-! ### The cost of an evaluation -/

theorem Leaf.evaluateBy_costs {compare : Comparing (σ × Nat)}
    (h : ∀ op actual expected, (compare op actual expected).Costs 1) (data : Value) (l : Leaf) :
    (l.evaluateBy compare data).Costs 1 :=
  .bind_ofExcept fun _ _ => h _ _ _

namespace Condition

variable {compare : Comparing (σ × Nat)}

mutual

theorem evaluateBy_costs (h : ∀ op actual expected, (compare op actual expected).Costs 1)
    (data : Value) : ∀ c : Condition, (c.evaluateBy compare data).Costs c.leaves
  | .leaf l => l.evaluateBy_costs h data
  | .allOf children => evaluateAllBy_costs h data children
  | .anyOf children => evaluateAnyBy_costs h data children

theorem evaluateAllBy_costs (h : ∀ op actual expected, (compare op actual expected).Costs 1)
    (data : Value) : ∀ cs : List Condition, (evaluateAllBy compare data cs).Costs (leavesOf cs)
  | [] => .pure true
  | c :: rest => .bind (evaluateBy_costs h data c) fun met => by
      cases met
      · exact .pure false
      · exact evaluateAllBy_costs h data rest

theorem evaluateAnyBy_costs (h : ∀ op actual expected, (compare op actual expected).Costs 1)
    (data : Value) : ∀ cs : List Condition, (evaluateAnyBy compare data cs).Costs (leavesOf cs)
  | [] => .pure false
  | c :: rest => .bind (evaluateBy_costs h data c) fun met => by
      cases met
      · exact evaluateAnyBy_costs h data rest
      · exact .pure true

end

end Condition

/-! ### The counting engine -/

namespace EngineState

variable {ω α β : Type}

theorem withSets_ofExcept (e : Except Fault α) :
    (withSets (Action.ofExcept e) : Action (EngineState ω) α) = Action.ofExcept e :=
  within_ofExcept EngineState.sets _ (fun _ => rfl) e

theorem withSets_bind (a : Action SetCache α) (f : α → Action SetCache β) :
    (withSets (a >>= f) : Action (EngineState ω) β) = withSets a >>= fun x => withSets (f x) :=
  within_bind EngineState.sets (fun s c => { s with sets := c }) (fun _ _ => rfl)
    (fun _ _ _ => rfl) a f

end EngineState

namespace Engine

variable {ω α β : Type}

/-- The action does with the sets of an engine what another does with them, and
counts. -/
abbrev Counts (a : Action (EngineState ω × Nat) α) (b : Action SetCache α) : Prop :=
  Mirrors Prod.fst a (EngineState.withSets b)

theorem Counts.pure (x : α) :
    Counts (Pure.pure x : Action (EngineState ω × Nat) α) (Pure.pure x) := fun _ _ => rfl

theorem Counts.ofExcept (e : Except Fault α) :
    Counts (Action.ofExcept e : Action (EngineState ω × Nat) α) (Action.ofExcept e) := by
  rw [Counts, EngineState.withSets_ofExcept]
  exact .ofExcept e

theorem Counts.bind {a : Action (EngineState ω × Nat) α} {b : Action SetCache α}
    {f : α → Action (EngineState ω × Nat) β} {g : α → Action SetCache β} (h : Counts a b)
    (hf : ∀ x, Counts (f x) (g x)) : Counts (a >>= f) (b >>= g) := by
  rw [Counts, EngineState.withSets_bind]
  exact Mirrors.bind h hf

/-- How the counting engine compares: as the engine does, and it counts. -/
def comparing (e : Engine ω) : Comparing (EngineState ω × Nat) := fun op actual expected =>
  (EngineState.withSets (e.comparator.compare op actual expected)).counted

theorem leaf_counts (e : Engine ω) (data : Value) (l : Leaf) :
    Counts (l.evaluateBy e.comparing data) (l.evaluate e.comparator data) :=
  .bind (.ofExcept _) fun _ => counted_mirrors _

mutual

theorem condition_counts (e : Engine ω) (data : Value) : ∀ c : Condition,
    Counts (c.evaluateBy e.comparing data) (c.evaluate e.comparator data)
  | .leaf l => e.leaf_counts data l
  | .allOf children => e.all_counts data children
  | .anyOf children => e.any_counts data children

theorem all_counts (e : Engine ω) (data : Value) : ∀ cs : List Condition,
    Counts (Condition.evaluateAllBy e.comparing data cs)
      (Condition.evaluateAll e.comparator data cs)
  | [] => .pure true
  | c :: rest => .bind (e.condition_counts data c) fun met => by
      cases met
      · exact .pure false
      · exact e.all_counts data rest

theorem any_counts (e : Engine ω) (data : Value) : ∀ cs : List Condition,
    Counts (Condition.evaluateAnyBy e.comparing data cs)
      (Condition.evaluateAny e.comparator data cs)
  | [] => .pure false
  | c :: rest => .bind (e.condition_counts data c) fun met => by
      cases met
      · exact e.any_counts data rest
      · exact .pure true

end

/-- Whether a payload meets a condition in whatever form it is given, with the
comparisons counted. -/
def meetsCounting (e : Engine ω) (input : ConditionInput) (data : Value) :
    Action (EngineState ω × Nat) Bool := do
  Action.ofExcept (e.limits.check 0 input.outline)
  let condition ← Action.ofExcept (input.parse.mapError .condition)
  condition.evaluateBy e.comparing data

/-- Evaluates a rule whose condition is given in whatever form, with the comparisons
counted. -/
def evaluateCounting (e : Engine ω) (clock : Clock) (rule : Rule) (input : ConditionInput)
    (data : Value) (context : EvaluationContext) :
    Action (EngineState ω × Nat) EvaluationResult := do
  let met ← e.meetsCounting input data
  let now ← Action.ofExcept clock.now
  if met then
    pure (triggeredResult rule now context (← Action.ofExcept (e.wording rule data)))
  else pure (quietResult rule now context)

theorem evaluateCounting_mirrors (e : Engine ω) (clock : Clock) (rule : Rule) (data : Value)
    (context : EvaluationContext) :
    Mirrors Prod.fst
      (e.evaluateCounting clock rule (.document (.object rule.conditions)) data context)
      (e.evaluateRule clock rule data context) := by
  refine .bind (.bind (.ofExcept _) fun _ => .bind (.ofExcept _) fun condition =>
    e.condition_counts data condition) fun met => .bind (.ofExcept _) fun now => ?_
  cases met with
  | true => exact .bind (.ofExcept _) fun wording => .pure _
  | false => exact .pure _

theorem outline_of_parse {input : ConditionInput} {c : Condition} (h : input.parse = .ok c) :
    input.outline = c.outline := by
  cases input with
  | document v => exact (Condition.of_parse v h).2
  | condition c' =>
      cases h
      rfl

/-- A condition within the limits compares at most as often as a full tree of their
depth and breadth has leaves. -/
theorem meetsCounting_costs (e : Engine ω) {depth breadth : Nat}
    (hdepth : e.configuration.maxDepth = .int depth)
    (hbreadth : e.configuration.maxConditionsPerLevel = .int breadth) (hpos : 1 ≤ breadth)
    (input : ConditionInput) (data : Value) :
    (e.meetsCounting input data).Costs (breadth ^ depth) := by
  have hlimits : e.limits = ⟨.int depth, .int breadth⟩ := by rw [limits, hdepth, hbreadth]
  refine .bind_ofExcept fun _ hcheck => .bind_ofExcept fun c hparse => ?_
  have hparse : input.parse = .ok c := mapError_eq_ok.mp hparse
  rw [hlimits, outline_of_parse hparse, Limits.check_eq_ok_iff] at hcheck
  obtain ⟨hheight, hnarrow⟩ := hcheck
  have hleaves : c.leaves ≤ breadth ^ depth :=
    Condition.leaves_le hpos c depth (by omega) ((Condition.everyNode_and c).mp hnarrow).2
  exact (Condition.evaluateBy_costs (fun _ _ _ => .counted _) data c).mono hleaves

theorem evaluateCounting_costs {e : Engine ω} {clock : Clock} {rule : Rule}
    {input : ConditionInput} {data : Value} {context : EvaluationContext} {bound : Nat}
    (h : (e.meetsCounting input data).Costs bound) :
    (e.evaluateCounting clock rule input data context).Costs bound := by
  refine .bind_free h fun met => .bind_ofExcept fun now _ => ?_
  cases met with
  | true => exact .bind_ofExcept fun _ _ => .pure _
  | false => exact .pure _

/-- A condition that is refused is refused before anything is compared. -/
theorem meetsCounting_refuses {e : Engine ω} {input : ConditionInput} {data : Value}
    (h : e.limits.check 0 input.outline ≠ .ok () ∨ ∀ c, input.parse ≠ .ok c)
    (s : EngineState ω × Nat) :
    (e.meetsCounting input data).Ends s fun outcome s' =>
      (∃ fault, outcome = .error fault) ∧ s' = s := by
  refine .bind_ofExcept (fun _ hcheck => .bind_ofExcept (fun c hparse => ?_) ?_) ?_
  · rcases h with hcheck' | hparse'
    · exact absurd hcheck hcheck'
    · exact absurd (mapError_eq_ok.mp hparse) (hparse' c)
  · exact fun fault _ => ⟨⟨fault, rfl⟩, rfl⟩
  · exact fun fault _ => ⟨⟨fault, rfl⟩, rfl⟩

/-- The evaluation of a rule compares at most as often as its limits allow, and not
at all if the rule is refused for its limits or for its form. It is that of the
engine, with the comparisons counted, for whatever the condition is given as. -/
theorem comparisons_bounded (e : Engine ω) {depth breadth : Nat}
    (hdepth : e.configuration.maxDepth = .int depth)
    (hbreadth : e.configuration.maxConditionsPerLevel = .int breadth) (hpos : 1 ≤ breadth)
    (clock : Clock) (rule : Rule) (data : Value) (context : EvaluationContext) :
    Mirrors Prod.fst
        (e.evaluateCounting clock rule (.document (.object rule.conditions)) data context)
        (e.evaluateRule clock rule data context) ∧
      ∀ input : ConditionInput,
        (e.evaluateCounting clock rule input data context).Costs (breadth ^ depth) ∧
        (e.limits.check 0 input.outline ≠ .ok () ∨ (∀ c, input.parse ≠ .ok c) → ∀ s,
          (e.evaluateCounting clock rule input data context).Ends s fun outcome s' =>
            (∃ fault, outcome = .error fault) ∧ s' = s) := by
  refine ⟨e.evaluateCounting_mirrors clock rule data context, fun input => ⟨?_, ?_⟩⟩
  · exact evaluateCounting_costs (e.meetsCounting_costs hdepth hbreadth hpos input data)
  · refine fun hrefused s => .bind (meetsCounting_refuses hrefused s) ?_ fun _ _ h => h.imp_left ?_
    · rintro _ _ ⟨⟨_, ⟨⟩⟩, -⟩
    · rintro ⟨_, ⟨⟩⟩
      exact ⟨_, rfl⟩

def narrow : Engine Unit :=
  let e := lookingUp (codeIn [])
  { e with
    configuration := { e.configuration with maxDepth := .int 2, maxConditionsPerLevel := .int 2 }
    named := ⟨rfl, rfl⟩ }

/-- Two pairs of comparisons are four, and none if only the last of them cannot be
read. -/
theorem comparisons_bounded_pairs :
    let leaf : Value → Value := fun op =>
      .object [("field", .text "code"), ("operator", op), ("value", .text "a")]
    let pair : Value → Value → Value := fun v w => .object [("AND", .list [v, w])]
    let rule : Value → Rule := fun last =>
      { codeIn [] with
        conditions := [("AND", .list [pair (leaf (.text "=")) (leaf (.text "=")),
          pair (leaf (.text "=")) last])] }
    let data : Value := .object [("code", .text "a")]
    let context : EvaluationContext :=
      ⟨.text "org-1", .null, [], untouched.statistics.lastEvaluationAt, none, none, none, [], []⟩
    let document : Value → ConditionInput := fun last => .document (.object (rule last).conditions)
    let run : Value → Ending (EngineState Unit × Nat) EvaluationResult := fun last =>
      (narrow.evaluateCounting {} (rule last) (document last) data context).runFrom
        (untouched, 0) []
    (run (leaf (.text "="))).state.2 = 2 ^ 2 ∧
      (∃ fault, (run (leaf .null)).outcome = .error fault) ∧ (run (leaf .null)).state.2 = 0 := by
  intro leaf pair rule data context document run
  have hdepth : narrow.configuration.maxDepth = .int (2 : Nat) := rfl
  have hbreadth : narrow.configuration.maxConditionsPerLevel = .int (2 : Nat) := rfl
  have hbounded := fun last => (comparisons_bounded narrow hdepth hbreadth (by decide) {}
    (rule last) data context).2 (document last)
  have hrefused : ∀ c, (document (leaf .null)).parse ≠ .ok c := nofun
  have hatMost := (hbounded (leaf (.text "="))).1 (untouched, 0) []
  rw [Nat.zero_add] at hatMost
  have hatLeast : 2 ^ 2 ≤ (run (leaf (.text "="))).state.2 := by decide +kernel
  obtain ⟨hfault, hstate⟩ := (hbounded (leaf .null)).2 (.inr hrefused) (untouched, 0) []
  -- What is computed is the count, and only once.
  have hrun : ∀ last, run last =
      (narrow.evaluateCounting {} (rule last) (document last) data context).runFrom
        (untouched, 0) [] := fun _ => rfl
  rw [hrun] at hatLeast
  rw [hrun, hrun, hstate]
  exact ⟨Nat.le_antisymm hatMost hatLeast, hfault, rfl⟩

end Engine

end AlertRules
