import AlertRules.Proofs.Comparison.Sets
import AlertRules.Proofs.Engine.Tally
import AlertRules.Proofs.Execution.Frame

/-!
Verdicts without a cache.

The cached sets are there to be fast. As long as the lists that
conditions look into hold plain values, what the cache has come to hold
decides nothing, and a condition has the verdict that it has with an
empty cache (`Engine.verdict`); nor does it matter, plain or not, what
the log holds (`Condition.evaluate_alike`). So what the entries of a batch come to is a
function of the entries, the payload, the context and the clock
(`settleAll_ends`); all that evaluation leaves behind are more sets
and the increments that it hands to the pool.
-/

namespace AlertRules

open AlertRules.Action

/-! ### Plain conditions -/

/-- An operand that is plain JSON: if it is a list, documents can hold its
items. -/
def Operand.IsPlain : Operand → Prop
  | .literal v => ∀ items, v.items? = some items → ∀ item ∈ items, item.IsKeyed
  | .dynamic _ => True

namespace Condition

mutual

def IsPlain : Condition → Prop
  | .leaf l => l.operand.IsPlain
  | .allOf children => ArePlain children
  | .anyOf children => ArePlain children

def ArePlain : List Condition → Prop
  | [] => True
  | c :: rest => IsPlain c ∧ ArePlain rest

end

end Condition

/-- A rule whose conditions are plain JSON, if they can be read at all. -/
def Rule.IsPlain (r : Rule) : Prop :=
  ∀ c, Condition.parse (.object r.conditions) = .ok c → c.IsPlain

/-- An entry that is a plain rule, if it is a rule. -/
def RuleInput.IsPlain (entry : RuleInput) : Prop :=
  ∀ rule, Engine.ruleOf entry = .ok rule → rule.IsPlain

/-- Cached sets of nothing but plain lists. -/
def SetCache.IsPlain (cache : SetCache) : Prop :=
  cache.Holds fun items => ∀ v ∈ items, v.IsKeyed

theorem SetCache.isPlain_empty : SetCache.empty.IsPlain := holds_empty

/-! ### Conditions -/

theorem Leaf.evaluate_steady (comparator : Comparator) (data : Value) {l : Leaf}
    (h : l.operand.IsPlain) : (l.evaluate comparator data).Steady SetCache.IsPlain := by
  refine .bind_ofExcept fun expected hexpected => ?_
  refine Comparator.compare_steady (sharesMembers_of_keyed fun _ => id) fun _ _ items hitems => ?_
  cases hoperand : l.operand with
  | literal v =>
      rw [hoperand] at h hexpected
      cases hexpected
      exact h items hitems
  | dynamic d =>
      -- a computed operand is a number or missing, and no list
      rw [hoperand] at hexpected
      obtain ⟨number, -, hexpected⟩ := exists_of_bind_eq_ok hexpected
      cases number with
      | none | some x =>
          cases hexpected
          cases hitems

namespace Condition

mutual

theorem evaluate_steady (comparator : Comparator) (data : Value) :
    ∀ c : Condition, c.IsPlain → (evaluate comparator data c).Steady SetCache.IsPlain
  | .leaf _, h => Leaf.evaluate_steady comparator data h
  | .allOf children, h => evaluateAll_steady comparator data children h
  | .anyOf children, h => evaluateAny_steady comparator data children h

theorem evaluateAll_steady (comparator : Comparator) (data : Value) :
    ∀ cs : List Condition, ArePlain cs → (evaluateAll comparator data cs).Steady SetCache.IsPlain
  | [], _ => .pure true
  | c :: rest, h => .bind (evaluate_steady comparator data c h.1) fun met => by
      cases met
      · exact .pure false
      · exact evaluateAll_steady comparator data rest h.2

theorem evaluateAny_steady (comparator : Comparator) (data : Value) :
    ∀ cs : List Condition, ArePlain cs → (evaluateAny comparator data cs).Steady SetCache.IsPlain
  | [], _ => .pure false
  | c :: rest, h => .bind (evaluate_steady comparator data c h.1) fun met => by
      cases met
      · exact evaluateAny_steady comparator data rest h.2
      · exact .pure true

end

mutual

theorem evaluate_alike (comparator : Comparator) (data : Value) :
    ∀ c : Condition, Alike id (evaluate comparator data c) (evaluate comparator data c)
  | .leaf _ => .bind (.ofExcept _) fun _ => comparator.compare_alike _ _ _
  | .allOf children => evaluateAll_alike comparator data children
  | .anyOf children => evaluateAny_alike comparator data children

theorem evaluateAll_alike (comparator : Comparator) (data : Value) :
    ∀ cs : List Condition,
      Alike id (evaluateAll comparator data cs) (evaluateAll comparator data cs)
  | [] => .pure true
  | c :: rest => .bind (evaluate_alike comparator data c) fun met => by
      cases met
      · exact .pure false
      · exact evaluateAll_alike comparator data rest

theorem evaluateAny_alike (comparator : Comparator) (data : Value) :
    ∀ cs : List Condition,
      Alike id (evaluateAny comparator data cs) (evaluateAny comparator data cs)
  | [] => .pure false
  | c :: rest => .bind (evaluate_alike comparator data c) fun met => by
      cases met
      · exact evaluateAny_alike comparator data rest
      · exact .pure true

end

end Condition

/-! ### Rules -/

/-- What evaluation does to the state of an engine: it fills the cached sets
and hands increments to the pool. -/
structure EngineState.Evaluated {ω : Type} (s s' : EngineState ω) : Prop where
  world : s'.desk.world = s.desk.world
  pool : ∃ ids : List String, s'.desk.pool =
    { s.desk.pool with jobs := s.desk.pool.jobs ++ ids.map Job.increment }
  cache : s'.cache = s.cache
  sets : s.sets.IsPlain → s'.sets.IsPlain

namespace EngineState.Evaluated

variable {ω : Type} {s s' s'' : EngineState ω}

theorem refl (s : EngineState ω) : s.Evaluated s :=
  ⟨rfl, ⟨[], by simp⟩, rfl, id⟩

theorem trans (h : s.Evaluated s') (h' : s'.Evaluated s'') : s.Evaluated s'' := by
  obtain ⟨ids, hpool⟩ := h.pool
  obtain ⟨ids', hpool'⟩ := h'.pool
  refine ⟨h'.world.trans h.world, ⟨ids ++ ids', ?_⟩, h'.cache.trans h.cache, h'.sets ∘ h.sets⟩
  rw [hpool', hpool, List.map_append, List.append_assoc]

end EngineState.Evaluated

def Rule.titleTemplate (r : Rule) : String := Engine.textOr r.actions.title r.name

def Rule.messageTemplate (r : Rule) : String :=
  Engine.textOr r.actions.message ("Rule " ++ r.name ++ " triggered")

namespace Engine

variable {ω : Type} {e : Engine ω} {clock : Clock} {data : Value} {context : EvaluationContext}

/-- Whether a payload meets the conditions of a rule, without a cache. -/
def verdict (e : Engine ω) (rule : Rule) (data : Value) : Except Fault Bool := do
  e.limits.check 0 (Value.object rule.conditions).outline
  let condition ← (Condition.parse (.object rule.conditions)).mapError .condition
  ((condition.evaluate e.comparator data).runFrom .empty []).outcome

def assess (e : Engine ω) (clock : Clock) (rule : Rule) (data : Value)
    (context : EvaluationContext) : Except Fault EvaluationResult := do
  let met ← e.verdict rule data
  let now ← clock.now
  if met then pure (triggeredResult rule now context (← e.wording rule data))
  else pure (quietResult rule now context)

def assessEntry (e : Engine ω) (clock : Clock) (data : Value) (context : EvaluationContext)
    (entry : RuleInput) : Except Fault EvaluationResult := do
  e.assess clock (← ruleOf entry) data context

/-- What an entry comes to: its result, or none if it fails and can be named. -/
def outcomeOf (e : Engine ω) (clock : Clock) (data : Value) (context : EvaluationContext)
    (entry : RuleInput) : Except Fault (Option EvaluationResult) :=
  match e.assessEntry clock data context entry with
  | .ok r => .ok (some r)
  | .error _ => do
    let _ ← (idOf entry).display
    pure none

theorem meets_ends {rule : Rule} (hplain : rule.IsPlain) {s : EngineState ω}
    (hsets : s.sets.IsPlain) :
    (e.meets rule data).Ends s fun outcome s' =>
      outcome = e.verdict rule data ∧ s.Evaluated s' := by
  refine .bind_ofExcept_computes (.refl s) fun _ _ => ?_
  refine .bind_ofExcept_computes (.refl s) fun condition hcondition => ?_
  have hparsed : Condition.parse (.object rule.conditions) = .ok condition := by
    cases hparse : Condition.parse (.object rule.conditions) with
    | ok c =>
        rw [hparse] at hcondition
        cases hcondition
        rfl
    | error fault =>
        rw [hparse] at hcondition
        cases hcondition
  have hsteady := Condition.evaluate_steady e.comparator data condition (hplain condition hparsed)
  refine .within ((hsteady.ends SetCache.isPlain_empty hsets).mono ?_)
  rintro outcome sets ⟨rfl, hsets'⟩
  exact ⟨rfl, rfl, ⟨[], by simp⟩, rfl, fun _ => hsets'⟩

theorem evaluateRule_ends {rule : Rule} (hplain : rule.IsPlain) {s : EngineState ω}
    (hsets : s.sets.IsPlain) :
    (e.evaluateRule clock rule data context).Ends s fun outcome s' =>
      outcome = e.assess clock rule data context ∧ s.Evaluated s' := by
  refine .bind_computes (meets_ends hplain hsets) (fun met s₁ _ hs₁ => ?_) fun _ hs₁ => hs₁
  refine .bind_ofExcept_computes hs₁ fun now _ => ?_
  cases met with
  | true => exact .bind_ofExcept_computes hs₁ fun wording _ => .pure ⟨rfl, hs₁⟩
  | false => exact .pure ⟨rfl, hs₁⟩

/-- What words a rule: its two templates, filled, and the entity of the payload. -/
theorem wording_eq_ok_iff {rule : Rule} {w : Wording} :
    e.wording rule data = .ok w ↔
      Template.interpolate rule.titleTemplate data = .ok w.title ∧
        Template.interpolate rule.messageTemplate data = .ok w.message ∧
        e.entityIn data = .ok w.entityId := by
  constructor
  · intro h
    obtain ⟨title, htitle, h⟩ := exists_of_bind_eq_ok h
    obtain ⟨message, hmessage, h⟩ := exists_of_bind_eq_ok h
    obtain ⟨entityId, hentityId, h⟩ := exists_of_bind_eq_ok h
    cases h
    exact ⟨htitle, hmessage, hentityId⟩
  · rintro ⟨htitle, hmessage, hentityId⟩
    unfold Rule.titleTemplate at htitle
    unfold Rule.messageTemplate at hmessage
    rw [wording, htitle, hmessage, hentityId]
    rfl

/-- A result is that of its rule, and if it triggered it is worded by the payload. -/
theorem evaluateRule_yields (e : Engine ω) (clock : Clock) (rule : Rule) (data : Value)
    (context : EvaluationContext) :
    (e.evaluateRule clock rule data context).Yields (fun _ => True) fun r =>
      r.ruleId = rule.id ∧ (r.triggered = true → ∃ now wording,
        e.wording rule data = .ok wording ∧ r = triggeredResult rule now context wording) := by
  refine .bind (.anything _) fun met _ => .bind (.anything _) fun now _ => ?_
  cases met with
  | true =>
      refine .bind (.ofExcept fun _ h => h) fun wording hwording => .pure ⟨rfl, fun _ => ?_⟩
      exact ⟨now, wording, hwording, rfl⟩
  | false =>
      refine .pure ⟨rfl, ?_⟩
      rintro ⟨⟩

theorem scheduleIncrement_ends (e : Engine ω) (ruleId : String) (s : EngineState ω) :
    (e.scheduleIncrement ruleId).Ends s fun outcome s' => outcome = .ok () ∧ s.Evaluated s' := by
  unfold scheduleIncrement
  split
  next => exact .pure ⟨rfl, .refl s⟩
  next =>
      have hsubmit : (EngineState.atDesk (Desk.submit (.increment ruleId))).Ends s fun outcome s' =>
          ∃ taken, outcome = .ok taken ∧ s.Evaluated s' := by
        refine .within ((Desk.submit_ends (.increment ruleId) s.desk).mono ?_)
        rintro outcome d ⟨rfl, hworld, hpool⟩
        refine ⟨_, rfl, hworld, ?_, rfl, id⟩
        refine ⟨if s.desk.pool.isClosed then [] else [ruleId], ?_⟩
        rw [hpool]
        split <;> rfl
      refine .bind_returns hsubmit fun taken s' hs' => ?_
      split
      · exact .record ⟨rfl, hs'⟩
      · exact .pure ⟨rfl, hs'⟩

/-! ### Batches -/

theorem settleRule_ends {entry : RuleInput} (hplain : entry.IsPlain) {s : EngineState ω}
    (hsets : s.sets.IsPlain) :
    (e.settleRule clock data context entry).Ends s fun outcome s' =>
      outcome = e.assessEntry clock data context entry ∧ s.Evaluated s' := by
  refine .bind_ofExcept_computes (.refl s) fun rule hrule => ?_
  rw [← bind_pure (e.assess clock rule data context)]
  refine .bind_computes (evaluateRule_ends (hplain rule hrule) hsets) (fun r s₁ _ hs₁ => ?_)
    fun _ hs₁ => hs₁
  split
  · refine .bind_ok (e.scheduleIncrement_ends rule.id s₁) fun s₂ hs₂ => ?_
    exact .pure ⟨rfl, hs₁.trans hs₂⟩
  · exact .pure ⟨rfl, hs₁⟩

theorem complain_ends {σ : Type} (entry : RuleInput) (fault : Fault) (s : σ) :
    (complain entry fault).Ends s fun outcome s' =>
      outcome = (fun _ => ()) <$> (idOf entry).display ∧ s' = s := by
  unfold complain
  cases (idOf entry).display with
  | ok text => exact .record ⟨rfl, rfl⟩
  | error fault => exact .throw ⟨rfl, rfl⟩

theorem settle_ends {entry : RuleInput} (hplain : entry.IsPlain) {s : EngineState ω}
    (hsets : s.sets.IsPlain) :
    (e.settle clock data context entry).Ends s fun outcome s' =>
      outcome = e.outcomeOf clock data context entry ∧ s.Evaluated s' := by
  refine .bind_attempt (settleRule_ends hplain hsets) ?_
  rintro outcome s' ⟨houtcome, hs'⟩
  rw [outcomeOf, ← houtcome]
  cases outcome with
  | ok r => exact .pure ⟨rfl, hs'⟩
  | error fault =>
      refine .bind (complain_ends entry fault s') ?_ ?_
      · rintro _ _ ⟨hnamed, rfl⟩
        obtain ⟨text, htext, -⟩ := map_eq_ok.mp hnamed.symm
        rw [htext]
        exact .pure ⟨rfl, hs'⟩
      · rintro fault' _ ⟨hnamed, rfl⟩
        refine ⟨?_, hs'⟩
        cases hdisplay : (idOf entry).display with
        | ok text => rw [hdisplay] at hnamed; cases hnamed
        | error fault'' => rw [hdisplay] at hnamed; cases hnamed; rfl

/-- What several entries come to: induction on the entries, the sets staying
those of plain lists. -/
theorem settleAll_ends {entries : List RuleInput} (hplain : ∀ entry ∈ entries, entry.IsPlain)
    {s : EngineState ω} (hsets : s.sets.IsPlain) :
    (e.settleAll clock data context entries).Ends s fun outcome s' =>
      outcome = entries.mapM (e.outcomeOf clock data context) ∧ s.Evaluated s' := by
  induction entries generalizing s with
  | nil => exact .pure ⟨rfl, .refl s⟩
  | cons entry rest ih =>
      obtain ⟨hentry, hrest⟩ := List.forall_mem_cons.mp hplain
      rw [List.mapM_cons]
      refine .bind_computes (settle_ends hentry hsets) (fun result s₁ _ hs₁ => ?_) fun _ hs₁ => hs₁
      refine .bind_computes ((ih hrest (hs₁.sets hsets)).mono fun _ _ h => ⟨h.1, hs₁.trans h.2⟩)
        (fun results s₂ _ hs₂ => ?_) fun _ hs₂ => hs₂
      exact .pure ⟨rfl, hs₂⟩

def contextOf (e : Engine ω) (clock : Clock) (payload : Payload) (input : ContextInput) :
    Except Fault EvaluationContext := do
  match ← e.checkContext clock payload input with
  | .ok c => pure c
  | .bad _ => pure (e.plainContext (← clock.now) payload)

theorem buildContext_ends (e : Engine ω) (clock : Clock) (payload : Payload) (input : ContextInput)
    (s : EngineState ω) :
    (e.buildContext clock payload input).Ends s fun outcome s' =>
      outcome = e.contextOf clock payload input ∧ s' = s := by
  refine .bind_ofExcept_computes rfl fun checked _ => ?_
  cases checked with
  | ok c => exact .pure ⟨rfl, rfl⟩
  | bad issues =>
      refine .bind_record (.bind_ofExcept_computes rfl fun now _ => ?_)
      exact .pure ⟨rfl, rfl⟩

def batchOf (e : Engine ω) (clock : Clock) (entries : List RuleInput) (payload : Payload)
    (input : ContextInput) : Except Fault (List EvaluationResult) := do
  let context ← e.contextOf clock payload input
  let outcomes ← entries.mapM (e.outcomeOf clock payload.value context)
  let _ ← clock.now
  pure outcomes.reduceOption

theorem countBatch_ends (size : Nat) (t : Tally) (s : EngineState ω) :
    (countBatch size t).Ends s fun outcome s' => outcome = .ok () ∧ s.Evaluated s' :=
  .modify ⟨rfl, rfl, ⟨[], by simp⟩, rfl, id⟩

theorem evaluateRules_ends {entries : List RuleInput} (hplain : ∀ entry ∈ entries, entry.IsPlain)
    (payload : Payload) (input : ContextInput) {s : EngineState ω} (hsets : s.sets.IsPlain) :
    (e.evaluateRules clock entries payload input).Ends s fun outcome s' =>
      outcome = e.batchOf clock entries payload input ∧ s.Evaluated s' := by
  rw [evaluateRules_eq]
  refine .bind_computes (e.buildContext_ends clock payload input s) ?_ fun _ hs => hs ▸ .refl s
  rintro context _ - rfl
  refine .bind_computes (settleAll_ends hplain hsets) (fun outcomes s₁ _ hs₁ => ?_) fun _ hs₁ => hs₁
  refine .bind_ok (countBatch_ends _ _ s₁) fun s₂ hs₂ => ?_
  have hcounted := hs₁.trans hs₂
  rw [stampBatch, bind_assoc]
  refine .bind_ofExcept_computes hcounted fun now _ => .bind_modify (.pure ⟨rfl, ?_⟩)
  exact hcounted.trans ⟨rfl, ⟨[], by simp⟩, rfl, id⟩

end Engine

end AlertRules
