import AlertRules.Proofs.Engine.Isolation
import AlertRules.Proofs.Evaluation.Identity
import AlertRules.Proofs.Template.Pieces

/-!
What the results of a rule are about.

The entity is looked for in the fields of the payload that the configuration
names, and then in the context, and it is looked for twice over: the engine
takes the first field that counts as true, a result the first id that is not null
and not empty. Zeros, `false`, and empty lists and objects fall between the two. An
event whose first id is one of them is about whatever comes next
(`Engine.entity_named`).
-/

namespace AlertRules

open AlertRules.Action

/-! ### Identifiers -/

/-- Whether a value can name an entity: it is there, and it is no empty text. -/
def Value.isIdentifier : Value → Bool
  | .null | .missing => false
  | .text s => !s.isEmpty
  | _ => true

theorem Value.isIdentifier_of_truthy {v : Value} (h : v.truthy = true) : v.isIdentifier = true := by
  cases v with
  | null => simp [truthy] at h
  | missing => simp [truthy] at h
  | text s => simpa [truthy, isIdentifier] using h
  | _ => rfl

theorem Value.displayText_ne_empty {v : Value} (h : v.isIdentifier = true) :
    v.displayText ≠ "" := by
  cases v with
  | text s => simpa [displayText, isIdentifier] using h
  | decimal d => exact d.text_ne_empty
  | _ => exact inspectText_ne_empty _

def EvaluationContext.entity? (c : EvaluationContext) : Option String :=
  c.entityId.filter (· ≠ "")

/-- The first of some values that counts as an id, put into text, or else the entity of a
context. -/
def entityFrom (counts : Value → Bool) (vs : List Value) (context : EvaluationContext) :
    Except Fault (Option String) :=
  match vs.find? counts with
  | some v => some <$> v.display
  | none => .ok context.entity?

/-- The first value that counts as true is the first identifier if that counts as
true. -/
theorem Value.find?_truthy {vs : List Value} {v : Value} (h : vs.find? isIdentifier = some v)
    (hv : v.truthy = true) : vs.find? truthy = some v := by
  obtain ⟨-, before, after, hvs, hbefore⟩ := List.find?_eq_some_iff_append.mp h
  refine List.find?_eq_some_iff_append.mpr ⟨hv, before, after, hvs, fun w hw => ?_⟩
  have hnone := hbefore w hw
  by_contra htruthy
  simp [isIdentifier_of_truthy (v := w) (by simpa using htruthy)] at hnone

theorem Value.find?_truthy_eq_none {vs : List Value} (h : vs.find? isIdentifier = none) :
    vs.find? truthy = none := by
  simp only [List.find?_eq_none] at h ⊢
  exact fun v hv htruthy => h v hv (isIdentifier_of_truthy htruthy)

/-- Going by what counts as true finds the entity that going by identifiers finds,
unless the first identifier does not count as true and what is found in its place has
another text. -/
theorem entityFrom_truthy_iff (vs : List Value) (context : EvaluationContext) :
    entityFrom Value.truthy vs context = entityFrom Value.isIdentifier vs context ↔
      ∀ v, vs.find? Value.isIdentifier = some v → v.truthy = true ∨
        entityFrom Value.truthy vs context = some <$> v.display := by
  cases hfirst : vs.find? Value.isIdentifier with
  | none => simp [entityFrom, hfirst, Value.find?_truthy_eq_none hfirst]
  | some v =>
      by_cases hv : v.truthy = true
      · simp [entityFrom, hfirst, Value.find?_truthy hfirst hv, hv]
      · simp [entityFrom, hfirst, hv]

/-! ### The entity of a payload -/

namespace EvaluationResult

theorem entityText?_ofText? {entityId : Option String} (h : entityId ≠ some "") :
    entityText? (Value.ofText? entityId) = .ok entityId := by
  cases entityId with
  | none => rfl
  | some s =>
      have hs : s ≠ "" := fun hempty => h (by rw [hempty])
      simp [Value.ofText?, entityText?, hs]

theorem entityText?_context (context : EvaluationContext) :
    entityText? (Value.ofText? context.entityId) = .ok context.entity? := by
  unfold EvaluationContext.entity?
  cases context.entityId with
  | none => rfl
  | some s =>
      by_cases hs : s = ""
      · simp [Value.ofText?, entityText?, Option.filter, hs]
      · simp [Value.ofText?, entityText?, Option.filter, hs]

/-- A result is about the entity that its metadata names, or else about that of its
context. -/
theorem entityOf_some {metadata : Object} {entityId : Option String}
    (h : metadata.getOrNull "entity_id" = Value.ofText? entityId) (hne : entityId ≠ some "")
    (context : EvaluationContext) :
    entityOf metadata (some context) = .ok (entityId.or context.entity?) := by
  unfold entityOf
  rw [h, entityText?_ofText? hne]
  cases entityId with
  | none => exact entityText?_context context
  | some s => rfl

end EvaluationResult

namespace Engine

variable {ω : Type} {e : Engine ω}

/-- The entity of a payload, by the values that it has in the fields for it. -/
def firstTruthy (vs : List Value) : Except Fault (Option String) :=
  match vs.find? Value.truthy with
  | some v => some <$> v.display
  | none => .ok none

theorem firstPresent_texts (fields : Object) (names : List String) :
    firstPresent fields (names.map .text) = firstTruthy (names.map fields.getOrNull) := by
  induction names with
  | nil => rfl
  | cons name rest ih =>
      unfold firstTruthy at ih ⊢
      simp only [List.map_cons, firstPresent, Value.isKey, if_true, List.find?_cons]
      cases (fields.getOrNull name).truthy with
      | true => rfl
      | false => simpa using ih

theorem entityIn_object {names : List String}
    (hnames : e.configuration.entityIdFields.parts? = some (names.map .text)) (fields : Object) :
    e.entityIn (.object fields) = firstTruthy (names.map fields.getOrNull) := by
  simp only [entityIn, hnames, firstPresent_texts]

variable {vs : List Value}

theorem firstTruthy_ne_empty {entityId : Option String} (h : firstTruthy vs = .ok entityId) :
    entityId ≠ some "" := by
  unfold firstTruthy at h
  split at h
  next v hv =>
      obtain ⟨s, hs, rfl⟩ := map_eq_ok.mp h
      obtain ⟨-, rfl⟩ := Value.written_eq_ok_iff.mp hs
      have hidentifier := Value.isIdentifier_of_truthy (List.find?_some hv)
      exact fun hempty => Value.displayText_ne_empty hidentifier (Option.some.inj hempty)
  next =>
      rintro rfl
      cases h

/-- An entity has a name if the value that counts as one has a text. -/
theorem exists_firstTruthy_iff :
    (∃ entityId, firstTruthy vs = .ok entityId) ↔
      ∀ v, vs.find? Value.truthy = some v → v.hasText = true := by
  unfold firstTruthy
  cases vs.find? Value.truthy with
  | none => exact iff_of_true ⟨none, rfl⟩ nofun
  | some v =>
      cases hv : v.hasText with
      | true =>
          refine iff_of_true ⟨some v.displayText, ?_⟩ ?_
          · exact congrArg (some <$> ·) (Value.written_of_hasText hv)
          · rintro _ ⟨⟩
            exact hv
      | false =>
          refine iff_of_false ?_ fun h => absurd (hv.symm.trans (h v rfl)) nofun
          rintro ⟨entityId, h⟩
          obtain ⟨s, hs, -⟩ := map_eq_ok.mp h
          cases (Value.written_of_not_hasText hv).symm.trans hs

/-- What the result of a rule is about, when the payload has some values in the fields that
name an entity. -/
structure IsNamed (vs : List Value) (context : EvaluationContext) (r : EvaluationResult) :
    Prop where
  context_eq : r.context = some context
  entityId_eq : r.entityId = entityFrom Value.truthy vs context
  fingerprint_eq : ∃ entity?, r.entityId = .ok entity? ∧ r.fingerprint = .ok (
    match entity? with
    | some entity => r.ruleId ++ ":" ++ entity
    | none => r.ruleId)
  /-- The result is about the first identifier exactly if that is not overlooked. -/
  isFirst_iff : r.entityId = entityFrom Value.isIdentifier vs context ↔
    ∀ v, vs.find? Value.isIdentifier = some v → v.truthy = true ∨ r.entityId = some <$> v.display

theorem isNamed_triggeredResult (rule : Rule) (now : Moment) (context : EvaluationContext)
    {wording : Wording} (h : firstTruthy vs = .ok wording.entityId) :
    IsNamed vs context (triggeredResult rule now context wording) := by
  have hmetadata : (triggeredResult rule now context wording).entityId =
      .ok (wording.entityId.or context.entity?) :=
    EvaluationResult.entityOf_some rfl (firstTruthy_ne_empty h) context
  have hentity : (triggeredResult rule now context wording).entityId =
      entityFrom Value.truthy vs context := by
    rw [hmetadata, entityFrom]
    unfold firstTruthy at h
    split at h
    next v hv =>
        obtain ⟨s, hs, hname⟩ := map_eq_ok.mp h
        rw [← hname, hs]
        rfl
    next => rw [← Except.ok.inj h, Option.none_or]
  refine ⟨rfl, hentity, ⟨_, hmetadata, ?_⟩, ?_⟩
  · rw [EvaluationResult.fingerprint_of_entity hmetadata]
    cases hor : wording.entityId.or context.entity? with
    | none => rfl
    | some entity =>
        rw [hor] at hmetadata
        rw [fingerprintOf_some (EvaluationResult.ne_empty_of_entityId hmetadata)]
  · rw [hentity]
    exact entityFrom_truthy_iff vs context

/-! ### Batches -/

variable {data : Value} {context : EvaluationContext} {clock : Clock}

theorem settle_yields {returned : EvaluationResult → Prop}
    (h : ∀ rule, (e.evaluateRule clock rule data context).Yields (fun _ => True) returned)
    (entry : RuleInput) :
    (e.settle clock data context entry).Yields (fun _ => True) fun result =>
      ∀ r ∈ result, returned r := by
  have hrule : (e.settleRule clock data context entry).Yields (fun _ => True) returned := by
    refine .bind (.anything _) fun rule _ => .bind (h rule) fun r hr => ?_
    split
    · exact .bind (.anything _) fun _ _ => .pure hr
    · exact .pure hr
  refine .bind_attempt hrule (fun r hr => .pure ?_) fun fault => ?_
  · rintro _ ⟨⟩
    exact hr
  · exact .bind (.anything _) fun _ _ => .pure (by simp)

theorem settleAll_yields {returned : EvaluationResult → Prop}
    (h : ∀ rule, (e.evaluateRule clock rule data context).Yields (fun _ => True) returned)
    (entries : List RuleInput) :
    (e.settleAll clock data context entries).Yields (fun _ => True) fun outcomes =>
      ∀ r ∈ outcomes.reduceOption, returned r := by
  induction entries with
  | nil => exact .pure (by simp)
  | cons entry rest ih =>
      refine .bind (settle_yields h entry) fun result hresult => ?_
      refine .bind ih fun outcomes houtcomes => .pure ?_
      intro r hr
      rcases List.mem_cons.mp (List.reduceOption_mem_iff.mp hr) with hsome | hrest
      · exact hresult r hsome.symm
      · exact houtcomes r (List.reduceOption_mem_iff.mpr hrest)

/-- A batch yields what its rules yield in the context that is built for it. -/
theorem evaluateRules_yields {returned : EvaluationContext → EvaluationResult → Prop}
    {payload : Payload} (h : ∀ rule context,
      (e.evaluateRule clock rule payload.value context).Yields (fun _ => True) (returned context))
    (entries : List RuleInput) (input : ContextInput) :
    (e.evaluateRules clock entries payload input).Yields (fun _ => True) fun results =>
      ∃ context, e.contextOf clock payload input = .ok context ∧
        ∀ r ∈ results, returned context r := by
  have hcontext : (e.buildContext clock payload input : Action (EngineState ω) _).Yields
      (fun _ => True) fun context => e.contextOf clock payload input = .ok context :=
    fun s _ => (e.buildContext_ends clock payload input s).mono fun _ _ h =>
      ⟨trivial, fun _ hok => h.1.symm.trans hok⟩
  rw [evaluateRules_eq]
  refine .bind hcontext fun context hcontext => ?_
  refine .bind (settleAll_yields (fun rule => h rule context) entries) fun outcomes houtcomes => ?_
  refine .bind (.anything _) fun _ _ => .bind (.anything _) fun _ _ => .pure ?_
  exact ⟨context, hcontext, houtcomes⟩

/-- What a payload gives a rule to be worded with: values that have texts, where a template
asks for them and for the name of the entity. -/
structure IsWorded (rule : Rule) (data : Value) (vs : List Value) : Prop where
  title : Template.Fills data (Template.pieces rule.titleTemplate)
  message : Template.Fills data (Template.pieces rule.messageTemplate)
  entity : ∀ v, vs.find? Value.truthy = some v → v.hasText = true

theorem exists_wording_iff {rule : Rule} (hentity : e.entityIn data = firstTruthy vs) :
    (∃ wording, e.wording rule data = .ok wording) ↔ IsWorded rule data vs := by
  have hfills : ∀ template : String, (∃ text, Template.interpolate template data = .ok text) ↔
      Template.Fills data (Template.pieces template) :=
    fun _ => Template.exists_interpolate_iff (Template.reads_iff.mpr rfl)
  simp only [wording_eq_ok_iff, hentity]
  constructor
  · rintro ⟨wording, h₁, h₂, h₃⟩
    exact ⟨(hfills _).mp ⟨_, h₁⟩, (hfills _).mp ⟨_, h₂⟩, exists_firstTruthy_iff.mp ⟨_, h₃⟩⟩
  · rintro ⟨h₁, h₂, h₃⟩
    obtain ⟨title, h₁⟩ := (hfills _).mpr h₁
    obtain ⟨message, h₂⟩ := (hfills _).mpr h₂
    obtain ⟨entityId, h₃⟩ := exists_firstTruthy_iff.mpr h₃
    exact ⟨⟨title, message, entityId⟩, h₁, h₂, h₃⟩

/-- A rule whose conditions are met has a result if the payload has texts to word it with, and
of the results of a batch each that triggered is about the first field that counts as true,
or else the entity of the context: the entity that the first identifier names unless that
counts as false and what is taken in its place is called otherwise. Its fingerprint is made
of that entity. -/
theorem entity_named {names : List String} {payload : Payload} {fields : Object}
    (hnames : e.configuration.entityIdFields.parts? = some (names.map .text))
    (hpayload : payload.value = .object fields) :
    let vs := names.map fields.getOrNull
    (∀ rule context s log now, ((e.meets rule payload.value).runFrom s log).outcome = .ok true →
        clock.now = .ok now →
          let outcome := ((e.evaluateRule clock rule payload.value context).runFrom s log).outcome
          ((∃ r, outcome = .ok r) ↔ IsWorded rule payload.value vs) ∧
            ∀ r, outcome = .ok r → r.triggered = true ∧ IsNamed vs context r) ∧
      ∀ entries input s log results,
        ((e.evaluateRules clock entries payload input).runFrom s log).outcome = .ok results →
          ∃ context, e.contextOf clock payload input = .ok context ∧
            ∀ r ∈ results, r.triggered = true → IsNamed vs context r := by
  intro vs
  have hentity : e.entityIn payload.value = firstTruthy vs := by
    rw [hpayload]
    exact entityIn_object hnames fields
  constructor
  · intro rule context s log now hmet hnow outcome
    have houtcome : outcome =
        triggeredResult rule now context <$> e.wording rule payload.value := by
      show ((e.evaluateRule clock rule payload.value context).runFrom s log).outcome = _
      unfold evaluateRule
      rw [runFrom_bind_ok hmet, hnow]
      cases e.wording rule payload.value <;> rfl
    rw [← exists_wording_iff hentity, houtcome]
    refine ⟨⟨?_, ?_⟩, fun r hr => ?_⟩
    · rintro ⟨r, hr⟩
      obtain ⟨wording, hwording, -⟩ := map_eq_ok.mp hr
      exact ⟨wording, hwording⟩
    · rintro ⟨wording, hwording⟩
      exact ⟨_, map_eq_ok.mpr ⟨wording, hwording, rfl⟩⟩
    · obtain ⟨wording, hwording, rfl⟩ := map_eq_ok.mp hr
      obtain ⟨-, -, hfound⟩ := wording_eq_ok_iff.mp hwording
      exact ⟨rfl, isNamed_triggeredResult rule now context (hentity.symm.trans hfound)⟩
  · intro entries input s log results hresults
    have hrule : ∀ rule context, (e.evaluateRule clock rule payload.value context).Yields
        (fun _ => True) fun r => r.triggered = true → IsNamed vs context r := by
      intro rule context s hs
      refine (e.evaluateRule_yields clock rule payload.value context s hs).mono ?_
      rintro outcome s' ⟨hs', hresult⟩
      refine ⟨hs', fun r hr htriggered => ?_⟩
      obtain ⟨now, wording, hwording, rfl⟩ := (hresult r hr).2 htriggered
      obtain ⟨-, -, hfound⟩ := wording_eq_ok_iff.mp hwording
      exact isNamed_triggeredResult rule now context (hentity.symm.trans hfound)
    exact (evaluateRules_yields hrule entries input s trivial log).2 results hresults

/-- A rule that triggers on a payload with an id. -/
theorem entity_named_code :
    let rule := codeIn [.int 2]
    let e := lookingUp rule
    let payload := Payload.ofValue (.object [("code", .int 2), ("id", .text "7")])
    let batch := e.evaluateRules {} [.rule rule] payload (.document .null)
    (∀ context, ∃ r, ((e.evaluateRule {} rule payload.value context).runFrom untouched []).outcome =
        .ok r ∧ r.triggered = true ∧ IsNamed [.text "7"] context r) ∧
      ∃ r context, (batch.runFrom untouched []).outcome = .ok [r] ∧ r.triggered = true ∧
        IsNamed [.text "7"] context r := by
  intro rule e payload batch
  have hmet : ((e.meets rule payload.value).runFrom untouched []).outcome.toOption = some true := by
    decide +kernel
  have hbatch : (batch.runFrom untouched []).outcome.toOption.map (·.map (·.triggered)) =
      some [true] := by
    decide +kernel
  have hnow : ({} : Clock).now = .ok ⟨2026, 1, 1, 0, 0, 0, 0, some 0⟩ := by decide +kernel
  have hnames : e.configuration.entityIdFields.parts? = some (["id"].map .text) := rfl
  have hpayload : payload.value = .object [("code", .int 2), ("id", .text "7")] := rfl
  have hplain : ∀ template : String, Template.pieces template = template.toList.map .char →
      Template.Fills payload.value (Template.pieces template) := by
    intro template htemplate path hpath
    rw [htemplate] at hpath
    obtain ⟨c, -, hc⟩ := List.mem_map.mp hpath
    cases hc
  have hworded : IsWorded rule payload.value [.text "7"] :=
    ⟨hplain _ (by decide +kernel), hplain _ (by decide +kernel), by rintro _ ⟨⟩; rfl⟩
  obtain ⟨hrule, hresults⟩ := entity_named hnames hpayload
  constructor
  · intro context
    obtain ⟨hexists, hnamed⟩ :=
      hrule rule context untouched [] _ (toOption_eq_some.mp hmet) hnow
    obtain ⟨r, hr⟩ := hexists.mpr hworded
    exact ⟨r, hr, hnamed r hr⟩
  · obtain ⟨results, hsome, htriggered⟩ := Option.map_eq_some_iff.mp hbatch
    obtain ⟨r, rfl, hr⟩ := List.map_eq_singleton_iff.mp htriggered
    have hok := toOption_eq_some.mp hsome
    obtain ⟨context, -, hnamed⟩ := hresults [.rule rule] (.document .null) untouched [] [r] hok
    exact ⟨r, context, hok, hr, hnamed r (List.mem_singleton_self r) hr⟩

/-- A zero in the field for ids is no id to the engine, and one to a result. -/
theorem entity_zero_overlooked :
    let rule := codeIn [.int 2]
    let payload := Payload.ofValue (.object [("code", .int 2), ("id", .int 0)])
    let batch := (lookingUp rule).evaluateRules {} [.rule rule] payload (.document .null)
    (batch.runFrom untouched []).outcome.toOption.map
        (·.map fun r => (r.triggered, r.entityId.toOption, r.fingerprint.toOption)) =
      some [(true, some none, some rule.id)] ∧
      ∀ context, entityFrom Value.isIdentifier [.int 0] context = .ok (some "0") := by
  refine ⟨by decide +kernel, fun context => ?_⟩
  rfl

end Engine

end AlertRules
