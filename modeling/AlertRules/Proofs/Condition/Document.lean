import AlertRules.Engine.Verdict
import AlertRules.Proofs.Action
import AlertRules.Proofs.Condition.Leaf

/-!
Conditions and their documents.

The document of a condition is read as this very condition
(`Condition.parse_toValue`), although a document may say one thing in many
ways and the document that is written says it in one. What makes this so
is that the checks leave nothing to be checked again: a condition that
was read has names where names are wanted, children wherever it is a
node, and no operand left that would be read as a computed one
(`Condition.IsValid`). So it does not matter in which form a condition is
given, neither to its evaluation nor to a rule that is made of it
(`lossless`).
-/

namespace AlertRules

open AlertRules.Action

/-! ### Conditions that documents can say -/

def Operand.IsValid : Operand → Prop
  | .literal v => v.namesField = false
  | .dynamic d => Schema.IsName d.field

structure Leaf.IsValid (l : Leaf) : Prop where
  field : Schema.IsName l.field
  operand : l.operand.IsValid

namespace Condition

mutual

def IsValid : Condition → Prop
  | .leaf l => l.IsValid
  | .allOf children => children ≠ [] ∧ AreValid children
  | .anyOf children => children ≠ [] ∧ AreValid children

def AreValid : List Condition → Prop
  | [] => True
  | c :: rest => IsValid c ∧ AreValid rest

end

end Condition

/-! ### Leaves -/

theorem Operand.isValid_of_spelled {v : Value} {operand : Operand} (h : operand.Spelled v) :
    operand.IsValid := by
  cases h with
  | literal hplain => exact hplain
  | dynamic hspelled => exact hspelled.isName

theorem Leaf.isValid_of_ofFields {o : Object} {l : Leaf} (h : Leaf.ofFields o = .ok l) :
    l.IsValid := by
  have hspelled := Leaf.ofFields_eq_ok.mp h
  exact ⟨hspelled.isName, Operand.isValid_of_spelled hspelled.operand⟩

theorem DynamicValue.spelled_toValue {d : DynamicValue} (h : Schema.IsName d.field) :
    ∃ fields, d.toValue = .object fields ∧ d.Spelled fields := by
  obtain ⟨field, multiplier, offset⟩ := d
  refine ⟨_, rfl, ?known, rfl, h, ?multiplier, ?offset⟩
  case known =>
    cases multiplier <;> cases offset <;> simp [Object.keys, DynamicValue.fieldNames]
  case multiplier => cases multiplier <;> cases offset <;> rfl
  case offset => cases multiplier <;> cases offset <;> rfl

theorem Operand.spelled_toValue {operand : Operand} (h : operand.IsValid) :
    operand.Spelled operand.toValue := by
  cases operand with
  | literal v => exact .literal h
  | dynamic d =>
      obtain ⟨fields, hfields, hspelled⟩ := DynamicValue.spelled_toValue h
      rw [Operand.toValue, hfields]
      exact .dynamic hspelled

theorem Leaf.ofFields_toValue {l : Leaf} (h : l.IsValid) :
    ∃ fields, l.toValue = .object fields ∧ Connective.among fields = [] ∧
      Leaf.ofFields fields = .ok l := by
  refine ⟨_, rfl, rfl, Leaf.ofFields_eq_ok.mpr ⟨List.Subset.refl _, rfl, h.field, rfl, ?_⟩⟩
  exact Operand.spelled_toValue h.operand

theorem Connective.among_singleton (c : Connective) (v : Value) : among [(c.key, v)] = [c] := by
  cases c <;> rfl

namespace Condition

/-! ### Reading -/

theorem parseList_eq_ok {v : Value} {rest : List Value} {children : List Condition} :
    parseList (v :: rest) = .ok children ↔
      ∃ c cs, parse v = .ok c ∧ parseList rest = .ok cs ∧ children = c :: cs := by
  rw [parseList]
  cases parse v with
  | error error => exact ⟨nofun, nofun⟩
  | ok c =>
      cases parseList rest with
      | error error => exact ⟨nofun, nofun⟩
      | ok cs =>
          refine ⟨fun h => ⟨c, cs, rfl, rfl, ?_⟩, ?_⟩
          · cases h
            rfl
          · rintro ⟨_, _, ⟨⟩, ⟨⟩, rfl⟩
            rfl

theorem under_of_getOrNull {key : String} {fields : Object} {items : List Value}
    (h : Object.getOrNull fields key = .list items) :
    parseUnder key fields = parseList items ∧
      Value.outlinesUnder key fields = Value.outlines items := by
  induction fields with
  | nil => cases h
  | cons field rest ih =>
      obtain ⟨name, v⟩ := field
      rw [Object.getOrNull, Object.get?, List.lookup_cons, BEq.comm] at h
      cases hname : name == key with
      | true =>
          rw [hname] at h
          cases h
          unfold parseUnder Value.outlinesUnder
          rw [if_pos hname, if_pos hname]
          exact ⟨rfl, rfl⟩
      | false =>
          rw [hname] at h
          unfold parseUnder Value.outlinesUnder
          rw [hname]
          exact ih h

theorem exists_of_isFilledList {v : Value} (h : isFilledList v = true) :
    ∃ first rest, v = .list (first :: rest) := by
  cases v with
  | list items =>
      cases items with
      | nil => cases h
      | cons first rest => exact ⟨first, rest, rfl⟩
  | _ => cases h

theorem exists_of_parse_node {fields : Object} {connective : Connective} {c : Condition}
    (hamong : Connective.among fields = [connective]) (h : parse (.object fields) = .ok c) :
    ∃ first rest children, Object.getOrNull fields connective.key = .list (first :: rest) ∧
      parseUnder connective.key fields = .ok children ∧ c = connective.node children := by
  rw [parse, hamong] at h
  dsimp only at h
  split at h
  · cases h
  next hfilled =>
      rw [Bool.not_eq_true, Bool.not_eq_false'] at hfilled
      obtain ⟨first, rest, hitems⟩ := exists_of_isFilledList hfilled
      split at h
      · cases h
      · cases hchildren : parseUnder connective.key fields with
        | error error =>
            rw [hchildren] at h
            cases h
        | ok children =>
            rw [hchildren] at h
            cases h
            exact ⟨first, rest, children, hitems, rfl, rfl⟩

theorem isValid_node (connective : Connective) {children : List Condition} (hne : children ≠ [])
    (h : AreValid children) : (connective.node children).IsValid := by
  cases connective with
  | and => exact ⟨hne, h⟩
  | or => exact ⟨hne, h⟩

theorem outline_node (connective : Connective) (children : List Condition) :
    (connective.node children).outline = .node connective (outlines children) := by
  cases connective <;> rfl

mutual

/-- What is read is valid, and it has the outline of its document: induction on
the document. -/
theorem of_parse :
    ∀ (v : Value) {c : Condition}, parse v = .ok c → c.IsValid ∧ v.outline = c.outline
  | .object fields, c, h => by
      cases hamong : Connective.among fields with
      | nil =>
          rw [parse, hamong] at h
          dsimp only [parseLeaf] at h
          split at h
          next l hleaf =>
              cases h
              refine ⟨Leaf.isValid_of_ofFields hleaf, ?_⟩
              rw [Value.outline, hamong]
              rfl
          next => cases h
          next => cases h
      | cons connective more =>
          cases more with
          | cons another more =>
              rw [parse, hamong] at h
              cases h
          | nil =>
              obtain ⟨first, rest, children, hitems, hchildren, rfl⟩ :=
                exists_of_parse_node hamong h
              obtain ⟨hvalid, houtlines⟩ := of_parseUnder connective.key fields hchildren
              have hne : children ≠ [] := by
                rw [(under_of_getOrNull hitems).1, parseList_eq_ok] at hchildren
                obtain ⟨c, cs, -, -, rfl⟩ := hchildren
                exact List.cons_ne_nil c cs
              refine ⟨isValid_node connective hne hvalid, ?_⟩
              rw [Value.outline, hamong, outline_node, ← houtlines]
  | .null, _, h | .bool _, _, h | .int _, _, h | .float _, _, h | .decimal _, _, h
  | .text _, _, h | .list _, _, h | .tuple _, _, h | .missing, _, h => by cases h

theorem of_parseUnder (key : String) :
    ∀ (fields : List (String × Value)) {children : List Condition},
      parseUnder key fields = .ok children →
        AreValid children ∧ Value.outlinesUnder key fields = outlines children
  | [], _, h => by
      cases h
      exact ⟨trivial, rfl⟩
  | (name, v) :: rest, children, h => by
      unfold parseUnder at h
      unfold Value.outlinesUnder
      cases hname : name == key with
      | false =>
          rw [hname] at h
          exact of_parseUnder key rest h
      | true =>
          rw [hname] at h
          cases v with
          | list items => exact of_parseList items h
          | _ =>
              cases h
              exact ⟨trivial, rfl⟩

theorem of_parseList :
    ∀ (vs : List Value) {children : List Condition}, parseList vs = .ok children →
      AreValid children ∧ Value.outlines vs = outlines children
  | [], _, h => by
      cases h
      exact ⟨trivial, rfl⟩
  | v :: rest, children, h => by
      obtain ⟨c, cs, hc, hcs, rfl⟩ := parseList_eq_ok.mp h
      obtain ⟨hvalid, houtline⟩ := of_parse v hc
      obtain ⟨hvalids, houtlines⟩ := of_parseList rest hcs
      refine ⟨⟨hvalid, hvalids⟩, ?_⟩
      rw [Value.outlines, houtline, houtlines, outlines]

end

/-! ### Writing and reading again -/

theorem toValues_ne_nil {children : List Condition} (h : children ≠ []) :
    toValues children ≠ [] := by
  cases children with
  | nil => exact absurd rfl h
  | cons c rest => exact List.cons_ne_nil _ _

/-- An object with one connective and a list under it is read by the list. -/
theorem parse_singleton (connective : Connective) {items : List Value} (hne : items ≠ []) :
    parse (.object [(connective.key, .list items)]) = connective.node <$> parseList items := by
  obtain ⟨first, rest, rfl⟩ := List.exists_cons_of_ne_nil hne
  have hitems : Object.getOrNull [(connective.key, Value.list (first :: rest))] connective.key =
      .list (first :: rest) := by
    rw [Object.getOrNull, Object.get?_cons, if_pos rfl]
    rfl
  rw [parse, Connective.among_singleton]
  dsimp only
  rw [hitems, (under_of_getOrNull hitems).1]
  rfl

theorem parse_node (connective : Connective) {items : List Value} {children : List Condition}
    (hne : items ≠ []) (h : parseList items = .ok children) :
    parse (.object [(connective.key, .list items)]) = .ok (connective.node children) := by
  rw [parse_singleton connective hne, h]
  rfl

mutual

theorem parse_toValue : ∀ c : Condition, c.IsValid → parse c.toValue = .ok c
  | .leaf l, h => by
      obtain ⟨fields, hfields, hamong, hread⟩ := Leaf.ofFields_toValue h
      rw [toValue, hfields, parse, hamong]
      dsimp only [parseLeaf]
      rw [hread]
  | .allOf children, h =>
      parse_node .and (toValues_ne_nil h.1) (parseList_toValues children h.2)
  | .anyOf children, h =>
      parse_node .or (toValues_ne_nil h.1) (parseList_toValues children h.2)

theorem parseList_toValues :
    ∀ cs : List Condition, AreValid cs → parseList (toValues cs) = .ok cs
  | [], _ => rfl
  | c :: rest, h =>
      parseList_eq_ok.mpr ⟨c, rest, parse_toValue c h.1, parseList_toValues rest h.2, rfl⟩

end

theorem exists_of_parse {v : Value} {c : Condition} (h : parse v = .ok c) :
    ∃ fields, v = .object fields := by
  cases v with
  | object fields => exact ⟨fields, rfl⟩
  | _ => cases h

theorem exists_document (c : Condition) : ∃ document, c.toValue = .object document := by
  cases c <;> exact ⟨_, rfl⟩

end Condition

/-! ### What a condition is given as -/

namespace ConditionInput

/-- A document, whatever it says, or a condition that its checks let pass. -/
def IsChecked : ConditionInput → Prop
  | .document _ => True
  | .condition c => c.IsValid

variable {input : ConditionInput} {c : Condition}

theorem isValid_of_parse (hinput : input.IsChecked) (h : input.parse = .ok c) : c.IsValid := by
  cases input with
  | document v => exact (Condition.of_parse v h).1
  | condition c' =>
      cases h
      exact hinput

theorem parse_toValue (hinput : input.IsChecked) (h : input.parse = .ok c) :
    Condition.parse input.toValue = .ok c := by
  cases input with
  | document v => exact h
  | condition c' =>
      cases h
      exact Condition.parse_toValue c hinput

theorem evaluate_eq (h : input.parse = .ok c) (comparator : Comparator) (data : Value) :
    input.evaluate comparator data = c.evaluate comparator data := by
  rw [evaluate, h]
  exact pure_bind c _

end ConditionInput

/-! ### Rules -/

def Rule.withConditions (r : Rule) (document : Object) : Rule := { r with conditions := document }

/-- The result with the document of the conditions that were met replaced. -/
def EvaluationResult.withConditions (r : EvaluationResult) (document : Object) :
    EvaluationResult :=
  { r with matchedCondition := r.matchedCondition.map fun _ => document }

/-- A rule keeps the document it is given, and nothing else depends on it. -/
theorem Rule.ofFields_insert (o fields document : Object) :
    Rule.ofFields (o.insert "conditions" (.object document)) =
      (·.withConditions document) <$> Rule.ofFields (o.insert "conditions" (.object fields)) := by
  unfold Rule.ofFields Rule.checkEnabled Schema.required Schema.optional Object.contains
  simp only [Object.get?_insert, String.reduceEq, if_true, if_false]
  simp only [Schema.fromJson, Schema.object, Schema.Checked.under, Schema.Checked.map_seq,
    Schema.Checked.seq_ok, Schema.Checked.map_map]
  rfl

theorem Rule.conditions_of_ofFields {o fields : Object} {rule : Rule}
    (h : Rule.ofFields (o.insert "conditions" (.object fields)) = .ok rule) :
    rule.conditions = fields := by
  have hkept := Rule.ofFields_insert o fields fields
  rw [h] at hkept
  exact congrArg Rule.conditions (Schema.Checked.ok.inj hkept)

namespace Engine

variable {ω : Type} {c : Condition}

/-- Two documents of one condition make no difference to a rule, but that its
result shows the one it was given. -/
theorem evaluateRule_withConditions (e : Engine ω) (clock : Clock) {rule : Rule}
    {document : Object} (h : Condition.parse (.object rule.conditions) = .ok c)
    (h' : Condition.parse (.object document) = .ok c) (data : Value)
    (context : EvaluationContext) :
    e.evaluateRule clock (rule.withConditions document) data context =
      (·.withConditions document) <$> e.evaluateRule clock rule data context := by
  have hmeets : e.meets (rule.withConditions document) data = e.meets rule data := by
    have houtline : (Value.object document).outline = (Value.object rule.conditions).outline := by
      rw [(Condition.of_parse _ h).2, (Condition.of_parse _ h').2]
    simp only [meets, Rule.withConditions, houtline, h, h']
  unfold evaluateRule
  rw [hmeets, map_bind]
  refine congrArg _ (funext fun met => ?_)
  rw [map_bind]
  refine congrArg _ (funext fun now => ?_)
  cases met with
  | true =>
      simp only [if_true, map_bind, map_pure]
      rfl
  | false => rfl

end Engine

/-- Nothing of a condition is lost in its document, and no form in which it is
given is better than another. -/
theorem lossless {input : ConditionInput} {c : Condition} (hinput : input.IsChecked)
    (h : input.parse = .ok c) :
    Condition.parse c.toValue = .ok c ∧
      (ConditionInput.condition c).parse = .ok c ∧
      (Condition.parse c.toValue).map Condition.toValue = .ok c.toValue ∧
      (∀ comparator data, input.evaluate comparator data = c.evaluate comparator data ∧
        (ConditionInput.condition c).evaluate comparator data = c.evaluate comparator data ∧
        (ConditionInput.document c.toValue).evaluate comparator data =
          c.evaluate comparator data) ∧
      ∃ document, c.toValue = .object document ∧ ∀ o : Object,
        Rule.ofFieldsWith (.condition c) o =
            (·.withConditions document) <$> Rule.ofFieldsWith input o ∧
          ∀ rule, Rule.ofFieldsWith input o = .ok rule →
            ∀ (ω : Type) (e : Engine ω) clock data context,
              e.evaluateRule clock (rule.withConditions document) data context =
                (·.withConditions document) <$> e.evaluateRule clock rule data context := by
  have hread := Condition.parse_toValue c (ConditionInput.isValid_of_parse hinput h)
  have hreadAgain : (ConditionInput.document c.toValue).parse = .ok c := hread
  refine ⟨hread, rfl, by rw [hread]; rfl, fun comparator data => ⟨?_, ?_, ?_⟩, ?_⟩
  · exact ConditionInput.evaluate_eq h comparator data
  · exact ConditionInput.evaluate_eq rfl comparator data
  · exact ConditionInput.evaluate_eq hreadAgain comparator data
  · obtain ⟨document, hdocument⟩ := Condition.exists_document c
    have hgiven := ConditionInput.parse_toValue hinput h
    obtain ⟨fields, hfields⟩ := Condition.exists_of_parse hgiven
    rw [hfields] at hgiven
    rw [hdocument] at hread
    refine ⟨document, hdocument, fun o => ⟨?_, fun rule hrule ω e clock data context => ?_⟩⟩
    · rw [Rule.ofFieldsWith, Rule.ofFieldsWith, ConditionInput.toValue, hdocument, hfields]
      exact Rule.ofFields_insert o fields document
    · rw [Rule.ofFieldsWith, hfields] at hrule
      rw [← Rule.conditions_of_ofFields hrule] at hgiven
      exact e.evaluateRule_withConditions clock hgiven hread data context

/-- A multiplier that is null and an operand that is left out, under one
connective: what is written says less in one place and more in the other. -/
theorem lossless_normalized :
    let document : Object := [("AND", .list
      [.object [("field", .text "load"), ("operator", .text ">"),
          ("value", .object [("field", .text "limit"), ("multiplier", .null)])],
        .object [("field", .text "owner"), ("operator", .text "=")]])]
    let c : Condition := .allOf
      [.leaf ⟨"load", .gt, .dynamic ⟨"limit", none, none⟩⟩,
        .leaf ⟨"owner", .eq, .literal .null⟩]
    (ConditionInput.document (.object document)).IsChecked ∧
      (ConditionInput.document (.object document)).parse = .ok c ∧
      (Condition.parse c.toValue).map Condition.toValue = .ok c.toValue := by
  intro document c
  have hchecked : (ConditionInput.document (.object document)).IsChecked := trivial
  exact ⟨hchecked, rfl, (lossless hchecked rfl).2.2.1⟩

end AlertRules
