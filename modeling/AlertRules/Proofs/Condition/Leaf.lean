import AlertRules.Condition.Basic
import AlertRules.Proofs.Schema.Checked

/-!
Leaves and their documents.

A document spells a leaf if it has the fields of a leaf and no others, each
with something that may stand there (`Leaf.Spelled`). This is what the checks
of a leaf let pass, and what they read it as (`Leaf.ofFields_eq_ok`). The only
thing about an operand that has to be looked at is whether it names a field,
since it is then a computed one; whatever else it is, it stands for itself.
-/

namespace AlertRules

/-! ### What documents spell -/

def Value.namesField : Value → Bool
  | .object fields => Object.contains fields "field"
  | _ => false

/-- Whether a text names a field: it is not empty, and it can be looked at. -/
def Schema.IsName (s : String) : Prop := Text.hasHalf s = false ∧ s.isEmpty = false

/-- The fields of a computed operand. -/
structure DynamicValue.Spelled (o : Object) (d : DynamicValue) : Prop where
  known : o.keys ⊆ fieldNames
  field : o.get? "field" = some (.text d.field)
  isName : Schema.IsName d.field
  multiplier : Schema.Spells Schema.double (o.getOrNull "multiplier") d.multiplier
  offset : Schema.Spells Schema.double (o.getOrNull "offset") d.offset

/-- An operand: computed if it is an object that names a field, and a value
otherwise. -/
inductive Operand.Spelled : Value → Operand → Prop
  | literal {v : Value} : v.namesField = false → Spelled v (.literal v)
  | dynamic {o : Object} {d : DynamicValue} : d.Spelled o → Spelled (.object o) (.dynamic d)

/-- The fields of a leaf. -/
structure Leaf.Spelled (o : Object) (l : Leaf) : Prop where
  known : o.keys ⊆ fieldNames
  field : o.get? "field" = some (.text l.field)
  isName : Schema.IsName l.field
  operator : o.get? "operator" = some (.text l.operator.symbol)
  operand : l.operand.Spelled (o.getOrNull "value")

/-! ### What checks read -/

theorem Schema.nonEmptyText_eq_ok {v : Value} {s : String} :
    nonEmptyText v = .ok s ↔ v = .text s ∧ IsName s := by
  cases v with
  | text t =>
      simp only [nonEmptyText, legible, IsName, Value.text.injEq]
      split
      next hhalf =>
          refine ⟨fun h => absurd h Checked.flaw_ne_ok, ?_⟩
          rintro ⟨rfl, hlegible, -⟩
          rw [hhalf] at hlegible
          cases hlegible
      next hlegible =>
          rw [Bool.not_eq_true] at hlegible
          split
          next hempty =>
              refine ⟨fun h => absurd h Checked.flaw_ne_ok, ?_⟩
              rintro ⟨rfl, -, hfilled⟩
              rw [hempty] at hfilled
              cases hfilled
          next hfilled =>
              rw [Bool.not_eq_true] at hfilled
              constructor
              · intro h
                cases h
                exact ⟨rfl, hlegible, hfilled⟩
              · rintro ⟨rfl, -, -⟩
                rfl
  | _ => simp [nonEmptyText]

theorem Operator.oneOf_symbol (op : Operator) :
    Schema.oneOf Operator.ofSymbol? (.text op.symbol) = .ok op := by
  have hlegible : ¬Text.hasHalf op.symbol = true := by cases op <;> decide
  have hread : Operator.ofSymbol? op.symbol = some op := by cases op <;> decide
  simp only [Schema.oneOf, Schema.legible, if_neg hlegible, hread]

theorem DynamicValue.ofFields_eq_ok {o : Object} {d : DynamicValue} :
    ofFields o = .ok d ↔ d.Spelled o := by
  constructor
  · intro h
    have h := Schema.eq_ok_of_legibleNames h
    simp only [Schema.Checked.seq_eq_ok, Schema.Checked.map_eq_ok, Schema.required_eq_ok,
      Schema.nonEmptyText_eq_ok, Schema.optional_nullable_eq_ok Schema.double_null_ne_ok,
      Schema.closed_eq_ok] at h
    obtain ⟨_, _, ⟨_, offset, ⟨_, multiplier, ⟨field, ⟨_, hfield, rfl, hname⟩, rfl⟩, hmultiplier,
      rfl⟩, hoffset, rfl⟩, hknown, rfl⟩ := h
    exact ⟨hknown, hfield, hname, hmultiplier, hoffset⟩
  · intro h
    have hfield : Schema.required Schema.nonEmptyText "field" o = .ok d.field :=
      Schema.required_eq_ok.mpr ⟨_, h.field, Schema.nonEmptyText_eq_ok.mpr ⟨rfl, h.isName⟩⟩
    have hclosed : Schema.closed fieldNames o = .ok () := Schema.closed_eq_ok.mpr h.known
    unfold ofFields
    rw [Schema.legibleNames_of fieldNames (by decide) h.known, hfield,
      (Schema.optional_nullable_eq_ok Schema.double_null_ne_ok).mpr h.multiplier,
      (Schema.optional_nullable_eq_ok Schema.double_null_ne_ok).mpr h.offset, hclosed]
    rfl

theorem Operand.check_eq_ok {v : Value} {operand : Operand} :
    check v = .ok operand ↔ operand.Spelled v := by
  constructor
  · intro h
    unfold check at h
    split at h
    next fields =>
        split at h
        · obtain ⟨d, hd, rfl⟩ := Schema.Checked.map_eq_ok.mp h
          exact .dynamic (DynamicValue.ofFields_eq_ok.mp hd)
        next hplain =>
            cases h
            exact .literal (Bool.eq_false_iff.mpr hplain)
    next hother =>
        cases h
        refine .literal ?_
        cases v with
        | object fields => exact absurd rfl (hother fields)
        | _ => rfl
  · rintro (hplain | hspelled)
    · cases v with
      | object fields => exact if_neg (Bool.eq_false_iff.mp hplain)
      | _ => rfl
    next o d =>
      have hcomputed : Object.contains o "field" = true := by
        rw [Object.contains, hspelled.field]
        rfl
      rw [check, if_pos hcomputed, DynamicValue.ofFields_eq_ok.mpr hspelled]
      rfl

theorem Operator.oneOf_eq_ok {v : Value} {op : Operator} :
    Schema.oneOf ofSymbol? v = .ok op ↔ v = .text op.symbol := by
  refine ⟨fun h => ?_, fun h => h ▸ op.oneOf_symbol⟩
  unfold Schema.oneOf Schema.legible at h
  split at h
  next s =>
      dsimp only at h
      split at h
      · cases h
      · split at h
        next read hread =>
            cases h
            have hsame := List.find?_some hread
            rw [eq_of_beq hsame]
        next => cases h
  next => cases h

theorem Leaf.ofFields_eq_ok {o : Object} {l : Leaf} : ofFields o = .ok l ↔ l.Spelled o := by
  have hoperand : ∀ operand : Operand,
      Schema.optional Operand.check "value" (.literal .null) o = .ok operand ↔
        operand.Spelled (o.getOrNull "value") := by
    intro operand
    rw [Schema.optional_eq_ok, ← Operand.check_eq_ok, Object.getOrNull]
    cases o.get? "value" with
    | none => simp [Operand.check]
    | some v => simp
  constructor
  · intro h
    have h := Schema.eq_ok_of_legibleNames h
    simp only [Schema.Checked.seq_eq_ok, Schema.Checked.map_eq_ok, Schema.required_eq_ok,
      Schema.nonEmptyText_eq_ok, Operator.oneOf_eq_ok, hoperand, Schema.closed_eq_ok] at h
    obtain ⟨_, _, ⟨_, operand, ⟨_, operator, ⟨field, ⟨_, hfield, rfl, hname⟩, rfl⟩,
      ⟨_, hoperator, rfl⟩, rfl⟩, hspelled, rfl⟩, hknown, rfl⟩ := h
    exact ⟨hknown, hfield, hname, hoperator, hspelled⟩
  · intro h
    have hfield : Schema.required Schema.nonEmptyText "field" o = .ok l.field :=
      Schema.required_eq_ok.mpr ⟨_, h.field, Schema.nonEmptyText_eq_ok.mpr ⟨rfl, h.isName⟩⟩
    have hoperator : Schema.required (Schema.oneOf Operator.ofSymbol?) "operator" o =
        .ok l.operator :=
      Schema.required_eq_ok.mpr ⟨_, h.operator, l.operator.oneOf_symbol⟩
    have hclosed : Schema.closed fieldNames o = .ok () := Schema.closed_eq_ok.mpr h.known
    unfold ofFields
    rw [Schema.legibleNames_of fieldNames (by decide) h.known, hfield, hoperator,
      (hoperand l.operand).mpr h.operand, hclosed]
    rfl

end AlertRules
