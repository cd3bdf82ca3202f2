import Mathlib.Data.List.Forall2
import AlertRules.Proofs.Condition.Document
import AlertRules.Proofs.Schema.Explained

/-!
The grammar of conditions.

`Condition.Spelled` says which documents are conditions, and of which
condition each of them is the document. It says so of the parts that a
document has and not of how it is checked. A document is a node if it has
one field, named for a connective, and in it a list that is not empty of
documents of the children, one for each and in their order. It is a leaf
if it has no field for a connective and has those of a leaf
(`Leaf.Spelled`). The parser reads what is spelled, as what is spelled, and
nothing else.

What is not spelled has a fault, and the parser names the first there is
(`Condition.Faulty`): that of the document itself, or that of its first
child with one.
-/

namespace AlertRules

/-! ### What documents spell, and what they lack -/

/-- The grammar of conditions. -/
inductive Condition.Spelled : Value → Condition → Prop
  | leaf {o : Object} {l : Leaf} : (∀ c : Connective, o.contains c.key = false) → l.Spelled o →
      Spelled (.object o) (.leaf l)
  | node (connective : Connective) {items : List Value} {children : List Condition} :
      items ≠ [] → List.Forall₂ Spelled items children →
        Spelled (.object [(connective.key, .list items)]) (connective.node children)

/-- What is wrong with a document, told of the first place that is. -/
inductive Condition.Faulty : Value → ConditionError → Prop
  | notAnObject {v : Value} : v.isObject = false → Faulty v (.notAnObject v.kindName)
  | mixed {o : Object} : (∀ c : Connective, o.contains c.key = true) →
      Faulty (.object o) .mixedConnectives
  | empty {o : Object} {connective : Connective} : Connective.among o = [connective] →
      isFilledList (o.getOrNull connective.key) = false → Faulty (.object o) (.empty connective)
  | extraKeys {o : Object} {connective : Connective} : Connective.among o = [connective] →
      isFilledList (o.getOrNull connective.key) = true → 1 < o.length →
        Faulty (.object o) (.extraKeys connective (keysBeside connective o))
  | leaf {o : Object} {issue : Schema.Issue} {more : List Schema.Issue} :
      (∀ c : Connective, o.contains c.key = false) → Leaf.ofFields o = .bad (issue :: more) →
        Faulty (.object o) (.leaf issue.path issue.flaw)
  | child (connective : Connective) {earlier later : List Value} {v : Value}
      {children : List Condition} {error : ConditionError} :
      List.Forall₂ Spelled earlier children → Faulty v error →
        Faulty (.object [(connective.key, .list (earlier ++ v :: later))]) error

/-! ### Leaves that are refused -/

theorem DynamicValue.ofFields_explained (o : Object) : (ofFields o).Explained :=
  Schema.legibleNames_explained <|
    (((((Schema.required_explained Schema.nonEmptyText_explained _ o).map _).seq
      (Schema.optional_explained (Schema.nullable_explained Schema.double_explained) _ _ o)).seq
      (Schema.optional_explained (Schema.nullable_explained Schema.double_explained) _ _ o)).seq
      (Schema.closed_explained _ o))

theorem Operand.check_explained (v : Value) : (check v).Explained := by
  unfold check
  split
  · split
    · exact (DynamicValue.ofFields_explained _).map _
    · exact Schema.Checked.explained_ok _
  · exact Schema.Checked.explained_ok _

theorem Leaf.ofFields_explained (o : Object) : (ofFields o).Explained :=
  Schema.legibleNames_explained <|
    (((((Schema.required_explained Schema.nonEmptyText_explained _ o).map _).seq
      (Schema.required_explained (Schema.oneOf_explained _) _ o)).seq
      (Schema.optional_explained Operand.check_explained _ _ o)).seq
      (Schema.closed_explained _ o))

/-! ### Documents that are read -/

namespace Connective

theorem among_eq_nil {o : Object} :
    among o = [] ↔ ∀ c : Connective, o.contains c.key = false := by
  simp only [among, List.filter_eq_nil_iff, Bool.not_eq_true]
  refine ⟨fun h c => h c ?_, fun h c _ => h c⟩
  cases c <;> simp [all]

/-- There are two connectives only. -/
theorem contains_of_among {o : Object} {first second : Connective} {more : List Connective}
    (h : among o = first :: second :: more) (c : Connective) : o.contains c.key = true := by
  have hboth : (among o).length = all.length :=
    Nat.le_antisymm (List.length_filter_le _ _) (by rw [h]; simp [all])
  have hall := List.length_filter_eq_length_iff.mp hboth
  refine hall c ?_
  cases c <;> simp [all]

end Connective

namespace Condition

theorem parseLeaf_eq_ok {o : Object} {c : Condition} :
    parseLeaf o = .ok c ↔ ∃ l, l.Spelled o ∧ c = .leaf l := by
  unfold parseLeaf
  cases hread : Leaf.ofFields o with
  | ok l =>
      constructor
      · intro h
        cases h
        exact ⟨l, Leaf.ofFields_eq_ok.mp hread, rfl⟩
      · rintro ⟨l', hspelled, rfl⟩
        rw [← Leaf.ofFields_eq_ok, hread] at hspelled
        cases hspelled
        rfl
  | bad issues =>
      constructor
      · intro h
        cases issues <;> cases h
      · rintro ⟨l, hspelled, rfl⟩
        rw [← Leaf.ofFields_eq_ok, hread] at hspelled
        cases hspelled

/-- A document is read as what it spells, and refused for a fault it has. -/
structure ReadsSpelled (v : Value) : Prop where
  spelled : ∀ c, parse v = .ok c ↔ Spelled v c
  faulty : ∀ error, parse v = .error error → Faulty v error

/-- A document that spells nothing, and is refused for its fault. -/
theorem ReadsSpelled.of_faulty {v : Value} {error : ConditionError} (h : Faulty v error)
    (hparse : parse v = .error error) (hnot : ∀ c, ¬Spelled v c) : ReadsSpelled v where
  spelled c := by
    rw [hparse]
    exact ⟨nofun, fun hspelled => absurd hspelled (hnot c)⟩
  faulty error' h' := by
    rw [hparse] at h'
    cases h'
    exact h

/-- Documents are read as what they spell, and refused for the fault of the first
that has one. -/
structure ReadsSpelledEach (items : List Value) : Prop where
  spelled : ∀ children, parseList items = .ok children ↔ List.Forall₂ Spelled items children
  faulty : ∀ error, parseList items = .error error → ∃ earlier v later children,
    items = earlier ++ v :: later ∧ List.Forall₂ Spelled earlier children ∧ Faulty v error

theorem ReadsSpelledEach.nil : ReadsSpelledEach [] where
  spelled children := by
    rw [parseList, List.forall₂_nil_left_iff]
    exact ⟨fun h => by cases h; rfl, fun h => h ▸ rfl⟩
  faulty _ h := by cases h

theorem ReadsSpelledEach.cons {v : Value} {rest : List Value} (h : ReadsSpelled v)
    (hrest : ReadsSpelledEach rest) : ReadsSpelledEach (v :: rest) where
  spelled children := by
    rw [parseList_eq_ok, List.forall₂_cons_left_iff]
    simp only [h.spelled, hrest.spelled]
  faulty error herror := by
    rw [parseList] at herror
    cases hfirst : parse v with
    | error first =>
        rw [hfirst] at herror
        cases herror
        exact ⟨[], v, rest, [], rfl, .nil, h.faulty error hfirst⟩
    | ok c =>
        cases hlater : parseList rest with
        | ok cs =>
            rw [hfirst, hlater] at herror
            cases herror
        | error later =>
            rw [hfirst, hlater] at herror
            cases herror
            obtain ⟨earlier, w, more, children, rfl, hearlier, hw⟩ := hrest.faulty error hlater
            exact ⟨v :: earlier, w, more, c :: children, rfl,
              .cons ((h.spelled c).mp hfirst) hearlier, hw⟩

theorem eq_singleton_of_getOrNull {o : Object} {key : String} {items : List Value}
    (h : o.getOrNull key = .list items) (hlength : ¬1 < o.length) :
    o = [(key, .list items)] := by
  cases o with
  | nil => cases h
  | cons field rest =>
      obtain ⟨name, v⟩ := field
      cases rest with
      | cons _ _ => simp at hlength
      | nil =>
          rw [Object.getOrNull, Object.get?_cons] at h
          split at h
          next hname =>
              cases h
              rw [hname]
          next => cases h

theorem spelled_object {o : Object} {c : Condition} :
    Spelled (.object o) c ↔
      (∃ l, Connective.among o = [] ∧ l.Spelled o ∧ c = .leaf l) ∨
      ∃ connective items children, o = [(Connective.key connective, .list items)] ∧ items ≠ [] ∧
        List.Forall₂ Spelled items children ∧ c = connective.node children := by
  constructor
  · intro h
    cases h with
    | leaf hnone hspelled => exact .inl ⟨_, Connective.among_eq_nil.mpr hnone, hspelled, rfl⟩
    | node connective hne hitems => exact .inr ⟨connective, _, _, rfl, hne, hitems, rfl⟩
  · rintro (⟨l, hnone, hspelled, rfl⟩ | ⟨connective, items, children, rfl, hne, hitems, rfl⟩)
    · exact .leaf (Connective.among_eq_nil.mp hnone) hspelled
    · exact .node connective hne hitems

theorem readsSpelled_leaf {o : Object} (hamong : Connective.among o = []) :
    ReadsSpelled (.object o) where
  spelled c := by
    rw [parse, hamong, spelled_object]
    dsimp only
    rw [parseLeaf_eq_ok]
    constructor
    · rintro ⟨l, hspelled, rfl⟩
      exact .inl ⟨l, hamong, hspelled, rfl⟩
    · rintro (⟨l, -, hspelled, rfl⟩ | ⟨connective, items, children, rfl, -⟩)
      · exact ⟨l, hspelled, rfl⟩
      · rw [Connective.among_singleton] at hamong
        cases hamong
  faulty error h := by
    rw [parse, hamong] at h
    dsimp only [parseLeaf] at h
    split at h
    next => cases h
    next issue more hread =>
        cases h
        exact .leaf (Connective.among_eq_nil.mp hamong) hread
    next hread => exact absurd hread (Leaf.ofFields_explained o)

theorem spelled_node {o : Object} {c : Condition} {connective : Connective}
    (hamong : Connective.among o = [connective]) :
    Spelled (.object o) c ↔ ∃ items children, o = [(connective.key, .list items)] ∧ items ≠ [] ∧
      List.Forall₂ Spelled items children ∧ c = connective.node children := by
  rw [spelled_object]
  constructor
  · rintro (⟨l, hnone, -⟩ | ⟨other, items, children, rfl, hspelled⟩)
    · rw [hamong] at hnone
      cases hnone
    · rw [Connective.among_singleton] at hamong
      cases hamong
      exact ⟨items, children, rfl, hspelled⟩
  · rintro ⟨items, children, hspelled⟩
    exact .inr ⟨connective, items, children, hspelled⟩

theorem readsSpelled_singleton {connective : Connective} {items : List Value} (hne : items ≠ [])
    (hread : ReadsSpelledEach items) :
    ReadsSpelled (.object [(connective.key, .list items)]) where
  spelled c := by
    rw [parse_singleton connective hne, spelled_node (Connective.among_singleton _ _)]
    constructor
    · intro h
      cases hlist : parseList items with
      | error error =>
          rw [hlist] at h
          cases h
      | ok children =>
          rw [hlist] at h
          cases h
          exact ⟨items, children, rfl, hne, (hread.spelled children).mp hlist, rfl⟩
    · rintro ⟨_, children, ⟨⟩, -, hspelled, rfl⟩
      rw [(hread.spelled children).mpr hspelled]
      rfl
  faulty error h := by
    rw [parse_singleton connective hne] at h
    cases hlist : parseList items with
    | ok children =>
        rw [hlist] at h
        cases h
    | error error' =>
        rw [hlist] at h
        cases h
        obtain ⟨earlier, v, later, children, rfl, hearlier, hv⟩ := hread.faulty error hlist
        exact .child connective hearlier hv

theorem readsSpelled_empty {o : Object} {connective : Connective}
    (hamong : Connective.among o = [connective])
    (hfilled : isFilledList (o.getOrNull connective.key) = false) : ReadsSpelled (.object o) := by
  refine .of_faulty (.empty hamong hfilled) ?_ fun c hspelled => ?_
  · simp only [parse, hamong, hfilled, Bool.not_false, if_true]
  · obtain ⟨items, children, rfl, hne, -⟩ := (spelled_node hamong).mp hspelled
    obtain ⟨first, rest, rfl⟩ := List.exists_cons_of_ne_nil hne
    rw [Object.getOrNull, Object.get?_cons, if_pos rfl] at hfilled
    cases hfilled

/-- An object with one connective, a list under it, and other fields. -/
theorem readsSpelled_extraKeys {o : Object} {connective : Connective}
    (hamong : Connective.among o = [connective])
    (hfilled : isFilledList (o.getOrNull connective.key) = true) (hlength : 1 < o.length) :
    ReadsSpelled (.object o) := by
  refine .of_faulty (.extraKeys hamong hfilled hlength) ?_ fun c hspelled => ?_
  · simp only [parse, hamong, hfilled, Bool.not_true, Bool.false_eq_true, if_false, hlength,
      if_true]
  · obtain ⟨items, children, rfl, -⟩ := (spelled_node hamong).mp hspelled
    exact absurd hlength (Nat.lt_irrefl 1)

/-- An object with one connective is read by the list under it. -/
theorem readsSpelled_node {o : Object} {connective : Connective}
    (hamong : Connective.among o = [connective])
    (hlist : ∀ items, o.getOrNull connective.key = .list items → ReadsSpelledEach items) :
    ReadsSpelled (.object o) := by
  cases hfilled : isFilledList (o.getOrNull connective.key) with
  | false => exact readsSpelled_empty hamong hfilled
  | true =>
      by_cases hlength : 1 < o.length
      · exact readsSpelled_extraKeys hamong hfilled hlength
      · obtain ⟨first, rest, hitems⟩ := exists_of_isFilledList hfilled
        have hread := hlist _ hitems
        obtain rfl := eq_singleton_of_getOrNull hitems hlength
        exact readsSpelled_singleton (List.cons_ne_nil first rest) hread

theorem readsSpelled_mixed {o : Object} {first second : Connective} {more : List Connective}
    (hamong : Connective.among o = first :: second :: more) : ReadsSpelled (.object o) := by
  refine .of_faulty (.mixed (Connective.contains_of_among hamong)) ?_ fun c hspelled => ?_
  · rw [parse, hamong]
  · rcases spelled_object.mp hspelled with
      ⟨l, hnone, -⟩ | ⟨connective, items, children, rfl, -⟩
    · rw [hamong] at hnone
      cases hnone
    · rw [Connective.among_singleton] at hamong
      cases hamong

theorem readsSpelled_other {v : Value} (hv : v.isObject = false) : ReadsSpelled v := by
  refine .of_faulty (.notAnObject hv) ?_ fun c hspelled => ?_
  · cases v with
    | object fields => cases hv
    | _ => rfl
  · cases hspelled <;> cases hv

mutual

/-- The parser follows the grammar: induction on the document, one case for each
form of a value. -/
theorem readsSpelled : ∀ v : Value, ReadsSpelled v
  | .object o => by
      cases hamong : Connective.among o with
      | nil => exact readsSpelled_leaf hamong
      | cons connective more =>
          cases more with
          | nil => exact readsSpelled_node hamong (readsSpelled_under connective.key o)
          | cons second more => exact readsSpelled_mixed hamong
  | .null | .bool _ | .int _ | .float _ | .decimal _ | .text _ | .list _ | .tuple _ | .missing =>
      readsSpelled_other rfl

theorem readsSpelled_under (key : String) : ∀ (o : List (String × Value)) (items : List Value),
    Object.getOrNull o key = .list items → ReadsSpelledEach items
  | [], _, h => by cases h
  | (name, v) :: rest, items, h => by
      rw [Object.getOrNull, Object.get?_cons] at h
      split at h
      · cases v with
        | list items' =>
            cases h
            exact readsSpelledEach _
        | _ => cases h
      · exact readsSpelled_under key rest items h

theorem readsSpelledEach : ∀ items : List Value, ReadsSpelledEach items
  | [] => .nil
  | v :: rest => .cons (readsSpelled v) (readsSpelledEach rest)

end

/-- A document is read as the condition that it spells, or refused for a fault it
has; what is read has the form of what was spelled. -/
theorem parse_spelled (v : Value) :
    (∀ c, parse v = .ok c ↔ Spelled v c) ∧
      ((∃ c, Spelled v c ∧ parse v = .ok c) ∨
        ∃ error, Faulty v error ∧ parse v = .error error) := by
  have hread := readsSpelled v
  refine ⟨hread.spelled, ?_⟩
  cases hparse : parse v with
  | ok c => exact .inl ⟨c, (hread.spelled c).mp hparse, rfl⟩
  | error error => exact .inr ⟨error, hread.faulty error hparse, rfl⟩

/-- Half of a pair of units is a text that is not empty, and still no name: a document
with the fields of a leaf, and this one for its field, is refused. -/
theorem half_refused :
    let half := String.ofList (Text.charsOf 0xd800)
    let leaf : Object := [("field", .text half), ("operator", .text ">"), ("value", .int 1)]
    half ≠ "" ∧ leaf.keys = Leaf.fieldNames ∧ Operator.ofSymbol? ">" = some .gt ∧
      (Value.int 1).isObject = false ∧
      parse (.object leaf) = .error (.leaf [.name "field"] .stringUnicode) :=
  ⟨by decide, by decide, rfl, rfl, rfl⟩

end Condition

end AlertRules
