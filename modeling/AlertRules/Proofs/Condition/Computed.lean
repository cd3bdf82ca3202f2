import AlertRules.Condition.Evaluation
import AlertRules.Proofs.Comparison.Answers

/-!
Computed operands.

A computed operand is worth a number if its field has one, and is missing
otherwise. With a number the leaf is the leaf that compares with this number
(`DynamicValue.amount`). With a missing operand no operator is fulfilled but the
one that asks for a difference (`Comparator.compare_missing`): a missing value is
no range and no list, it stands for no number, it has no order with anything, and
nothing that is there is equal to it. Neither is what is absent itself, which is
asked nothing further.
-/

namespace AlertRules

namespace Value

theorem ordered_missing (above : Bool) (v : Value) :
    ordered above v .missing = .error .incomparable := by
  cases v <;> cases above <;> rfl

theorem strictEquals_missing {v : Value} (h : v.isAbsent = false) :
    v.strictEquals .missing = false := by
  cases v with
  | missing => cases h
  | _ => rfl

end Value

namespace Comparator

variable {c : Comparator} {op : Operator} {v : Value} {cache : SetCache}

/-- The answer about a value that is there and the missing one. -/
theorem answer_missing {x : Option Double} (hv : v.isAbsent = false) (hx : v.toNumber = .ok x) :
    answer op v .missing = .ok (op == .ne) := by
  have hanswer : answer op v .missing = numbersAnswer op v .missing x none := by
    rw [answer, hx]
    rfl
  have hvalues : numbersAnswer op v .missing x none = valuesAnswer op v .missing := by
    cases x <;> rfl
  rw [hanswer, hvalues]
  cases op with
  | eq => exact congrArg Except.ok (Value.strictEquals_missing hv)
  | ne => exact congrArg (Except.ok !·) (Value.strictEquals_missing hv)
  | gt => exact congrArg orderAnswer (Value.ordered_missing true v)
  | lt => exact congrArg orderAnswer (Value.ordered_missing false v)
  | ge | le | between | isIn => rfl

/-- A comparison with the missing value finds a difference and nothing else. -/
theorem compare_missing {x : Option Double} (hx : v.toNumber = .ok x) :
    (c.compare op v .missing).Ends cache fun outcome cache' =>
      outcome = .ok (op == .ne) ∧ cache' = cache := by
  cases hv : v.isAbsent with
  | true =>
      simp only [compare, hv, if_true, Bool.and_true]
      exact .pure ⟨rfl, rfl⟩
  | false =>
      by_cases hop : op.IsPairwise
      · refine (compare_ends hop hv).mono ?_
        rintro outcome cache' ⟨rfl, rfl⟩
        exact ⟨answer_missing hv hx, rfl⟩
      · -- the missing value is neither a range nor a list
        have hother : op = .between ∨ op = .isIn := by
          rwa [Operator.IsPairwise, not_and_or, not_ne_iff, not_ne_iff] at hop
        rcases hother with rfl | rfl
        · simp only [compare, hv, Bool.false_eq_true, if_false]
          exact fun log => ⟨rfl, rfl⟩
        · simp only [compare, hv, Bool.false_eq_true, if_false]
          exact fun log => ⟨rfl, rfl⟩

end Comparator

/-! ### Leaves -/

namespace DynamicValue

variable {d : DynamicValue} {base : Value}

/-- A number times the scale, if there is one. -/
def scaled (d : DynamicValue) (x : Double) : Double := (d.multiplier.map x.mul).getD x

/-- A number plus the shift, if there is one. -/
def shifted (d : DynamicValue) (x : Double) : Double := (d.offset.map x.add).getD x

/-- What a computed operand is worth where its field has a number. -/
def amount (d : DynamicValue) (x : Double) : Double := d.shifted (d.scaled x)

theorem resolve_of_number {x : Double} (h : base.toNumber = .ok (some x)) :
    d.resolve base = .ok (.float (d.amount x)) := by
  rw [resolve, h, amount, scaled, shifted]
  cases d.multiplier <;> cases d.offset <;> rfl

theorem resolve_of_none (h : base.toNumber = .ok none) : d.resolve base = .ok .missing := by
  rw [resolve, h]
  rfl

end DynamicValue

/-- A leaf with a computed operand. Where its operand's field has no number, absent or not,
the leaf is met by a difference only, whatever its own field has, as long as it can be told
whether that is a number. Where there is a number, the leaf is the one that compares with
what the operand is worth. -/
theorem Condition.evaluate_computed (comparator : Comparator) (data : Value) (field : String)
    (op : Operator) (d : DynamicValue) :
    let computed := Condition.leaf ⟨field, op, .dynamic d⟩
    ((Path.extract data d.field).toNumber = .ok none →
        (∃ x, (Path.extract data field).toNumber = .ok x) →
        ∀ cache, (computed.evaluate comparator data).Ends cache fun outcome cache' =>
          outcome = .ok (op == .ne) ∧ cache' = cache) ∧
      ∀ x, (Path.extract data d.field).toNumber = .ok (some x) →
        computed.evaluate comparator data =
          (Condition.leaf ⟨field, op, .literal (.float (d.amount x))⟩).evaluate comparator data := by
  intro computed
  constructor
  · rintro hnone ⟨x, hx⟩ cache
    have hresolved : Operand.resolve data (.dynamic d) = .ok .missing :=
      DynamicValue.resolve_of_none hnone
    show (Leaf.evaluate comparator data ⟨field, op, .dynamic d⟩).Ends cache _
    rw [Leaf.evaluate, hresolved]
    exact Comparator.compare_missing hx
  · intro x hx
    have hresolved : Operand.resolve data (.dynamic d) = .ok (.float (d.amount x)) :=
      DynamicValue.resolve_of_number hx
    show Leaf.evaluate comparator data ⟨field, op, .dynamic d⟩ =
      Leaf.evaluate comparator data ⟨field, op, .literal (.float (d.amount x))⟩
    rw [Leaf.evaluate, Leaf.evaluate, hresolved]
    rfl

/-- A list above the double of what is no number, different from it, and a number above twice
another one and one. -/
theorem Condition.evaluate_computed_limits :
    let data : Value := .object [("loads", .list [.int 3]), ("limit", .text "none"),
      ("load", .int 8), ("base", .text " 3.5 ")]
    let double : DynamicValue := ⟨"limit", some (.ofInt 2), none⟩
    let doubleAndOne : DynamicValue := ⟨"base", some (.ofInt 2), some (.ofInt 1)⟩
    let evaluate := Condition.evaluate {} data
    ((evaluate (.leaf ⟨"loads", .gt, .dynamic double⟩)).Ends .empty fun outcome _ =>
        outcome = .ok false) ∧
      ((evaluate (.leaf ⟨"loads", .ne, .dynamic double⟩)).Ends .empty fun outcome _ =>
        outcome = .ok true) ∧
      evaluate (.leaf ⟨"load", .ge, .dynamic doubleAndOne⟩) =
        evaluate (.leaf ⟨"load", .ge, .literal (.float (.ofInt 8))⟩) := by
  intro data double doubleAndOne evaluate
  have hlimit : (Path.extract data double.field).toNumber = .ok none := by decide +kernel
  have hloads : ∃ x, (Path.extract data "loads").toNumber = .ok x := ⟨none, by decide +kernel⟩
  have hbase : (Path.extract data doubleAndOne.field).toNumber =
      .ok (some (.ofRatio false 7 2)) := by
    decide +kernel
  have hamount : doubleAndOne.amount (.ofRatio false 7 2) = .ofInt 8 := by decide +kernel
  refine ⟨?_, ?_, ?_⟩
  · exact ((evaluate_computed {} data "loads" .gt double).1 hlimit hloads .empty).mono
      fun _ _ h => h.1
  · exact ((evaluate_computed {} data "loads" .ne double).1 hlimit hloads .empty).mono
      fun _ _ h => h.1
  · rw [← hamount]
    exact (evaluate_computed {} data "load" .ge doubleAndOne).2 _ hbase

end AlertRules
