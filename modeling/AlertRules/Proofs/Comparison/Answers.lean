import AlertRules.Proofs.Comparison.Sets
import AlertRules.Proofs.Comparison.Totality

/-!
The answers of comparisons.

Nothing but a look into a list depends on more than the two values that are
compared. So every other comparison has an answer that can be written down
(`Comparator.answer`): it is that of two numbers if both values stand for one,
and that of their equality or order otherwise. From every cache the comparison
ends with its answer, and leaves the cache as it was.
-/

namespace AlertRules

namespace Operator

/-- The operators that compare one value with another, and not with a range or a
list. -/
def IsPairwise (op : Operator) : Prop := op ≠ .between ∧ op ≠ .isIn

instance (op : Operator) : Decidable op.IsPairwise := inferInstanceAs (Decidable (_ ∧ _))

end Operator

namespace Comparator

variable {c : Comparator} {op : Operator} {v w : Value} {cache : SetCache}

/-- The answer to a question of order. What has no order is answered with no. -/
def orderAnswer : Except OrderError Bool → Except Fault Bool
  | .ok answer => .ok answer
  | .error .incomparable => .ok false
  | .error .undefined => .error .unsupported

/-- The answer about two values that are not both numbers. -/
def valuesAnswer (op : Operator) (v w : Value) : Except Fault Bool :=
  match op with
  | .eq => .ok (v.strictEquals w)
  | .ne => .ok !v.strictEquals w
  | op => orderAnswer (op.order v w)

/-- The answer about two values as far as they are numbers. -/
def numbersAnswer (op : Operator) (v w : Value) : Option Double → Option Double → Except Fault Bool
  | some x, some y => .ok (compareNumbers op x y)
  | _, _ => valuesAnswer op v w

def answer (op : Operator) (v w : Value) : Except Fault Bool := do
  let x ← v.toNumber
  let y ← w.toNumber
  numbersAnswer op v w x y

theorem evaluateOrder_ends (left right : Value) (question : Except OrderError Bool) :
    (evaluateOrder op left right question).Ends cache fun outcome cache' =>
      outcome = orderAnswer question ∧ cache' = cache := by
  unfold evaluateOrder
  split
  · exact .pure ⟨rfl, rfl⟩
  · exact .bind_record (.pure ⟨rfl, rfl⟩)
  · exact .throw ⟨rfl, rfl⟩

theorem compareValues_ends :
    (compareValues op v w).Ends cache fun outcome cache' =>
      outcome = valuesAnswer op v w ∧ cache' = cache := by
  cases op with
  | eq | ne => exact .pure ⟨rfl, rfl⟩
  | gt | lt => exact evaluateOrder_ends v w _
  | ge | le | between | isIn => exact .bind_record (.pure ⟨rfl, rfl⟩)

/-- A comparison of a value that is there with another value ends with its answer. -/
theorem compare_ends (hop : op.IsPairwise) (hv : v.isAbsent = false) :
    (c.compare op v w).Ends cache fun outcome cache' =>
      outcome = answer op v w ∧ cache' = cache := by
  have hcompared : (do
      let x ← Action.ofExcept v.toNumber
      let y ← Action.ofExcept w.toNumber
      match x, y with
      | some x, some y => pure (compareNumbers op x y)
      | _, _ => compareValues op v w : Action SetCache Bool).Ends cache fun outcome cache' =>
        outcome = answer op v w ∧ cache' = cache := by
    refine .bind_ofExcept_computes rfl fun x _ => .bind_ofExcept_computes rfl fun y _ => ?_
    split
    · exact .pure ⟨rfl, rfl⟩
    next hnumbers =>
        refine compareValues_ends.mono ?_
        rintro outcome cache' ⟨rfl, rfl⟩
        cases x with
        | none => exact ⟨rfl, rfl⟩
        | some x =>
            cases y with
            | none => exact ⟨rfl, rfl⟩
            | some y => exact absurd rfl (hnumbers x y rfl)
  cases op with
  | between => exact absurd rfl hop.1
  | isIn => exact absurd rfl hop.2
  | gt | lt | ge | le | eq | ne =>
      simp only [compare, hv, Bool.false_eq_true, if_false]
      exact hcompared

/-- What a comparison ends with when no list has been looked up yet. -/
def outcome (c : Comparator) (op : Operator) (v w : Value) : Except Fault Bool :=
  ((c.compare op v w).runFrom .empty []).outcome

theorem outcome_eq_answer (hop : op.IsPairwise) (hv : v.isAbsent = false) :
    c.outcome op v w = answer op v w :=
  (compare_ends hop hv []).1

end Comparator

end AlertRules
