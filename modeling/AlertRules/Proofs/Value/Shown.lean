import AlertRules.Proofs.Action
import AlertRules.Value.Shown
import Mathlib.Algebra.Group.Int.Defs
import Mathlib.Algebra.Group.Nat.Defs

/-!
Which values are put into text.

A value is if all its parts are, so nothing in a value that has a text is
without one.
-/

namespace AlertRules

namespace Value

variable {v : Value} {items : List Value} {fields : Object} {form : Value → String} {s : String}

theorem written_of_hasText (h : v.hasText = true) : v.written form = .ok (form v) := if_pos h

theorem written_of_not_hasText (h : v.hasText = false) : v.written form = .error .unwritable := by
  rw [written, h]
  rfl

theorem written_eq_ok_iff : v.written form = .ok s ↔ v.hasText = true ∧ form v = s := by
  unfold written
  split
  next h => simp [h]
  next h => simp [h]

theorem fault_of_written {fault : Fault} (h : v.written form = .error fault) :
    v.hasText = false ∧ fault = .unwritable := by
  cases hv : v.hasText with
  | true => cases (written_of_hasText hv).symm.trans h
  | false => cases (written_of_not_hasText hv).symm.trans h; exact ⟨rfl, rfl⟩

theorem hasText_int {i : Int} :
    (Value.int i).hasText = true ↔ i.natAbs < 10 ^ Numeral.digitLimit := by
  rw [hasText, decide_eq_true_iff]
  exact Nat.length_toDigits_le_iff (by decide) (by decide)

theorem not_hasText_of_le {i : Int} (h : 10 ^ Numeral.digitLimit ≤ i.natAbs) :
    (Value.int i).hasText = false := by
  rw [Bool.eq_false_iff, ne_eq, hasText_int]
  exact Nat.not_lt.mpr h

theorem le_natAbs_pow (n : Nat) : 10 ^ n ≤ (10 ^ n : Int).natAbs :=
  Nat.le_of_eq (Int.natAbs_pow 10 n).symm

theorem hasText_list : (Value.list items).hasText = true ↔ ∀ v ∈ items, v.hasText = true := by
  change allHaveText items = true ↔ _
  induction items with
  | nil => simp [allHaveText]
  | cons v items ih => simp [allHaveText, ih]

theorem hasText_ofText? (s : Option String) : (Value.ofText? s).hasText = true := by
  cases s <;> rfl

theorem hasText_of_not_truthy (h : v.truthy = false) : v.hasText = true := by
  cases v with
  | int i =>
      obtain rfl : i = 0 := by simpa [truthy] using h
      rfl
  | list items | tuple items =>
      obtain rfl : items = [] := by simpa [truthy] using h
      rfl
  | object fields =>
      obtain rfl : fields = [] := by simpa [truthy] using h
      rfl
  | _ => rfl

end Value

/-- The first step of a sequence puts a value into text that has one. -/
theorem Action.Ends.bind_written {σ α : Type} {v : Value} {form : Value → String}
    {f : String → Action σ α} {s : σ} {goal : Except Fault α → σ → Prop} (h : v.hasText = true)
    (hf : (f (form v)).Ends s goal) : (Action.ofExcept (v.written form) >>= f).Ends s goal := by
  rw [Value.written_of_hasText h]
  exact hf

end AlertRules
