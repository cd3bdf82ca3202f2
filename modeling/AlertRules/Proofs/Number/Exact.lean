import AlertRules.Number.Decimal
import AlertRules.Proofs.Number.Written
import Mathlib.Data.Rat.Cast.Order
import Mathlib.Tactic.Positivity

/-!
Numbers as the fractions they are.

A finite floating-point number is a whole number of units, and a finite decimal number is
a coefficient times a power of ten; both are fractions exactly (`toRat?`). The integer
that a number is said to equal is the one its fraction is, and there is none for a number
that is no integer (`Double.toInt?_eq_some_iff`, `Decimal.toInt?_eq_some_iff`). Both come
down to one fact on signed quotients (`Decimal.signed_eq_mul_iff`).
-/

namespace AlertRules

def Double.toRat? : Double → Option ℚ
  | .finite negative mant shift h =>
    some ((Double.finite negative mant shift h).units / Double.unitsOfOne)
  | _ => none

namespace Decimal

def toRat? : Decimal → Option ℚ
  | .finite negative coeff exponent => some (signed negative coeff * (10 : ℚ) ^ exponent)
  | _ => none

/-! ### Signed quotients -/

theorem signed_mul (negative : Bool) (n d : Nat) :
    signed negative (n * d) = signed negative n * d := by
  cases negative <;> simp [signed]

theorem signed_inj {negative : Bool} {m n : Nat} :
    signed negative m = signed negative n ↔ m = n := by
  cases negative <;> simp [signed]

/-- A signed number is a multiple exactly if it leaves no remainder, and then of its
quotient. -/
theorem signed_eq_mul_iff {negative : Bool} {n d : Nat} (hd : 0 < d) {i : Int} :
    signed negative n = i * d ↔ n % d = 0 ∧ signed negative (n / d) = i := by
  have hne : (d : Int) ≠ 0 := by omega
  constructor
  · intro h
    have hdvd : d ∣ n := by
      have hsigned : (d : Int) ∣ signed negative n := ⟨i, by rw [h, Int.mul_comm]⟩
      cases negative with
      | false => exact Int.natCast_dvd_natCast.mp hsigned
      | true => exact Int.natCast_dvd_natCast.mp (Int.dvd_neg.mp hsigned)
    refine ⟨Nat.mod_eq_zero_of_dvd hdvd, ?_⟩
    rw [← Nat.div_mul_cancel hdvd, signed_mul] at h
    exact Int.eq_of_mul_eq_mul_right hne h
  · rintro ⟨hmod, rfl⟩
    rw [← signed_mul, Nat.div_mul_cancel (Nat.dvd_of_mod_eq_zero hmod)]

theorem ratCast_div_eq_iff {a i : Int} {d : Nat} (hd : 0 < d) :
    (a : ℚ) / d = i ↔ a = i * d := by
  have hne : (d : ℚ) ≠ 0 := by positivity
  rw [div_eq_iff hne]
  exact_mod_cast Iff.rfl

end Decimal

open Decimal

/-! ### Integers among the numbers -/

/-- A floating-point number equals the integer that its fraction is. -/
theorem Double.toInt?_eq_some_iff {x : Double} {i : Int} :
    x.toInt? = some i ↔ x.toRat? = some (i : ℚ) := by
  cases x with
  | nan named => simp [toInt?, toRat?]
  | inf negative => simp [toInt?, toRat?]
  | finite negative mant shift canonical =>
      have hunits : (finite negative mant shift canonical).units =
          signed negative (mant * Nat.pow 2 shift) := by cases negative <;> rfl
      rw [toRat?, Option.some.injEq, ratCast_div_eq_iff unitsOfOne_pos, hunits,
        signed_eq_mul_iff unitsOfOne_pos]
      -- Reading it off by evaluation would write the units of one out, all their digits.
      have hread : (finite negative mant shift canonical).toInt? =
          if mant * Nat.pow 2 shift % unitsOfOne = 0
          then some (signed negative (mant * Nat.pow 2 shift / unitsOfOne)) else none := rfl
      rw [hread, Option.ite_none_right_eq_some, Option.some.injEq]

theorem Decimal.toInt?_eq_some_iff {d : Decimal} {i : Int} :
    d.toInt? = some i ↔ d.toRat? = some (i : ℚ) := by
  cases d with
  | inf negative => simp [toInt?, toRat?]
  | nan negative signalling payload => simp [toInt?, toRat?]
  | finite negative coeff exponent =>
      rw [toRat?, Option.some.injEq]
      cases exponent with
      | ofNat e =>
          have hvalue : (signed negative coeff : ℚ) * 10 ^ (Int.ofNat e) =
              (signed negative (coeff * 10 ^ e) : ℤ) := by
            rw [signed_mul, Int.ofNat_eq_natCast, zpow_natCast]
            push_cast
            rfl
          rw [hvalue, Int.cast_inj]
          by_cases hzero : coeff = 0
          · subst hzero
            cases negative <;> simp [toInt?, signed]
          · simp [toInt?, hzero]
      | negSucc e =>
          have hpos : 0 < 10 ^ (e + 1) := Nat.pow_pos (by decide)
          have hvalue : (signed negative coeff : ℚ) * 10 ^ (Int.negSucc e) =
              signed negative coeff / (10 ^ (e + 1) : ℕ) := by
            rw [zpow_negSucc, div_eq_mul_inv]
            push_cast
            rfl
          rw [hvalue, ratCast_div_eq_iff hpos, signed_eq_mul_iff hpos]
          by_cases hzero : coeff = 0
          · subst hzero
            cases negative <;> simp [toInt?, signed]
          · by_cases hshort : (Double.digitsOf coeff).length ≤ e
            · -- a number below its own denominator
              have hlt : coeff < 10 ^ (e + 1) :=
                calc coeff < 10 ^ (Double.digitsOf coeff).length :=
                      Double.lt_pow_length_digitsOf coeff
                  _ ≤ 10 ^ (e + 1) := Nat.pow_le_pow_right (by decide) (by omega)
              simp [toInt?, hzero, hshort, Nat.mod_eq_of_lt hlt]
            · simp [toInt?, hzero, hshort]

end AlertRules
