import AlertRules.Proofs.Number.Written

/-!
The number of a numeral is the nearest one, however far out it lies.

`Numeral.toDouble` does not compute the powers of ten that are far out of range. What it
answers there is what the computation would come to: less than half a unit is rounded to
zero (`ofUnits_tiny`), and what lies a power of two above the largest number is infinite
(`ofUnits_huge`).
-/

namespace AlertRules

namespace Double

theorem ofUnits_tiny {num den : Nat} (h : 2 * num < den) (negative : Bool) :
    ofUnits negative num den = signedZero negative := by
  have hlt : num < den := by omega
  have hround : roundDiv num den = 0 := roundDiv_eq (by omega) (by omega)
  rw [ofUnits, Nat.div_eq_of_lt hlt, Nat.log2_zero, Nat.zero_sub, Nat.pow_eq, Nat.pow_zero,
    Nat.mul_one, hround]
  exact pack_canonical (by decide) negative

theorem ofUnits_huge {num den k : Nat} (hden : 0 < den) (hk : 2098 ≤ k) (h : 2 ^ k * den ≤ num)
    (negative : Bool) : ofUnits negative num den = .inf negative := by
  have hquot : 2 ^ k ≤ num / den := (Nat.le_div_iff_mul_le hden).mpr h
  have hpos : num / den ≠ 0 := by
    have := Nat.two_pow_pos k
    omega
  have hlog : k ≤ (num / den).log2 := (Nat.le_log2 hpos).mpr hquot
  unfold ofUnits pack
  dsimp only
  rw [dif_neg, dif_neg]
  · rintro ⟨-, hshift⟩
    omega
  · rintro ⟨-, -, hshift⟩
    omega

/-- Four hundred places before the point lies a power of two that is out of range. -/
theorem exists_far : ∃ k far : Nat, 2098 ≤ k ∧ 2 ^ k ≤ far * unitsOfOne ∧
    ∀ m, 10 ^ (m + 400) = 10 ^ m * far :=
  ⟨2098, Nat.pow 10 400, by decide, by decide +kernel, pow_add_400⟩

end Double

namespace Numeral

open Double

theorem toDouble_eq (n : Numeral) : n.toDouble = ofScientific n.negative n.coeff n.exponent := by
  obtain ⟨negative, coeff, e⟩ := n
  have hlength : 0 < (digitsOf coeff).length := Nat.length_toDigits_pos
  unfold toDouble
  dsimp only
  by_cases hzero : coeff = 0
  · rw [if_pos (.inl hzero), hzero, ofScientific_zero]
  · rw [ofScientific_eq]
    split
    next htiny =>
        -- the digits end more than 400 places behind the point
        have hleading := htiny.resolve_left hzero
        obtain ⟨m, hm⟩ : ∃ m, (-e).toNat = m + 400 := ⟨(-e).toNat - 400, by omega⟩
        have hmore : (digitsOf coeff).length + 1 ≤ m := by omega
        have hpower : e.toNat = 0 := by omega
        rw [hm, hpower, pow_add_400, Nat.pow_zero, Nat.mul_one]
        refine (ofUnits_tiny ?_ negative).symm
        have hcoeff : 2 * coeff < 10 ^ m :=
          calc 2 * coeff < 10 ^ (digitsOf coeff).length * 10 := by
                have := lt_pow_length_digitsOf coeff
                omega
            _ = 10 ^ ((digitsOf coeff).length + 1) := (Nat.pow_succ ..).symm
            _ ≤ 10 ^ m := Nat.pow_le_pow_right (by decide) hmore
        calc 2 * (coeff * unitsOfOne) = 2 * coeff * unitsOfOne := (Nat.mul_assoc _ _ _).symm
          _ < 10 ^ m * unitsOfOne := Nat.mul_lt_mul_of_pos_right hcoeff unitsOfOne_pos
          _ ≤ 10 ^ m * Nat.pow 10 400 := Nat.mul_le_mul_left _ unitsOfOne_le
    next hnot =>
        split
        next hhuge =>
            -- the leading digit stands more than 400 places before the point
            obtain ⟨m, hm⟩ : ∃ m, (digitsOf coeff).length - 1 + e.toNat = m + 400 :=
              ⟨(digitsOf coeff).length - 1 + e.toNat - 400, by omega⟩
            have hless : 10 ^ (-e).toNat ≤ 10 ^ m := Nat.pow_le_pow_right (by decide) (by omega)
            have hden : 0 < 10 ^ (-e).toNat := Nat.pow_pos (by decide)
            obtain ⟨k, far, hk, hfar, hplaces⟩ := exists_far
            refine (ofUnits_huge hden hk ?_ negative).symm
            calc 2 ^ k * 10 ^ (-e).toNat
                ≤ far * unitsOfOne * 10 ^ m := Nat.mul_le_mul hfar hless
              _ = 10 ^ ((digitsOf coeff).length - 1) * 10 ^ e.toNat * unitsOfOne := by
                  rw [← Nat.pow_add, hm, hplaces, Nat.mul_comm (10 ^ m), Nat.mul_right_comm]
              _ ≤ coeff * 10 ^ e.toNat * unitsOfOne :=
                  Nat.mul_le_mul_right _ (Nat.mul_le_mul_right _ (pow_length_digitsOf_le hzero))
        next => rfl

end Numeral

end AlertRules
