import AlertRules.Proofs.Number.Exact
import AlertRules.Proofs.Number.Monotone
import AlertRules.Proofs.Number.Nearest
import Mathlib.Tactic.FieldSimp

/-!
What rounding finds.

A fraction is rounded to the number nearest to it. Said without an algorithm, every other
number is farther from the fraction, or as far, and then the significand of the nearest one is
even and that of the other one is odd (`IsNearest`). So there is one such number at most
(`IsNearest.unique`). Among the numbers on the grid of the fraction it is what `roundDiv` finds
(`nearest_on_grid`), and those on a finer grid lie all below the least number of the grid, which
is not above the fraction (`nearest_of_finer`).

A fraction that is no farther from the power of two above the largest number than from this
number has no number: the power of two is the even one of the two, and what is rounded to it is
infinite (`isFinite_ofUnits_iff`).
-/

namespace AlertRules

namespace Double

open Decimal (signed)

/-! ### Nearest numbers -/

def significand : Double → Nat
  | .finite _ mant _ _ => mant
  | _ => 0

/-- Whether a number has a minus sign, which zero may have. -/
def isNegative : Double → Bool
  | .finite negative .. => negative
  | .inf negative => negative
  | .nan _ => false

/-- A finite number is the nearest one to a fraction: every other one is farther from the
fraction, or as far, and then it has an odd significand and this one an even one. -/
def IsNearest (x : Double) (q : ℚ) : Prop :=
  ∃ r, x.toRat? = some r ∧ ∀ (y : Double) (s : ℚ), y.toRat? = some s → s ≠ r →
    |r - q| < |s - q| ∨ |r - q| = |s - q| ∧ x.significand % 2 = 0 ∧ y.significand % 2 = 1

theorem IsNearest.unique {x y : Double} {q : ℚ} (hx : x.IsNearest q) (hy : y.IsNearest q) :
    x.toRat? = y.toRat? := by
  obtain ⟨r, hr, hx⟩ := hx
  obtain ⟨s, hs, hy⟩ := hy
  by_contra hne
  rw [hr, hs, Option.some_inj] at hne
  rcases hx y s hs (Ne.symm hne) with hless | ⟨heq, heven, -⟩
  · rcases hy x r hr hne with hless' | ⟨heq, -⟩
    · exact absurd hless hless'.not_gt
    · exact absurd heq hless.ne'
  · rcases hy x r hr hne with hless | ⟨-, -, hodd⟩
    · exact absurd heq hless.ne'
    · omega

/-- The middle between the largest number and the power of two above it, which is no number. -/
def limit : ℚ := 2 ^ 1024 - 2 ^ 970

/-! ### Rounding on the grid -/

/-- A quotient is rounded by at most a half, and by a half to an even number only. -/
theorem roundDiv_near {den : Nat} (hden : 0 < den) (num : Nat) :
    2 * num ≤ 2 * (roundDiv num den * den) + den ∧ 2 * (roundDiv num den * den) ≤ 2 * num + den ∧
      (2 * num = 2 * (roundDiv num den * den) + den ∨
        2 * (roundDiv num den * den) = 2 * num + den → roundDiv num den % 2 = 0) := by
  have hdiv := Nat.div_add_mod num den
  have hmod := Nat.mod_lt num hden
  rw [Nat.mul_comm] at hdiv
  unfold roundDiv
  dsimp only
  split
  next hup =>
      rw [Nat.add_mul (num / den) 1 den, Nat.one_mul]
      omega
  next hdown => omega

theorem roundDiv_zero (den : Nat) : roundDiv 0 den = 0 := by
  simp [roundDiv]

theorem nearest_on_grid {num den : Nat} (hden : 0 < den) {k : Nat} (hne : k ≠ roundDiv num den) :
    ((roundDiv num den * den : Nat) - num : ℤ).natAbs < ((k * den : Nat) - num : ℤ).natAbs ∨
      ((roundDiv num den * den : Nat) - num : ℤ).natAbs = ((k * den : Nat) - num : ℤ).natAbs ∧
        roundDiv num den % 2 = 0 ∧ k % 2 = 1 := by
  obtain ⟨habove, hbelow, heven⟩ := roundDiv_near hden num
  -- the other number is at least a step away, and as far only if it is the next one
  rcases Nat.lt_or_gt_of_ne hne with hlt | hgt
  · rcases Nat.eq_or_lt_of_le hlt with hnext | hfar
    · have hstep : k * den + den = roundDiv num den * den := by rw [← hnext, Nat.succ_mul]
      omega
    · have hstep := Nat.mul_le_mul_right den hfar
      rw [Nat.succ_mul, Nat.succ_mul] at hstep
      omega
  · rcases Nat.eq_or_lt_of_le hgt with hnext | hfar
    · have hstep : roundDiv num den * den + den = k * den := by rw [← hnext, Nat.succ_mul]
      omega
    · have hstep := Nat.mul_le_mul_right den hfar
      rw [Nat.succ_mul, Nat.succ_mul] at hstep
      omega

/-- A quotient in the middle below an even number is rounded up to this number. -/
theorem roundDiv_lt_iff {num den k : Nat} (hden : 0 < den) (hk : k % 2 = 0) :
    roundDiv num den < k ↔ 2 * num + den < 2 * (k * den) := by
  obtain ⟨habove, hbelow, heven⟩ := roundDiv_near hden num
  constructor
  · intro hround
    have hstep := Nat.mul_le_mul_right den hround
    rw [Nat.succ_mul] at hstep
    by_contra hmiddle
    have hodd : roundDiv num den % 2 = 0 := heven (.inl (by omega))
    have hnext : (roundDiv num den + 1) * den = k * den := by
      rw [Nat.succ_mul]
      omega
    have := Nat.eq_of_mul_eq_mul_right hden hnext
    omega
  · intro hmiddle
    by_contra hround
    have hless := Nat.mul_le_mul_right den (Nat.not_lt.mp hround)
    omega

variable {num den mant shift : Nat}

/-- None of the numbers of a finer grid is as near as the rounded one. -/
theorem nearest_of_finer (hden : 0 < den) (hmant : mant < 2 ^ 53)
    (hfiner : shift < grid (num / den)) :
    ((mantissa num den * (den * 2 ^ grid (num / den)) : Nat) - num : ℤ).natAbs <
      ((mant * 2 ^ shift * den : Nat) - num : ℤ).natAbs := by
  have hstep : 0 < den * 2 ^ grid (num / den) := Nat.mul_pos hden (Nat.two_pow_pos _)
  have hleast := grid_mul_le hden (Nat.zero_lt_of_lt hfiner)
  have hbelow : mant * 2 ^ shift * den < 2 ^ 52 * (den * 2 ^ grid (num / den)) := by
    calc mant * 2 ^ shift * den < 2 ^ 53 * 2 ^ shift * den :=
          Nat.mul_lt_mul_of_pos_right
            (Nat.mul_lt_mul_of_pos_right hmant (Nat.two_pow_pos shift)) hden
      _ ≤ 2 ^ 52 * 2 ^ grid (num / den) * den := Nat.mul_le_mul_right den (finer_le hfiner)
      _ = 2 ^ 52 * (den * 2 ^ grid (num / den)) := by ring
  by_cases hround : 2 ^ 52 = mantissa num den
  · rw [← hround]
    omega
  · have hnear := nearest_on_grid hstep hround
    rw [← mantissa] at hnear
    omega

/-- By magnitude the rounded fraction is the nearest of all numbers. -/
theorem nearest_of_canonical (hden : 0 < den) (h : Canonical mant shift)
    (hne : mant * 2 ^ shift * den ≠ mantissa num den * (den * 2 ^ grid (num / den))) :
    ((mantissa num den * (den * 2 ^ grid (num / den)) : Nat) - num : ℤ).natAbs <
        ((mant * 2 ^ shift * den : Nat) - num : ℤ).natAbs ∨
      ((mantissa num den * (den * 2 ^ grid (num / den)) : Nat) - num : ℤ).natAbs =
        ((mant * 2 ^ shift * den : Nat) - num : ℤ).natAbs ∧
          mantissa num den % 2 = 0 ∧ mant % 2 = 1 := by
  rcases Nat.lt_or_ge shift (grid (num / den)) with hfiner | hcoarser
  · exact .inl (nearest_of_finer hden h.1 hfiner)
  · -- a number of the same grid or of a coarser one is on the grid
    obtain ⟨more, rfl⟩ := Nat.exists_eq_add_of_le hcoarser
    have hon : mant * 2 ^ (grid (num / den) + more) * den =
        mant * 2 ^ more * (den * 2 ^ grid (num / den)) := by
      rw [Nat.pow_add]
      ring
    have hodd : mant * 2 ^ more % 2 = 1 → mant % 2 = 1 := fun h =>
      Nat.odd_iff.mp (Nat.odd_mul.mp (Nat.odd_iff.mpr h)).1
    rw [hon] at hne ⊢
    have hnear := nearest_on_grid (Nat.mul_pos hden (Nat.two_pow_pos _)) fun hsame =>
      hne (congrArg (· * (den * 2 ^ grid (num / den))) hsame)
    exact hnear.imp_right (And.imp_right (And.imp_right hodd))

/-! ### Signed fractions -/

theorem natAbs_signed_sub (negative : Bool) (m n : Nat) :
    (signed negative m - signed negative n).natAbs = (m - n : ℤ).natAbs := by
  cases negative with
  | false => rfl
  | true =>
      simp only [signed, if_true]
      omega

theorem natAbs_sub_le_signed (negative sign : Bool) (m n : Nat) :
    (m - n : ℤ).natAbs ≤ (signed sign m - signed negative n).natAbs := by
  cases negative <;> cases sign <;> simp only [signed, if_true, Bool.false_eq_true, if_false] <;>
    omega

/-- What is nearest by magnitude and has the sign of the fraction is nearest: a number of the
other sign has zero between itself and the fraction. -/
theorem nearest_signed {E : Prop} {mag v n : Nat} (hzero : n = 0 → mag = 0)
    (h : v ≠ mag → (mag - n : ℤ).natAbs < (v - n : ℤ).natAbs ∨
      (mag - n : ℤ).natAbs = (v - n : ℤ).natAbs ∧ E)
    {negative sign : Bool} (hne : signed sign v ≠ signed negative mag) :
    (signed negative mag - signed negative n).natAbs < (signed sign v - signed negative n).natAbs ∨
      (signed negative mag - signed negative n).natAbs =
        (signed sign v - signed negative n).natAbs ∧ E := by
  have hfar := natAbs_sub_le_signed negative sign v n
  rw [natAbs_signed_sub]
  by_cases hmag : v = mag
  · -- the opposite of the nearest number, neither of which is zero
    subst hmag
    have hpos : v ≠ 0 := by
      rintro rfl
      exact hne (by cases sign <;> cases negative <;> rfl)
    have hn : n ≠ 0 := fun h => hpos (hzero h)
    have hsign : sign = !negative := by
      cases sign <;> cases negative <;> first | rfl | exact absurd rfl hne
    left
    cases negative <;> simp only [hsign, signed, Bool.not_true, Bool.not_false, if_true,
      Bool.false_eq_true, if_false] <;> omega
  · rcases h hmag with hlt | ⟨heq, htie⟩
    · exact .inl (hlt.trans_le hfar)
    · rcases hfar.lt_or_eq with hlt | heq'
      · exact .inl (heq.trans_lt hlt)
      · exact .inr ⟨heq.trans heq', htie⟩

/-! ### The nearest number -/

theorem toRat?_of_isFinite {x : Double} (h : x.isFinite = true) :
    x.toRat? = some (x.units / unitsOfOne : ℚ) := by
  cases x with
  | finite negative mant shift canonical => rfl
  | nan named => cases h
  | inf negative => cases h

theorem units_finite {negative : Bool} {mant shift : Nat} (h : Canonical mant shift) :
    (finite negative mant shift h).units = signed negative (mant * 2 ^ shift) := by
  cases negative <;> rfl

theorem eq_of_units {x y : Double} (hx : x.isFinite = true) (hy : y.isFinite = true)
    (hunits : x.units = y.units) (hsign : x.isNegative = y.isNegative) : x = y := by
  cases x with
  | finite negative mant shift h =>
      cases y with
      | finite negative' mant' shift' h' =>
          obtain rfl : negative = negative' := hsign
          rw [units_finite, units_finite, Decimal.signed_inj] at hunits
          obtain ⟨rfl, rfl⟩ := h.unique h' hunits
          rfl
      | nan named => cases hy
      | inf negative => cases hy
  | nan named => cases hx
  | inf negative => cases hx

theorem isFinite_of_toRat? {x : Double} {r : ℚ} (h : x.toRat? = some r) : x.isFinite = true := by
  cases x with
  | finite negative mant shift canonical => rfl
  | nan named => cases h
  | inf negative => cases h

theorem eq_of_toRat? {x y : Double} (hx : x.isFinite = true) (hrat : x.toRat? = y.toRat?)
    (hsign : x.isNegative = y.isNegative) : x = y := by
  have hone : (unitsOfOne : ℚ) ≠ 0 := Nat.cast_ne_zero.mpr unitsOfOne_pos.ne'
  rw [toRat?_of_isFinite hx] at hrat
  have hy := isFinite_of_toRat? hrat.symm
  rw [toRat?_of_isFinite hy, Option.some_inj, div_left_inj' hone, Int.cast_inj] at hrat
  exact eq_of_units hx hy hrat hsign

theorem exists_of_toRat? {x : Double} {r : ℚ} (h : x.toRat? = some r) :
    ∃ negative mant shift, Canonical mant shift ∧ x.significand = mant ∧
      r = (signed negative (mant * 2 ^ shift) : ℚ) / unitsOfOne := by
  cases x with
  | finite negative mant shift canonical =>
      refine ⟨negative, mant, shift, canonical, rfl, ?_⟩
      rw [toRat?, units_finite] at h
      exact (Option.some.inj h).symm
  | nan named => cases h
  | inf negative => cases h

theorem significand_ofUnits (h : mantissa num den % 2 = 0) (negative : Bool) :
    (ofUnits negative num den).significand % 2 = 0 := by
  rw [ofUnits_eq_pack]
  unfold pack
  split
  · exact h
  · split
    · exact (by decide : 4503599627370496 % 2 = 0)
    · rfl

theorem isNegative_ofUnits (negative : Bool) (num den : Nat) :
    (ofUnits negative num den).isNegative = negative := by
  rw [ofUnits_eq_pack]
  unfold pack
  split
  · rfl
  · split
    · rfl
    · rfl

theorem distance_eq (hden : 0 < den) (a n : Int) :
    |(a / unitsOfOne : ℚ) - n / (den * unitsOfOne)| =
      ((a * den - n).natAbs : ℚ) / (den * unitsOfOne) := by
  have hone : (0 : ℚ) < unitsOfOne := Nat.cast_pos.mpr unitsOfOne_pos
  have hscale : (0 : ℚ) < den * unitsOfOne := mul_pos (Nat.cast_pos.mpr hden) hone
  have hcommon : (a / unitsOfOne : ℚ) - n / (den * unitsOfOne) =
      ((a * den - n : ℤ) : ℚ) / (den * unitsOfOne) := by
    have hden' : (den : ℚ) ≠ 0 := Nat.cast_ne_zero.mpr hden.ne'
    generalize (unitsOfOne : ℚ) = one at hone
    push_cast
    field_simp
  rw [hcommon, abs_div, abs_of_pos hscale, Nat.cast_natAbs, Int.cast_abs]

/-- A fraction that is rounded to a finite number is rounded to the nearest one. -/
theorem isNearest_ofUnits (hden : 0 < den) {negative : Bool}
    (h : (ofUnits negative num den).isFinite = true) :
    (ofUnits negative num den).IsNearest (signed negative num / (den * unitsOfOne)) := by
  have hscale : (0 : ℚ) < den * unitsOfOne :=
    mul_pos (Nat.cast_pos.mpr hden) (Nat.cast_pos.mpr unitsOfOne_pos)
  have hmag : mantissa num den * 2 ^ grid (num / den) * den =
      mantissa num den * (den * 2 ^ grid (num / den)) := by ring
  refine ⟨_, toRat?_of_isFinite h, fun y s hy hne => ?_⟩
  obtain ⟨sign, mant, shift, hcanonical, hsignificand, rfl⟩ := exists_of_toRat? hy
  rw [units_ofUnits h] at hne ⊢
  have hother : signed sign (mant * 2 ^ shift * den) ≠
      signed negative (mantissa num den * (den * 2 ^ grid (num / den))) := by
    rw [← hmag, Decimal.signed_mul _ _ den, Decimal.signed_mul _ _ den]
    intro hsame
    have hunits := Int.eq_of_mul_eq_mul_right (Int.natCast_ne_zero.mpr hden.ne') hsame
    exact hne (by rw [hunits])
  rw [distance_eq hden, distance_eq hden, div_lt_div_iff_of_pos_right hscale,
    div_left_inj' hscale.ne', Nat.cast_lt, Nat.cast_inj, ← Decimal.signed_mul,
    ← Decimal.signed_mul, hmag]
  refine nearest_signed (fun hzero => ?_) (fun hne' => ?_) hother
  · rw [hzero, mantissa, roundDiv_zero, Nat.zero_mul]
  · rw [hsignificand]
    exact (nearest_of_canonical hden hcanonical hne').imp_right
      (And.imp_right (And.imp_left fun heven => significand_ofUnits heven negative))

/-! ### The range of the numbers -/

theorem two_mul_grid_le {g g' : Nat} (h : g < g') (den : Nat) :
    2 * (den * 2 ^ g) ≤ den * 2 ^ g' := by
  calc 2 * (den * 2 ^ g) = den * 2 ^ (g + 1) := by ring
    _ ≤ den * 2 ^ g' := Nat.mul_le_mul_left den (Nat.pow_le_pow_right (by decide) h)

/-- A fraction is rounded to a finite number as long as it is below the middle between the
largest one and the power of two above it. -/
theorem isFinite_ofUnits_iff (hden : 0 < den) (num : Nat) (negative : Bool) :
    (ofUnits negative num den).isFinite = true ↔
      2 * num + den * 2 ^ 2045 < 2 * (2 ^ 53 * (den * 2 ^ 2045)) := by
  rw [isFinite_ofUnits hden]
  generalize 2045 = top
  have hstep : 0 < den * 2 ^ grid (num / den) := Nat.mul_pos hden (Nat.two_pow_pos _)
  have hmag : den * (mantissa num den * 2 ^ grid (num / den)) =
      mantissa num den * (den * 2 ^ grid (num / den)) := by ring
  have hmax : den * (2 ^ 53 * 2 ^ top) = 2 ^ 53 * (den * 2 ^ top) := by ring
  rw [← Nat.mul_lt_mul_left hden, hmag, hmax]
  rcases Nat.lt_trichotomy (grid (num / den)) top with hfine | hcoarsest | hout
  · -- all that a finer grid holds is in range
    have hgrid := two_mul_grid_le hfine den
    have hround := Nat.mul_le_mul_right (den * 2 ^ grid (num / den)) (mantissa_le hden num)
    have hlt := lt_grid_mul hden num
    omega
  · rw [← hcoarsest, Nat.mul_lt_mul_right hstep]
    exact roundDiv_lt_iff hstep (by decide)
  · -- nothing on a coarser grid is in range
    have hpos := Nat.zero_lt_of_lt hout
    have hgrid := two_mul_grid_le hout den
    have hround := Nat.mul_le_mul_right (den * 2 ^ grid (num / den)) (le_mantissa hden hpos)
    have hleast := grid_mul_le hden hpos
    omega

/-- The middle in units, of which the power of two above the largest number has `2 ^ 53 * top`. -/
theorem exists_top :
    ∃ top : Nat, 2 ^ 2045 = top ∧ 2 * (limit * unitsOfOne) + top = 2 * (2 ^ 53 * top : ℚ) := by
  obtain ⟨e, he, hone⟩ : ∃ e, e = 1074 ∧ unitsOfOne = 2 ^ e := ⟨1074, rfl, by decide +kernel⟩
  obtain ⟨t, ht⟩ : ∃ t, t = 2045 := ⟨_, rfl⟩
  have hpower : (2 : ℚ) ^ 1024 * 2 ^ e = 2 ^ 53 * 2 ^ t := by
    have hsum : 1024 + e = 53 + t := by omega
    rw [← pow_add, ← pow_add, hsum]
  have hhalf : (2 : ℚ) ^ 970 * 2 ^ e * 2 = 2 ^ t := by
    have hsum : 970 + e + 1 = t := by omega
    rw [← pow_add, ← pow_succ, hsum]
  refine ⟨2 ^ t, by rw [ht], ?_⟩
  rw [limit, hone, Nat.cast_pow, Nat.cast_pow, Nat.cast_ofNat, sub_mul, hpower, ← hhalf]
  generalize (2 : ℚ) ^ 970 * 2 ^ e = half
  ring

theorem isFinite_ofUnits_iff_lt_limit (hden : 0 < den) (num : Nat) (negative : Bool) :
    (ofUnits negative num den).isFinite = true ↔
      |(signed negative num / (den * unitsOfOne) : ℚ)| < limit := by
  have hpos : (0 : ℚ) < den := Nat.cast_pos.mpr hden
  have hscale : (0 : ℚ) < den * unitsOfOne := mul_pos hpos (Nat.cast_pos.mpr unitsOfOne_pos)
  have hmagnitude : |(signed negative num : ℚ)| = num := by
    cases negative <;> simp [signed]
  obtain ⟨top, htop, hlimit⟩ := exists_top
  rw [isFinite_ofUnits_iff hden, htop, abs_div, abs_of_pos hscale, div_lt_iff₀ hscale, hmagnitude,
    ← Nat.cast_lt (α := ℚ)]
  push_cast
  have hscaled : 2 * (9007199254740992 * (den * top : ℚ)) =
      2 * (limit * (den * unitsOfOne)) + den * top := by
    calc 2 * (9007199254740992 * (den * top : ℚ)) = den * (2 * (2 ^ 53 * top)) := by ring
      _ = den * (2 * (limit * unitsOfOne) + top) := by rw [hlimit]
      _ = 2 * (limit * (den * unitsOfOne)) + den * top := by ring
  rw [hscaled, add_lt_add_iff_right, mul_lt_mul_iff_right₀ two_pos]

end Double

namespace Numeral

open Double

/-- The fraction that a numeral writes. -/
def toRat (n : Numeral) : ℚ := Decimal.signed n.negative n.coeff * (10 : ℚ) ^ n.exponent

theorem toDouble_eq_ofUnits (n : Numeral) :
    n.toDouble = ofUnits n.negative (n.coeff * 10 ^ n.exponent.toNat * unitsOfOne)
      (10 ^ (-n.exponent).toNat) := by
  rw [toDouble_eq, ofScientific_eq]

theorem toRat_eq (n : Numeral) :
    n.toRat = Decimal.signed n.negative (n.coeff * 10 ^ n.exponent.toNat * unitsOfOne) /
      ((10 ^ (-n.exponent).toNat : Nat) * unitsOfOne : ℚ) := by
  have hone : (unitsOfOne : ℚ) ≠ 0 := Nat.cast_ne_zero.mpr unitsOfOne_pos.ne'
  rw [toRat, Decimal.signed_mul, Decimal.signed_mul]
  push_cast
  rw [mul_div_mul_right _ _ hone, mul_div_assoc]
  congr 1
  cases n.exponent with
  | ofNat e =>
      have hneg : (-Int.ofNat e).toNat = 0 := by simp
      rw [hneg, pow_zero, div_one, Int.ofNat_eq_natCast, zpow_natCast, Int.toNat_natCast]
  | negSucc e =>
      have hneg : (-Int.negSucc e).toNat = e + 1 := rfl
      have hpos : (Int.negSucc e).toNat = 0 := rfl
      rw [hneg, hpos, pow_zero, one_div, zpow_negSucc]

/-- A numeral is rounded to the nearest number as long as there is one, with its sign. -/
theorem toDouble_rounded (n : Numeral) :
    (n.toDouble.isFinite = true ↔ |n.toRat| < limit) ∧
      (n.toDouble.isFinite = true → n.toDouble.IsNearest n.toRat) ∧
      n.toDouble.isNegative = n.negative := by
  have hden : 0 < 10 ^ (-n.exponent).toNat := Nat.pow_pos (by decide)
  rw [toDouble_eq_ofUnits, toRat_eq]
  exact ⟨isFinite_ofUnits_iff_lt_limit hden _ _, isNearest_ofUnits hden, isNegative_ofUnits _ _ _⟩

end Numeral

end AlertRules
