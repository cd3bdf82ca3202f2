import AlertRules.Proofs.Number.Ages

/-!
Rounding keeps order.

The number nearest to a whole number of units is a multiple of a power of two,
the grid of the number. On one grid rounding keeps the order of what is rounded, and
a number on a coarser grid is above all that a finer one holds. So of two integers
the greater one is never rounded to the smaller number (`units_ofInt_mono`), though
both may be rounded to one. None up to `2 ^ 53` is rounded at all (`units_ofInt`).
-/

namespace AlertRules.Double

open Decimal (signed)

theorem roundDiv_mono {m n : Nat} (h : m ≤ n) (den : Nat) : roundDiv m den ≤ roundDiv n den := by
  have hquot : m / den ≤ n / den := Nat.div_le_div_right h
  have hup : ∀ num, roundDiv num den ≤ num / den + 1 := by
    intro num
    unfold roundDiv
    dsimp only
    split
    · exact Nat.le_refl _
    · exact Nat.le_succ _
  rcases Nat.eq_or_lt_of_le hquot with hsame | hless
  · have hm := Nat.div_add_mod m den
    have hn := Nat.div_add_mod n den
    have hrem : m % den ≤ n % den := by
      rw [hsame] at hm
      omega
    unfold roundDiv
    simp only [hsame]
    split
    next hround =>
        rw [if_pos]
        rcases hround with hmore | ⟨hhalf, hodd⟩
        · exact .inl (by omega)
        · rcases Nat.eq_or_lt_of_le hrem with heq | hlt
          · exact .inr ⟨by omega, hodd⟩
          · exact .inl (by omega)
    next =>
        split
        · exact Nat.le_succ _
        · exact Nat.le_refl _
  · calc roundDiv m den ≤ m / den + 1 := hup m
      _ ≤ n / den := hless
      _ ≤ roundDiv n den := div_le_roundDiv n den

theorem roundDiv_mul_self {den : Nat} (hden : 0 < den) (m : Nat) : roundDiv (m * den) den = m := by
  refine roundDiv_eq ?_ ?_
  · rw [Nat.mul_assoc]
    omega
  · rw [Nat.mul_assoc]
    omega

/-- The power of two on whose grid a number of units is rounded. -/
def grid (n : Nat) : Nat := n.log2 - 52

def rounded (n : Nat) : Nat := roundDiv n (2 ^ grid n) * 2 ^ grid n

theorem lt_grid (n : Nat) : n < 2 ^ 53 * 2 ^ grid n := by
  have hlog : n < 2 ^ (n.log2 + 1) := Nat.lt_log2_self
  refine Nat.lt_of_lt_of_le hlog ?_
  rw [← Nat.pow_add]
  refine Nat.pow_le_pow_right (by decide) ?_
  unfold grid
  omega

theorem grid_le {n : Nat} (h : 0 < grid n) : 2 ^ 52 * 2 ^ grid n ≤ n := by
  have hlog : n.log2 = 52 + grid n := by
    unfold grid at h ⊢
    omega
  have hne : n ≠ 0 := by
    rintro rfl
    exact absurd h (by decide)
  rw [← Nat.pow_add, ← hlog]
  exact Nat.log2_self_le hne

theorem lt_grid_mul {den : Nat} (hden : 0 < den) (num : Nat) :
    num < 2 ^ 53 * (den * 2 ^ grid (num / den)) := by
  have hlt := (Nat.div_lt_iff_lt_mul hden).mp (lt_grid (num / den))
  rwa [Nat.mul_assoc, Nat.mul_comm _ den] at hlt

theorem grid_mul_le {num den : Nat} (hden : 0 < den) (h : 0 < grid (num / den)) :
    2 ^ 52 * (den * 2 ^ grid (num / den)) ≤ num := by
  have hle := (Nat.le_div_iff_mul_le hden).mp (grid_le h)
  rwa [Nat.mul_assoc, Nat.mul_comm _ den] at hle

/-- The significand that a fraction of units is rounded to on its grid. -/
def mantissa (num den : Nat) : Nat := roundDiv num (den * 2 ^ grid (num / den))

theorem mantissa_one (n : Nat) : mantissa n 1 = roundDiv n (2 ^ grid n) := by
  rw [mantissa, Nat.div_one, Nat.one_mul]

/-- A fraction has at most 53 bits on its grid, or is rounded to the one number above these. -/
theorem mantissa_le {den : Nat} (hden : 0 < den) (num : Nat) : mantissa num den ≤ 2 ^ 53 := by
  have hstep : 0 < den * 2 ^ grid (num / den) := Nat.mul_pos hden (Nat.two_pow_pos _)
  calc mantissa num den
      ≤ roundDiv (2 ^ 53 * (den * 2 ^ grid (num / den))) (den * 2 ^ grid (num / den)) :=
        roundDiv_mono (Nat.le_of_lt (lt_grid_mul hden num)) _
    _ = 2 ^ 53 := roundDiv_mul_self hstep _

theorem le_mantissa {num den : Nat} (hden : 0 < den) (h : 0 < grid (num / den)) :
    2 ^ 52 ≤ mantissa num den := by
  have hstep : 0 < den * 2 ^ grid (num / den) := Nat.mul_pos hden (Nat.two_pow_pos _)
  calc 2 ^ 52 = roundDiv (2 ^ 52 * (den * 2 ^ grid (num / den))) (den * 2 ^ grid (num / den)) :=
        (roundDiv_mul_self hstep _).symm
    _ ≤ mantissa num den := roundDiv_mono (grid_mul_le hden h) _

theorem grid_eq_zero_or {den : Nat} (hden : 0 < den) (num : Nat) :
    grid (num / den) = 0 ∨ 2 ^ 52 ≤ mantissa num den := by
  rcases Nat.eq_zero_or_pos (grid (num / den)) with hzero | hpos
  · exact .inl hzero
  · exact .inr (le_mantissa hden hpos)

/-- The least number of a coarser grid is above all that a finer grid holds. -/
theorem finer_le {g g' : Nat} (h : g < g') : 2 ^ 53 * 2 ^ g ≤ 2 ^ 52 * 2 ^ g' := by
  calc 2 ^ 53 * 2 ^ g = 2 ^ 52 * 2 ^ (g + 1) := by
        rw [← Nat.pow_add, ← Nat.pow_add]
        congr 1
        omega
    _ ≤ 2 ^ 52 * 2 ^ g' := Nat.mul_le_mul_left _ (Nat.pow_le_pow_right (by decide) h)

theorem Canonical.unique {mant shift mant' shift' : Nat} (h : Canonical mant shift)
    (h' : Canonical mant' shift') (heq : mant * 2 ^ shift = mant' * 2 ^ shift') :
    mant = mant' ∧ shift = shift' := by
  -- of two shifts the greater one is of a number above all that have the other
  have hle : ∀ {m k m' k' : Nat}, m < 9007199254740992 → Canonical m' k' →
      m * 2 ^ k = m' * 2 ^ k' → k' ≤ k := by
    intro m k m' k' hm hm' heq
    by_contra hless
    rw [Nat.not_le] at hless
    have hfull : 4503599627370496 ≤ m' := hm'.2.1.resolve_left (Nat.ne_zero_of_lt hless)
    have hfine := Nat.mul_lt_mul_of_pos_right hm (Nat.two_pow_pos k)
    have hcoarse := Nat.mul_le_mul_right (2 ^ k') hfull
    have hbetween := finer_le hless
    omega
  obtain rfl : shift = shift' := Nat.le_antisymm (hle h'.1 h heq.symm) (hle h.1 h' heq)
  exact ⟨Nat.eq_of_mul_eq_mul_right (Nat.two_pow_pos shift) heq, rfl⟩

theorem grid_mono {m n : Nat} (h : m ≤ n) : grid m ≤ grid n := by
  by_contra hless
  rw [Nat.not_le] at hless
  have hcoarse := grid_le (Nat.zero_lt_of_lt hless)
  have hfine := lt_grid n
  have hbetween := finer_le hless
  omega

theorem rounded_eq (n : Nat) : rounded n = mantissa n 1 * 2 ^ grid n := by
  rw [rounded, mantissa_one]

theorem rounded_mono {m n : Nat} (h : m ≤ n) : rounded m ≤ rounded n := by
  rcases Nat.eq_or_lt_of_le (grid_mono h) with hsame | hfiner
  · unfold rounded
    rw [hsame]
    exact Nat.mul_le_mul_right _ (roundDiv_mono h _)
  · rw [rounded_eq, rounded_eq]
    have hcoarse : 0 < grid (n / 1) := by
      rw [Nat.div_one]
      exact Nat.zero_lt_of_lt hfiner
    calc mantissa m 1 * 2 ^ grid m ≤ 2 ^ 53 * 2 ^ grid m :=
          Nat.mul_le_mul_right _ (mantissa_le Nat.one_pos m)
      _ ≤ 2 ^ 52 * 2 ^ grid n := finer_le hfiner
      _ ≤ mantissa n 1 * 2 ^ grid n := Nat.mul_le_mul_right _ (le_mantissa Nat.one_pos hcoarse)

/-! ### Numbers of units -/

theorem ofUnits_eq_pack (negative : Bool) (num den : Nat) :
    ofUnits negative num den = pack negative (mantissa num den) (grid (num / den)) := by
  simp only [ofUnits, mantissa, grid, Nat.pow_eq]

theorem units_pack {negative : Bool} {mant shift : Nat}
    (h : (pack negative mant shift).isFinite = true) :
    (pack negative mant shift).units = signed negative (mant * 2 ^ shift) := by
  have hfinite : ∀ (m k : Nat) (hc : Canonical m k),
      (finite negative m k hc).units = signed negative (m * 2 ^ k) := by
    intro m k hc
    cases negative <;> rfl
  unfold pack at h ⊢
  split
  next hcanonical => exact hfinite mant shift hcanonical
  next hnot =>
      rw [dif_neg hnot] at h
      split
      next hcarry =>
          rw [hfinite, hcarry.1, Nat.pow_succ']
          congr 1
          ring
      next hout =>
          rw [dif_neg hout] at h
          cases h

/-- What is packed is in range as long as it is below the least number with 54 bits on the
coarsest grid. -/
theorem isFinite_pack {mant shift : Nat} (hle : mant ≤ 2 ^ 53)
    (hnormal : shift = 0 ∨ 2 ^ 52 ≤ mant) (negative : Bool) :
    (pack negative mant shift).isFinite = true ↔ mant * 2 ^ shift < 2 ^ 53 * 2 ^ 2045 := by
  obtain ⟨top, htop⟩ : ∃ top, top = 2045 := ⟨_, rfl⟩
  rw [← htop]
  unfold pack
  split
  next hcanonical =>
      refine iff_of_true rfl ?_
      calc mant * 2 ^ shift < 2 ^ 53 * 2 ^ shift :=
            Nat.mul_lt_mul_of_pos_right hcanonical.1 (Nat.two_pow_pos shift)
        _ ≤ 2 ^ 53 * 2 ^ top :=
            Nat.mul_le_mul_left _ (Nat.pow_le_pow_right (by decide) (htop ▸ hcanonical.2.2))
  next hnot =>
      split
      next hcarry =>
          refine iff_of_true rfl ?_
          rw [hcarry.1]
          exact Nat.mul_lt_mul_of_pos_left
            (Nat.pow_lt_pow_right (by decide) (htop ▸ hcarry.2)) (Nat.two_pow_pos 53)
      next hout =>
          refine iff_of_false Bool.false_ne_true (Nat.not_lt.mpr ?_)
          rcases Nat.eq_or_lt_of_le hle with hcarried | hless
          · rw [hcarried]
            have hshift : top ≤ shift := Nat.not_lt.mp fun h => hout ⟨hcarried, htop ▸ h⟩
            exact Nat.mul_le_mul_left _ (Nat.pow_le_pow_right (by decide) hshift)
          · have hshift : top < shift :=
              Nat.not_le.mp fun h => hnot ⟨hless, hnormal, h.trans_eq htop⟩
            have hfull : 2 ^ 52 ≤ mant :=
              hnormal.resolve_left (Nat.ne_of_gt (Nat.zero_lt_of_lt hshift))
            exact Nat.le_trans (finer_le hshift) (Nat.mul_le_mul_right _ hfull)

theorem units_ofUnits {negative : Bool} {num den : Nat}
    (h : (ofUnits negative num den).isFinite = true) :
    (ofUnits negative num den).units =
      signed negative (mantissa num den * 2 ^ grid (num / den)) := by
  rw [ofUnits_eq_pack] at h ⊢
  exact units_pack h

/-- A fraction of units is in range as long as what it is rounded to is. -/
theorem isFinite_ofUnits {den : Nat} (hden : 0 < den) (num : Nat) (negative : Bool) :
    (ofUnits negative num den).isFinite = true ↔
      mantissa num den * 2 ^ grid (num / den) < 2 ^ 53 * 2 ^ 2045 := by
  rw [ofUnits_eq_pack]
  exact isFinite_pack (mantissa_le hden num) (grid_eq_zero_or hden num) negative

/-! ### Integers -/

/-- The magnitude of an integer in units, before it is rounded. -/
def unitsOf (i : Int) : Nat := i.natAbs * unitsOfOne

theorem ofInt_eq (i : Int) : ofInt i = ofUnits (decide (i < 0)) (unitsOf i) 1 := rfl

theorem units_ofInt {i : Int} (h : (ofInt i).isFinite = true) :
    (ofInt i).units = if i < 0 then -(rounded (unitsOf i) : Int) else rounded (unitsOf i) := by
  rw [ofInt_eq] at h ⊢
  rw [units_ofUnits h, Nat.div_one, ← rounded_eq, signed]
  simp only [decide_eq_true_eq]

/-- The smaller of two integers is not rounded to the greater number. -/
theorem units_ofInt_mono {i j : Int} (hi : (ofInt i).isFinite = true)
    (hj : (ofInt j).isFinite = true) (h : i ≤ j) : (ofInt i).units ≤ (ofInt j).units := by
  rw [units_ofInt hi, units_ofInt hj]
  split
  next hneg =>
      split
      next hneg' =>
          have hmono : rounded (unitsOf j) ≤ rounded (unitsOf i) :=
            rounded_mono (Nat.mul_le_mul_right _ (by omega))
          omega
      next => omega
  next hpos =>
      rw [if_neg (by omega)]
      have hmono : rounded (unitsOf i) ≤ rounded (unitsOf j) :=
        rounded_mono (Nat.mul_le_mul_right _ (by omega))
      omega

theorem rounded_of_dvd {n : Nat} (h : 2 ^ grid n ∣ n) : rounded n = n := by
  obtain ⟨m, hm⟩ := h
  have hround : roundDiv n (2 ^ grid n) = m := by
    have hpos := Nat.two_pow_pos (grid n)
    generalize 2 ^ grid n = d at hm hpos
    rw [hm, Nat.mul_comm]
    exact roundDiv_mul_self hpos m
  rw [rounded, hround, Nat.mul_comm, ← hm]

/-- A number with at most 53 bits before its zeros is on its grid. -/
theorem rounded_mul_pow {k : Nat} (hk : k ≤ 2 ^ 53) (e : Nat) :
    rounded (k * 2 ^ e) = k * 2 ^ e := by
  refine rounded_of_dvd ?_
  rcases Nat.lt_or_ge e (grid (k * 2 ^ e)) with hcoarse | hfine
  · -- only the power of two that has 54 bits is on a coarser grid than its zeros
    have hleast := Nat.le_trans (finer_le hcoarse) (grid_le (Nat.zero_lt_of_lt hcoarse))
    have hpower : k = 2 ^ 53 :=
      Nat.le_antisymm hk (Nat.le_of_mul_le_mul_right hleast (Nat.two_pow_pos e))
    subst hpower
    have hgrid : grid (2 ^ 53 * 2 ^ e) = e + 1 := by
      by_contra hne
      have hleast := Nat.le_trans (finer_le (g := e + 1) (by omega))
        (grid_le (Nat.zero_lt_of_lt hcoarse))
      rw [Nat.pow_succ] at hleast
      have hpos := Nat.two_pow_pos e
      omega
    rw [hgrid, ← Nat.pow_add]
    exact Nat.pow_dvd_pow 2 (by omega)
  · exact Nat.dvd_mul_left_of_dvd (Nat.pow_dvd_pow 2 hfine) k

theorem exists_unitsOfOne : ∃ e, e < 2045 ∧ unitsOfOne = 2 ^ e :=
  ⟨1074, by decide, by decide +kernel⟩

theorem units_ofInt_small {i : Int} (h : i.natAbs ≤ 2 ^ 53) :
    (ofInt i).isFinite = true ∧ (ofInt i).units = i * unitsOfOne := by
  obtain ⟨e, he, hone⟩ := exists_unitsOfOne
  have hunits : unitsOf i = i.natAbs * 2 ^ e := by rw [unitsOf, hone]
  have hrounded : rounded (unitsOf i) = unitsOf i := by
    rw [hunits]
    exact rounded_mul_pow h e
  have hfinite : (ofInt i).isFinite = true := by
    rw [ofInt_eq, isFinite_ofUnits Nat.one_pos, Nat.div_one, ← rounded_eq, hrounded, hunits]
    generalize 2045 = top at he
    calc i.natAbs * 2 ^ e ≤ 2 ^ 53 * 2 ^ e := Nat.mul_le_mul_right _ h
      _ < 2 ^ 53 * 2 ^ top := Nat.mul_lt_mul_of_pos_left
          (Nat.pow_lt_pow_right (by decide) he) (Nat.two_pow_pos 53)
  refine ⟨hfinite, ?_⟩
  rw [units_ofInt hfinite, hrounded, unitsOf, Nat.cast_mul]
  split
  next hneg => rw [← Int.neg_mul, Int.ofNat_natAbs_of_nonpos (Int.le_of_lt hneg), Int.neg_neg]
  next hpos => rw [Int.natAbs_of_nonneg (Int.not_lt.mp hpos)]

end AlertRules.Double
