import AlertRules.Proofs.Number.Rounding
import AlertRules.Value.Order

/-!
Ages.

An age is the difference of two times, rounded. Rounding keeps the order to a number
that can be written: no fraction from such a number on is rounded to one below it
(`le_ofUnits`). So a rounded age is below a limit only if the exact one is
(`add_units_lt`).
-/

namespace AlertRules

namespace Double

theorem div_le_roundDiv (num den : Nat) : num / den ≤ roundDiv num den := by
  unfold roundDiv
  dsimp only
  split
  · exact Nat.le_succ _
  · exact Nat.le_refl _

/-- What is packed has the magnitude that it is given, or is infinite. -/
theorem pack_magnitude (mant shift : Nat) :
    pack false mant shift = .inf false ∨
      ∃ m k h, pack false mant shift = .finite false m k h ∧ m * 2 ^ k = mant * 2 ^ shift := by
  unfold pack
  split
  · rename_i hcanonical
    exact .inr ⟨mant, shift, hcanonical, rfl, rfl⟩
  · split
    · rename_i hcarry
      refine .inr ⟨4503599627370496, shift + 1, ⟨by decide, .inr (by decide), by omega⟩, rfl, ?_⟩
      rw [hcarry.1, Nat.pow_succ']
      ring
    · exact .inl rfl

/-- Rounding a fraction down to a number that can be written does not go below it. -/
theorem le_roundDiv_mul {mant shift num : Nat} (h : Canonical mant shift)
    (hle : mant * 2 ^ shift ≤ num) :
    mant * 2 ^ shift ≤ roundDiv num (2 ^ (num.log2 - 52)) * 2 ^ (num.log2 - 52) := by
  obtain ⟨hmant, hshift, -⟩ := h
  rcases Nat.eq_zero_or_pos (num.log2 - 52) with hfine | hcoarse
  · have hdiv := div_le_roundDiv num 1
    rw [Nat.div_one] at hdiv
    rw [hfine, Nat.pow_zero, Nat.mul_one]
    exact Nat.le_trans hle hdiv
  · -- `grid` is the shift of the result, whose significand is a full one
    obtain ⟨grid, hgrid⟩ : ∃ grid, num.log2 = 52 + grid := ⟨num.log2 - 52, by omega⟩
    have hne : num ≠ 0 := by
      rintro rfl
      exact absurd hcoarse (by decide)
    obtain ⟨hlow, hhigh⟩ := (Nat.log2_eq_iff hne).mp hgrid
    rw [hgrid, Nat.add_sub_cancel_left]
    have hdiv := div_le_roundDiv num (2 ^ grid)
    have hscaled := Nat.mul_le_mul_right (2 ^ grid) hdiv
    refine Nat.le_trans ?_ hscaled
    rcases Nat.lt_trichotomy shift grid with hlt | rfl | hgt
    · -- the number is below the least one on the grid
      have hquot : 2 ^ 52 ≤ num / 2 ^ grid := by
        rw [Nat.le_div_iff_mul_le (Nat.two_pow_pos grid), ← Nat.pow_add]
        exact hlow
      calc mant * 2 ^ shift ≤ 2 ^ 53 * 2 ^ shift := Nat.mul_le_mul_right _ (by omega)
        _ = 2 ^ 52 * 2 ^ (shift + 1) := by rw [Nat.pow_succ 2 shift]; ring
        _ ≤ 2 ^ 52 * 2 ^ grid := Nat.mul_le_mul_left _ (Nat.pow_le_pow_right (by decide) hlt)
        _ ≤ num / 2 ^ grid * 2 ^ grid := Nat.mul_le_mul_right _ hquot
    · exact Nat.mul_le_mul_right _ ((Nat.le_div_iff_mul_le (Nat.two_pow_pos shift)).mpr hle)
    · -- a number on a coarser grid is above the fraction
      exfalso
      have hmore : 2 ^ 52 * 2 ^ (grid + 1) ≤ mant * 2 ^ shift :=
        Nat.mul_le_mul (by omega) (Nat.pow_le_pow_right (by decide) hgt)
      have hsplit : 2 ^ (52 + grid + 1) = 2 ^ 52 * 2 ^ (grid + 1) := by
        rw [← Nat.pow_add, Nat.add_assoc]
      omega

/-- A fraction from a number on is rounded to that number or above. -/
theorem le_ofUnits {mant shift num : Nat} (h : Canonical mant shift)
    (hle : mant * 2 ^ shift ≤ num) :
    ofUnits false num 1 = .inf false ∨
      ∃ m k h', ofUnits false num 1 = .finite false m k h' ∧ mant * 2 ^ shift ≤ m * 2 ^ k := by
  have hround := le_roundDiv_mul h hle
  have hunits : ofUnits false num 1 =
      pack false (roundDiv num (2 ^ (num.log2 - 52))) (num.log2 - 52) := by
    simp only [ofUnits, Nat.div_one, Nat.one_mul, Nat.pow_eq]
  rw [hunits]
  rcases pack_magnitude (roundDiv num (2 ^ (num.log2 - 52))) (num.log2 - 52) with
    hinf | ⟨m, k, h', hfinite, heq⟩
  · exact .inl hinf
  · exact .inr ⟨m, k, h', hfinite, heq ▸ hround⟩

theorem quantity_finite {x : Double} (h : x.isFinite = true) :
    x.quantity = .ratio x.units unitsOfOne 0 := by
  cases x with
  | finite negative mant shift canonical => rfl
  | nan named => cases h
  | inf negative => cases h

theorem compare?_ratio {units : Nat} (hpos : 0 < units) (i j : Int) :
    (Quantity.ratio i units 0).compare? (.ratio j units 0) = some (compare i j) := by
  have hscale : (0 : Int) < units := Int.natCast_pos.mpr hpos
  have horder : compare (i * units) (j * units) = compare i j := by
    rcases Int.lt_trichotomy i j with h | rfl | h
    · rw [Int.compare_eq_lt.mpr h, Int.compare_eq_lt.mpr (Int.mul_lt_mul_of_pos_right h hscale)]
    · rw [Int.compare_eq_eq.mpr rfl, Int.compare_eq_eq.mpr rfl]
    · rw [Int.compare_eq_gt.mpr h, Int.compare_eq_gt.mpr (Int.mul_lt_mul_of_pos_right h hscale)]
  simp [Quantity.compare?, Quantity.scale, horder]

theorem compare?_units (i j : Int) :
    (Quantity.ratio i unitsOfOne 0).compare? (.ratio j unitsOfOne 0) = some (compare i j) :=
  compare?_ratio (by decide +kernel) i j

theorem add_of_units_zero {x y : Double} (hx : x.isFinite = true) (hy : y.isFinite = true)
    (h : x.units + y.units = 0) : (x.add y).isFinite = true ∧ (x.add y).units = 0 := by
  cases x with
  | finite a ma ka ha =>
      cases y with
      | finite b mb kb hb =>
          rw [add, if_pos h]
          cases a && b
          · exact ⟨rfl, rfl⟩
          · exact ⟨rfl, rfl⟩
      | nan named => cases hy
      | inf negative => cases hy
  | nan named => cases hx
  | inf negative => cases hx

theorem add_of_units_pos {x y : Double} (hx : x.isFinite = true) (hy : y.isFinite = true)
    (h : 0 < x.units + y.units) : x.add y = ofUnits false (x.units + y.units).natAbs 1 := by
  cases x with
  | finite a ma ka ha =>
      cases y with
      | finite b mb kb hb =>
          rw [add, if_neg (Int.ne_of_gt h), decide_eq_false (Int.not_lt.mpr (Int.le_of_lt h))]
      | nan named => cases hy
      | inf negative => cases hy
  | nan named => cases hx
  | inf negative => cases hx

theorem exists_canonical {x : Double} (hx : x.isFinite = true) (hpos : 0 ≤ x.units) :
    ∃ mant shift, ∃ _ : Canonical mant shift, x.units = ((mant * 2 ^ shift : Nat) : Int) := by
  cases x with
  | finite negative mant shift canonical =>
      refine ⟨mant, shift, canonical, ?_⟩
      cases negative with
      | false => rfl
      | true =>
          have hneg : (finite true mant shift canonical).units =
            -((mant * 2 ^ shift : Nat) : Int) := rfl
          omega
  | nan named => cases hx
  | inf negative => cases hx

theorem add_units_lt {x y limit : Double} (hx : x.isFinite = true) (hy : y.isFinite = true)
    (hlimit : limit.isFinite = true) (hpos : 0 ≤ limit.units)
    (h : (x.add y).quantity.compare? limit.quantity = some .lt) :
    x.units + y.units < limit.units := by
  by_contra hge
  rw [Int.not_lt] at hge
  rw [quantity_finite hlimit] at h
  rcases Int.lt_or_eq_of_le (Int.le_trans hpos hge) with hsum | hzero
  · rw [add_of_units_pos hx hy hsum] at h
    obtain ⟨mant, shift, canonical, hmagnitude⟩ := exists_canonical hlimit hpos
    have hle : mant * 2 ^ shift ≤ (x.units + y.units).natAbs := by omega
    rcases le_ofUnits canonical hle with hinf | ⟨m, k, h', hfinite, hmore⟩
    · rw [hinf] at h
      cases h
    · have hunits : (finite false m k h').units = ((m * 2 ^ k : Nat) : Int) := rfl
      rw [hfinite, quantity_finite rfl, compare?_units, Option.some_inj, Int.compare_eq_lt,
        hunits, hmagnitude] at h
      omega
  · obtain ⟨hfinite, hunits⟩ := add_of_units_zero hx hy hzero.symm
    rw [quantity_finite hfinite, compare?_units, Option.some_inj, Int.compare_eq_lt, hunits] at h
    omega

end Double

theorem Value.less_float (x y : Double) :
    (Value.float x).less (.float y) = .ok (x.quantity.compare? y.quantity == some .lt) := by
  simp only [less, ordered, Bool.false_eq_true, if_false, scalarLess, quantity?]
  cases x.quantity.compare? y.quantity with
  | none => rfl
  | some order => rfl

end AlertRules
