import AlertRules.Number.Shortest
import Mathlib.Tactic.Linarith
import Mathlib.Tactic.Ring

/-!
Rounding to the nearest floating-point number.

`ofUnits` depends on the fraction it is given and not on how the fraction
is written (`ofUnits_congr`), and it gives back a number from every
fraction that is close enough to it (`ofUnits_near`). Close enough is a
relative distance below `2 ^ (-54)`. That is half the distance to the
lower neighbour of a power of two, where the neighbours are closest, so
one bound serves every number; the price is the case of a power of two
approached from below, whose fraction is rounded on the finer grid of
the numbers under it and carried up again by `pack`.
-/

namespace AlertRules.Double

/-! ### Rounding a quotient -/

theorem roundDiv_mul_left {k den : Nat} (hk : 0 < k) (num : Nat) :
    roundDiv (k * num) (k * den) = roundDiv num den := by
  have hquot : k * num / (k * den) = num / den := Nat.mul_div_mul_left num den hk
  have hrem : k * num % (k * den) = k * (num % den) := Nat.mul_mod_mul_left k num den
  have hlt : k * den < 2 * (k * (num % den)) ↔ den < 2 * (num % den) := by
    rw [show 2 * (k * (num % den)) = k * (2 * (num % den)) by ring]
    exact Nat.mul_lt_mul_left hk
  have heq : 2 * (k * (num % den)) = k * den ↔ 2 * (num % den) = den := by
    rw [show 2 * (k * (num % den)) = k * (2 * (num % den)) by ring]
    exact Nat.mul_right_inj hk.ne'
  simp only [roundDiv, hquot, hrem, hlt, heq]

/-- A quotient less than a half away from a natural number is rounded to
it. -/
theorem roundDiv_eq {num den m : Nat} (below : 2 * m * den < 2 * num + den)
    (above : 2 * num < 2 * m * den + den) : roundDiv num den = m := by
  have hden : 0 < den := by
    rcases Nat.eq_zero_or_pos den with rfl | h
    · omega
    · exact h
  have hdiv := Nat.div_add_mod num den
  have hmod := Nat.mod_lt num hden
  rcases Nat.lt_or_ge num (m * den) with h | h
  · -- `m` is the number above
    obtain ⟨k, rfl⟩ : ∃ k, m = k + 1 := ⟨m - 1, by
      rcases m with - | k
      · omega
      · rfl⟩
    have hquot : num / den = k := by
      refine Nat.div_eq_of_lt_le ?_ h
      nlinarith
    rw [hquot] at hdiv
    have htwice : den < 2 * (num % den) := by nlinarith
    simp [roundDiv, hquot, htwice]
  · have hquot : num / den = m := by
      refine Nat.div_eq_of_lt_le h ?_
      nlinarith
    rw [hquot] at hdiv
    have htwice : 2 * (num % den) < den := by nlinarith
    have hnot : ¬(den < 2 * (num % den) ∨ 2 * (num % den) = den ∧ m % 2 = 1) := by omega
    simp [roundDiv, hquot, hnot]

/-! ### The nearest number -/

theorem ofUnits_mul_left {k den : Nat} (hk : 0 < k) (negative : Bool) (num : Nat) :
    ofUnits negative (k * num) (k * den) = ofUnits negative num den := by
  simp only [ofUnits, Nat.mul_div_mul_left num den hk, Nat.mul_assoc, roundDiv_mul_left hk]

theorem ofUnits_congr {num den num' den' : Nat} (hden : 0 < den) (hden' : 0 < den')
    (h : num * den' = num' * den) (negative : Bool) :
    ofUnits negative num den = ofUnits negative num' den' := by
  calc ofUnits negative num den
      = ofUnits negative (den' * num) (den' * den) := (ofUnits_mul_left hden' negative num).symm
    _ = ofUnits negative (den * num') (den * den') := by
        rw [show den' * num = den * num' by linarith, Nat.mul_comm den' den]
    _ = ofUnits negative num' den' := ofUnits_mul_left hden negative num'

theorem log2_div_eq {num den k : Nat} (hden : 0 < den) (low : 2 ^ k * den ≤ num)
    (high : num < 2 ^ (k + 1) * den) : (num / den).log2 = k := by
  have hle : 2 ^ k ≤ num / den := (Nat.le_div_iff_mul_le hden).mpr low
  have hne : num / den ≠ 0 := by
    have := Nat.two_pow_pos k
    omega
  refine (Nat.log2_eq_iff hne).mpr ⟨hle, ?_⟩
  exact (Nat.div_lt_iff_lt_mul hden).mpr high

theorem pack_canonical {mant shift : Nat} (h : Canonical mant shift) (negative : Bool) :
    pack negative mant shift = .finite negative mant shift h := dif_pos h

theorem pack_carry {shift : Nat} (h : Canonical 4503599627370496 (shift + 1)) (negative : Bool) :
    pack negative 9007199254740992 shift = .finite negative 4503599627370496 (shift + 1) h := by
  have hbound : shift < 2045 := by
    have := h.2.2
    omega
  have hnot : ¬Canonical 9007199254740992 shift := by
    intro hcanonical
    exact absurd hcanonical.1 (Nat.lt_irrefl _)
  rw [pack, dif_neg hnot, dif_pos ⟨rfl, hbound⟩]

/-- A fraction closer to a number than a part in `2 ^ 54` is rounded to
it. -/
theorem ofUnits_near {mant shift num den : Nat} (h : Canonical mant shift) (hden : 0 < den)
    (below : 18014398509481983 * (mant * 2 ^ shift * den) < 18014398509481984 * num)
    (above : 18014398509481984 * num < 18014398509481985 * (mant * 2 ^ shift * den))
    (negative : Bool) : ofUnits negative num den = .finite negative mant shift h := by
  obtain ⟨hmant, hshift, hmax⟩ := h
  rcases shift with - | s
  · -- the finest grid has no finer one under it
    have hfine : (num / den).log2 - 52 = 0 := by
      have hlt : num / den < 2 ^ 53 := by
        rw [Nat.div_lt_iff_lt_mul hden]
        nlinarith
      rcases Nat.eq_zero_or_pos (num / den) with hzero | hpos
      · rw [hzero]
        rfl
      · have := (Nat.log2_lt hpos.ne').mpr hlt
        omega
    have hround : roundDiv num (den * Nat.pow 2 0) = mant := by
      rw [show den * Nat.pow 2 0 = den from Nat.mul_one den]
      exact roundDiv_eq (by nlinarith) (by nlinarith)
    simp only [ofUnits, hfine, hround]
    exact pack_canonical _ negative
  · have hnormal : 4503599627370496 ≤ mant := by omega
    -- `d` is the grid of the numbers under a power of two, `2 * d` that of those above it
    obtain ⟨d, hd⟩ : ∃ d, d = den * 2 ^ s := ⟨_, rfl⟩
    have hd_pos : 0 < d := by
      rw [hd]
      exact Nat.mul_pos hden (Nat.two_pow_pos s)
    have hscaled : mant * 2 ^ (s + 1) * den = 2 * (mant * d) := by
      rw [hd]
      ring
    rw [hscaled] at below above
    have hlow : 4503599627370496 * d ≤ mant * d := Nat.mul_le_mul_right d hnormal
    have hhigh : mant * d + d ≤ 9007199254740992 * d := by
      rw [← Nat.succ_mul]
      exact Nat.mul_le_mul_right d hmant
    rcases Nat.lt_or_ge num (9007199254740992 * d) with hunder | hover
    · -- a power of two that is approached from below
      have hpower : mant = 4503599627370496 := by
        by_contra hne
        have hmore : 4503599627370497 * d ≤ mant * d := Nat.mul_le_mul_right d (by omega)
        omega
      subst hpower
      have hlog : (num / den).log2 = 52 + s := by
        refine log2_div_eq hden ?_ ?_
        · rw [show 2 ^ (52 + s) * den = 4503599627370496 * d by rw [hd]; ring]
          omega
        · rw [show 2 ^ (52 + s + 1) * den = 9007199254740992 * d by rw [hd]; ring]
          exact hunder
      have hround : roundDiv num (den * Nat.pow 2 s) = 9007199254740992 := by
        rw [show den * Nat.pow 2 s = d from hd.symm]
        exact roundDiv_eq (by omega) (by omega)
      simp only [ofUnits, hlog, Nat.add_sub_cancel_left, hround]
      exact pack_carry _ negative
    · have hlog : (num / den).log2 = 52 + (s + 1) := by
        refine log2_div_eq hden ?_ ?_
        · rw [show 2 ^ (52 + (s + 1)) * den = 9007199254740992 * d by rw [hd]; ring]
          exact hover
        · rw [show 2 ^ (52 + (s + 1) + 1) * den = 18014398509481984 * d by rw [hd]; ring]
          omega
      have hround : roundDiv num (den * Nat.pow 2 (s + 1)) = mant := by
        rw [show den * Nat.pow 2 (s + 1) = 2 * d by rw [hd, Nat.pow_eq]; ring]
        refine roundDiv_eq ?_ ?_
        · rw [show 2 * mant * (2 * d) = 4 * (mant * d) by ring]
          omega
        · rw [show 2 * mant * (2 * d) = 4 * (mant * d) by ring]
          omega
      simp only [ofUnits, hlog, Nat.add_sub_cancel_left, hround]
      exact pack_canonical _ negative

theorem ofUnits_sign {num den mant shift : Nat} {negative : Bool} {h : Canonical mant shift}
    (hround : ofUnits negative num den = .finite negative mant shift h) (sign : Bool) :
    ofUnits sign num den = .finite sign mant shift h := by
  simp only [ofUnits, pack] at hround ⊢
  split at hround
  · rename_i hcanonical
    rw [dif_pos hcanonical]
    cases hround
    rfl
  · rename_i hnot
    rw [dif_neg hnot]
    split at hround
    · rename_i hcarry
      rw [dif_pos hcarry]
      cases hround
      rfl
    · cases hround

end AlertRules.Double
