import AlertRules.Comparison.Membership
import AlertRules.Proofs.Number.Exact

/-!
The keys of whole numbers.

A whole number is keyed by the integer it is, whatever kind of number it is and however
large. A number that is no whole one is keyed by a floating-point number, and for a
decimal number that is the nearest one, which may be whole: then the key is that of an
integer which the number does not equal (`Meets`). No other key is shared
(`MemberKey.same_whole_iff`). Integers and floating-point numbers are never in this case,
and decimal numbers that are whole are not either.
-/

namespace AlertRules

namespace Value

/-- Whether a value is a number. Truth values are none. -/
def IsNumber : Value → Prop
  | .int _ | .float _ | .decimal _ => True
  | _ => False

/-- The fraction that a number is, if it is finite. -/
def toRat? : Value → Option ℚ
  | .int i => some i
  | .float x => x.toRat?
  | .decimal d => d.toRat?
  | _ => none

/-- A decimal number that is not whole and is taken for an integer, because the
floating-point number nearest to it is that integer. -/
def Meets (v : Value) (i : Int) : Prop :=
  ∃ d x, v = .decimal d ∧ (∀ j : Int, v.toRat? ≠ some (j : ℚ)) ∧
    d.toDouble? = some x ∧ x.toRat? = some (i : ℚ)

theorem Meets.not_whole {v : Value} {i : Int} (h : v.Meets i) (j : Int) :
    v.toRat? ≠ some (j : ℚ) := by
  obtain ⟨d, x, -, hnone, -⟩ := h
  exact hnone j

theorem not_meets {v : Value} {i : Int} (h : ∀ d, v ≠ .decimal d) : ¬v.Meets i := by
  rintro ⟨d, x, hd, -⟩
  exact h d hd

end Value

namespace NumberKey

variable {i : Int} {x : Double}

theorem same_whole {j : Int} : (whole i).same (whole j) = true ↔ j = i := by
  have hsame : (whole i).same (whole j) = (i == j) := rfl
  rw [hsame, beq_iff_eq, eq_comm]

theorem same_float : (whole i).same (float x) = true ↔ x.toRat? = some (i : ℚ) := by
  have hsame : (whole i).same (float x) = (x.toInt? == some i) := rfl
  rw [hsame, beq_iff_eq, Double.toInt?_eq_some_iff]

/-- A floating-point number is keyed as the integer it is or as itself, and either way the
key is that of an integer only if the number is that integer. -/
theorem same_ofDouble : (whole i).same (ofDouble x) = true ↔ x.toRat? = some (i : ℚ) := by
  unfold ofDouble
  cases hwhole : x.toInt? with
  | none => exact same_float
  | some j =>
      rw [same_whole, ← Double.toInt?_eq_some_iff, hwhole, Option.some.injEq]

end NumberKey

namespace MemberKey

open Value

variable {v w : Value} {i : Int}

theorem ofValue_whole (h : v.toRat? = some (i : ℚ)) : ofValue v = .number (.whole i) := by
  cases v with
  | int j =>
      have hj : j = i := by exact_mod_cast Option.some.inj h
      rw [ofValue, hj]
  | float x => rw [ofValue, NumberKey.ofDouble, Double.toInt?_eq_some_iff.mpr h]
  | decimal d => rw [ofValue, NumberKey.ofDecimal, Decimal.toInt?_eq_some_iff.mpr h]
  | _ => cases h

/-- The key of a whole number is that of the numbers which equal it, and of the decimal numbers
that meet it. -/
theorem same_whole_iff (hv : v.toRat? = some (i : ℚ)) (hw : w.IsNumber) :
    (ofValue v).same (ofValue w) = true ↔ w.toRat? = some (i : ℚ) ∨ w.Meets i := by
  have hkey : ∀ k : NumberKey, (ofValue v).same (.number k) = (NumberKey.whole i).same k := by
    intro k
    rw [ofValue_whole hv]
    rfl
  cases w with
  | int j =>
      have hmeets : ¬(Value.int j).Meets i := not_meets nofun
      rw [ofValue, hkey, NumberKey.same_whole, or_iff_left hmeets, Value.toRat?,
        Option.some.injEq, Int.cast_inj]
  | float x =>
      have hmeets : ¬(Value.float x).Meets i := not_meets nofun
      rw [ofValue, hkey, NumberKey.same_ofDouble, or_iff_left hmeets]
      rfl
  | decimal d =>
      rw [ofValue, hkey, NumberKey.ofDecimal]
      cases hwhole : d.toInt? with
      | some j =>
          have hrat : (Value.decimal d).toRat? = some (j : ℚ) :=
            Decimal.toInt?_eq_some_iff.mp hwhole
          rw [NumberKey.same_whole, or_iff_left (fun h => h.not_whole j hrat), hrat,
            Option.some.injEq, Int.cast_inj]
      | none =>
          have hnone : ∀ j : Int, (Value.decimal d).toRat? ≠ some (j : ℚ) := by
            intro j hj
            cases hwhole.symm.trans (Decimal.toInt?_eq_some_iff.mpr hj)
          rw [or_iff_right (hnone i)]
          constructor
          · intro hsame
            cases hnearest : d.toDouble? with
            | none => simp [hnearest, NumberKey.same] at hsame
            | some x =>
                rw [hnearest] at hsame
                exact ⟨d, x, rfl, hnone, hnearest, NumberKey.same_float.mp hsame⟩
          · rintro ⟨d', x, hd, -, hnearest, hrat⟩
            cases hd
            rw [hnearest]
            exact NumberKey.same_float.mpr hrat
  | _ => cases hw

/-- An identifier above `2 ^ 53` has the key of its decimal form and of no neighbour. -/
theorem same_whole_neighbours :
    let n : Int := 9007199254740993
    (ofValue (.int n)).same (ofValue (.decimal (.finite false 9007199254740993000 (-3)))) = true ∧
      (ofValue (.int n)).same (ofValue (.int 9007199254740992)) = false := by
  intro n
  have hn : (Value.int n).toRat? = some (n : ℚ) := rfl
  have hwhole : (Decimal.finite false 9007199254740993000 (-3)).toInt? = some n := by
    decide +kernel
  have hdecimal : (Value.decimal (.finite false 9007199254740993000 (-3))).IsNumber := trivial
  have hneighbour : (Value.int 9007199254740992).IsNumber := trivial
  have hmeets : ¬(Value.int 9007199254740992).Meets n := not_meets nofun
  refine ⟨(same_whole_iff hn hdecimal).mpr (.inl (Decimal.toInt?_eq_some_iff.mp hwhole)), ?_⟩
  rw [Bool.eq_false_iff, ne_eq, same_whole_iff hn hneighbour, or_iff_left hmeets, Value.toRat?,
    Option.some.injEq, Int.cast_inj]
  decide

/-- A little more than one has the key of one, and is found in a list where one is looked
for. So does a fraction between two large integers. -/
theorem fraction_keyed_as_one :
    let little : Value := .decimal (.finite false 100000000000000000001 (-20))
    let between : Value := .decimal (.finite false 90071992547409935 (-1))
    little.toRat? ≠ some ((1 : Int) : ℚ) ∧ memberOf (ofValue (.int 1)) [little] = .ok true ∧
      between.toRat? ≠ some ((9007199254740994 : Int) : ℚ) ∧
      memberOf (ofValue (.int 9007199254740994)) [between] = .ok true := by
  intro little between
  have hlittle : (Decimal.finite false 100000000000000000001 (-20)).toInt? = none := by
    decide +kernel
  have hbetween : (Decimal.finite false 90071992547409935 (-1)).toInt? = none := by
    decide +kernel
  refine ⟨fun h => ?_, by decide +kernel, fun h => ?_, by decide +kernel⟩
  · cases hlittle.symm.trans (Decimal.toInt?_eq_some_iff.mpr h)
  · cases hbetween.symm.trans (Decimal.toInt?_eq_some_iff.mpr h)

end MemberKey

end AlertRules
