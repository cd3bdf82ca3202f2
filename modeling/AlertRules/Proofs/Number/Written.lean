import AlertRules.Number.Numeral
import AlertRules.Proofs.Number.Rounding
import Mathlib.Data.List.Basic

/-!
The written form of a number reads back to the number.

`shortest` stops at the first grid with a neighbour that reads back, so
all there is to prove about it is that it stops: on the grid of seventeen
digits the nearer neighbour is within half a step of the number, a step
is at most a part in `10 ^ 16` of it, and that is close enough for
`ofUnits_near`. What follows is about layout: however digits are laid out,
they are the parts of a numeral of the same value (`exists_parts`), and the
numeral is read off the text by `Numeral.read?`.

The main statement, `read?_text`, says so for every finite number. A
number that has the written form of a finite one is therefore that number
(`eq_of_text_eq`).
-/

namespace AlertRules

namespace Numeral

/-! ### Reading digits -/

theorem asciiDigit?_of_isDigit {c : Char} (h : c.isDigit) :
    Text.asciiDigit? c = some (c.toNat - 48) := by
  have hrange : '0' ≤ c ∧ c ≤ '9' := by
    simpa [Char.isDigit, Char.le_def] using h
  simp [Text.asciiDigit?, hrange]

theorem spanDigits_map {α : Type} {digit? : Char → Option Nat} {char : α → Char}
    {value : α → Nat} {ds : List α} {rest : List Char}
    (hds : ∀ d ∈ ds, digit? (char d) = some (value d)) (hrest : ∀ c ∈ rest.head?, digit? c = none) :
    spanDigits digit? (ds.map char ++ rest) = (ds.map value, rest) := by
  induction ds with
  | nil =>
      cases rest with
      | nil => rfl
      | cons c rest => simp [spanDigits, hrest c rfl]
  | cons d ds ih =>
      have hd : digit? (char d) = some (value d) := hds d (by simp)
      have htail := ih fun d' hd' => hds d' (List.mem_cons_of_mem d hd')
      simp [spanDigits, hd, htail]

theorem spanDigits_append {ds rest : List Char} (hds : ∀ c ∈ ds, c.isDigit)
    (hrest : ∀ c ∈ rest.head?, Text.asciiDigit? c = none) :
    spanDigits Text.asciiDigit? (ds ++ rest) = (ds.map fun c => c.toNat - 48, rest) := by
  have hspan : spanDigits Text.asciiDigit? (ds.map id ++ rest) =
      (ds.map fun c => c.toNat - 48, rest) :=
    spanDigits_map (fun c hc => asciiDigit?_of_isDigit (hds c hc)) hrest
  rwa [List.map_id] at hspan

theorem spanDigits_all {ds : List Char} (hds : ∀ c ∈ ds, c.isDigit) :
    spanDigits Text.asciiDigit? ds = (ds.map fun c => c.toNat - 48, []) := by
  simpa using @spanDigits_append ds [] hds (by simp)

theorem ofDigits_map (ds : List Char) :
    ofDigits (ds.map fun c => c.toNat - 48) = Nat.ofDigitChars 10 ds 0 := by
  simp only [ofDigits, Nat.ofDigitChars_eq_foldl, List.foldl_map]
  rfl

theorem readDigits?_of_point {digit? : Char → Option Nat} {cs rest : List Char} {whole : List Nat}
    (h : spanDigits digit? cs = (whole, '.' :: rest)) :
    readDigits? digit? cs =
      if whole.isEmpty && (spanDigits digit? rest).1.isEmpty then none
      else some (whole, (spanDigits digit? rest).1, (spanDigits digit? rest).2) := by
  rw [readDigits?, h]
  rfl

theorem readDigits?_of_no_point {digit? : Char → Option Nat} {cs rest : List Char}
    {whole : List Nat} (h : spanDigits digit? cs = (whole, rest)) (hpoint : rest.head? ≠ some '.') :
    readDigits? digit? cs = if whole.isEmpty then none else some (whole, [], rest) := by
  rw [readDigits?, h]
  split
  next heq =>
      cases heq
      exact absurd rfl hpoint
  next heq =>
      cases heq
      rfl

theorem readDigits?_pointed {whole frac rest : List Char} (hwhole : ∀ c ∈ whole, c.isDigit)
    (hne : whole ≠ []) (hfrac : ∀ c ∈ frac, c.isDigit)
    (hrest : ∀ c ∈ rest.head?, Text.asciiDigit? c = none) :
    readDigits? Text.asciiDigit? (whole ++ '.' :: (frac ++ rest)) =
      some (whole.map fun c => c.toNat - 48, frac.map fun c => c.toNat - 48, rest) := by
  have hpoint : spanDigits Text.asciiDigit? (whole ++ '.' :: (frac ++ rest)) =
      (whole.map fun c => c.toNat - 48, '.' :: (frac ++ rest)) :=
    spanDigits_append hwhole (by simp [Text.asciiDigit?])
  have hempty : (whole.map fun c => c.toNat - 48).isEmpty = false := by simpa using hne
  rw [readDigits?_of_point hpoint]
  simp only [spanDigits_append hfrac hrest, hempty, Bool.false_and, Bool.false_eq_true, if_false]

theorem readDigits?_whole {whole rest : List Char} (hwhole : ∀ c ∈ whole, c.isDigit)
    (hne : whole ≠ []) (hrest : ∀ c ∈ rest.head?, Text.asciiDigit? c = none)
    (hpoint : rest.head? ≠ some '.') :
    readDigits? Text.asciiDigit? (whole ++ rest) =
      some (whole.map fun c => c.toNat - 48, [], rest) := by
  have hempty : (whole.map fun c => c.toNat - 48).isEmpty = false := by simpa using hne
  rw [readDigits?_of_no_point (spanDigits_append hwhole hrest) hpoint, hempty,
    if_neg Bool.false_ne_true]

theorem isDigit_of_mem_digitsOf {n : Nat} {c : Char} (h : c ∈ Double.digitsOf n) : c.isDigit :=
  Nat.isDigit_of_mem_toDigits (by decide) (by decide) h

theorem ne_of_isDigit {c d : Char} (hc : c.isDigit) (hd : d.isDigit = false) : c ≠ d := by
  rintro rfl
  rw [hc] at hd
  cases hd

theorem digitsOf_ne_nil (n : Nat) : Double.digitsOf n ≠ [] := Nat.toDigits_ne_nil

theorem ofDigitChars_digitsOf (n : Nat) : Nat.ofDigitChars 10 (Double.digitsOf n) 0 = n :=
  Nat.ofDigitChars_ten_toDigits

theorem ofDigitChars_zero_cons (ds : List Char) :
    Nat.ofDigitChars 10 ('0' :: ds) 0 = Nat.ofDigitChars 10 ds 0 := by
  simp [Nat.ofDigitChars_cons]

/-- The sign of an exponent is always written, and its digits may begin
with a zero. -/
theorem exists_exponentText (e : Int) :
    ∃ ds, Double.exponentText e = (if e < 0 then '-' else '+') :: ds ∧ ds ≠ [] ∧
      (∀ c ∈ ds, c.isDigit) ∧ Nat.ofDigitChars 10 ds 0 = e.natAbs := by
  have hdigits : ∀ c ∈ Double.digitsOf e.natAbs, c.isDigit := fun c hc => isDigit_of_mem_digitsOf hc
  refine ⟨_, rfl, ?_⟩
  split
  · refine ⟨List.cons_ne_nil _ _, List.forall_mem_cons.mpr ⟨rfl, hdigits⟩, ?_⟩
    rw [ofDigitChars_zero_cons, ofDigitChars_digitsOf]
  · exact ⟨digitsOf_ne_nil _, hdigits, ofDigitChars_digitsOf _⟩

theorem signed_natAbs (e : Int) :
    (if decide (e < 0) = true then -(e.natAbs : Int) else e.natAbs) = e := by
  by_cases h : e < 0
  · rw [if_pos (decide_eq_true h)]
    omega
  · rw [if_neg (by simpa using h)]
    omega

theorem spanSign_exponent (e : Int) (cs : List Char) :
    spanSign ((if e < 0 then '-' else '+') :: cs) = (decide (e < 0), cs) := by
  by_cases h : e < 0
  · simp only [h, if_true, spanSign, decide_true]
  · simp only [h, if_false, spanSign, decide_false]

theorem readExponent?_exponentText (e : Int) :
    readExponent? Text.asciiDigit? ('e' :: Double.exponentText e) = some e := by
  obtain ⟨ds, htext, hne, hdigits, hvalue⟩ := exists_exponentText e
  obtain ⟨d, ds', rfl⟩ := List.exists_cons_of_ne_nil hne
  have hspan := spanDigits_all hdigits
  have hnumber := ofDigits_map (d :: ds')
  rw [List.map_cons] at hspan hnumber
  simp only [readExponent?, htext, spanSign_exponent, hspan, hnumber, hvalue]
  rw [if_pos (by decide), signed_natAbs]

/-! ### Reading a whole numeral -/

/-- A numeral in parts: the digits before the point, those behind it if there are any,
and the power of ten if one is written. -/
structure Parts where
  whole : List Char
  frac : List Char := []
  power : Option Int := none

namespace Parts

def fracText (p : Parts) : List Char := if p.frac.isEmpty then [] else '.' :: p.frac

def powerText (p : Parts) : List Char :=
  match p.power with
  | some e => 'e' :: Double.exponentText e
  | none => []

def body (p : Parts) : List Char := p.whole ++ (p.fracText ++ p.powerText)

def coeff (p : Parts) : Nat := Nat.ofDigitChars 10 (p.whole ++ p.frac) 0

def exponent (p : Parts) : Int := p.power.getD 0 - p.frac.length

/-- Parts of a numeral that is no whole number, without needless zeros before it. -/
structure IsWritten (p : Parts) : Prop where
  whole_ne_nil : p.whole ≠ []
  whole_zero : p.whole.head? = some '0' → p.whole = ['0']
  isDigit_whole : ∀ c ∈ p.whole, c.isDigit
  isDigit_frac : ∀ c ∈ p.frac, c.isDigit
  broken : p.frac ≠ [] ∨ p.power.isSome

variable {p : Parts}

theorem IsWritten.exists_whole (h : p.IsWritten) :
    ∃ c cs, p.whole = c :: cs ∧ c.isDigit := by
  obtain ⟨c, cs, hcons⟩ := List.exists_cons_of_ne_nil h.whole_ne_nil
  exact ⟨c, cs, hcons, h.isDigit_whole c (by simp [hcons])⟩

theorem powerText_head (p : Parts) : ∀ c ∈ p.powerText.head?, c = 'e' := by
  rw [powerText]
  split
  · rintro _ ⟨⟩
    rfl
  · nofun

theorem readExponent?_powerText (p : Parts) :
    readExponent? Text.asciiDigit? p.powerText = some (p.power.getD 0) := by
  rw [powerText]
  cases p.power with
  | none => rfl
  | some e => exact readExponent?_exponentText e

theorem readDigits?_body (h : p.IsWritten) :
    readDigits? Text.asciiDigit? p.body =
      some (p.whole.map fun c => c.toNat - 48, p.frac.map fun c => c.toNat - 48, p.powerText) := by
  have hpower : ∀ c ∈ p.powerText.head?, Text.asciiDigit? c = none := by
    intro c hc
    rw [p.powerText_head c hc]
    rfl
  rw [body, fracText]
  cases hfrac : p.frac with
  | nil =>
      refine readDigits?_whole h.isDigit_whole h.whole_ne_nil hpower fun hpoint => ?_
      exact absurd (p.powerText_head '.' hpoint) (by decide)
  | cons c cs =>
      exact readDigits?_pointed h.isDigit_whole h.whole_ne_nil (hfrac ▸ h.isDigit_frac) hpower

theorem read?_body (h : p.IsWritten) {cs : List Char} {sign : Bool}
    (hcs : spanSign cs = (sign, p.body)) :
    read? Text.asciiDigit? cs = some ⟨sign, p.coeff, p.exponent⟩ := by
  simp only [read?, hcs, readDigits?_body h, readExponent?_powerText, Option.bind_eq_bind,
    Option.bind_some, Option.pure_def, ← List.map_append, ofDigits_map, List.length_map, coeff,
    exponent]

end Parts

end Numeral

namespace Double

open Numeral

/-! ### One number, many numerals -/

/-- Both kinds of exponent at once: a numeral as a fraction of units. -/
theorem ofScientific_eq (negative : Bool) (coeff : Nat) (e : Int) :
    ofScientific negative coeff e =
      ofUnits negative (coeff * 10 ^ e.toNat * unitsOfOne) (10 ^ (-e).toNat) := by
  cases e with
  | ofNat e =>
      simp [ofScientific, ofRatio]
  | negSucc e =>
      have hpos : (Int.negSucc e).toNat = 0 := rfl
      have hneg : (-Int.negSucc e).toNat = e + 1 := rfl
      simp only [ofScientific, ofRatio, hpos, hneg, Nat.pow_zero, Nat.mul_one]
      rfl

/-- Zeros at the end of a coefficient count as much as in the exponent. -/
theorem ofScientific_mul_pow (negative : Bool) (coeff k : Nat) (e : Int) :
    ofScientific negative (coeff * 10 ^ k) e = ofScientific negative coeff (e + k) := by
  rw [ofScientific_eq, ofScientific_eq]
  refine ofUnits_congr (Nat.pow_pos (by decide)) (Nat.pow_pos (by decide)) ?_ negative
  have hexp : k + e.toNat + (-(e + k)).toNat = (e + k).toNat + (-e).toNat := by omega
  calc coeff * 10 ^ k * 10 ^ e.toNat * unitsOfOne * 10 ^ (-(e + k)).toNat
      = coeff * unitsOfOne * 10 ^ (k + e.toNat + (-(e + k)).toNat) := by ring
    _ = coeff * unitsOfOne * 10 ^ ((e + k).toNat + (-e).toNat) := by rw [hexp]
    _ = coeff * 10 ^ (e + k).toNat * unitsOfOne * 10 ^ (-e).toNat := by ring

theorem ofScientific_zero (negative : Bool) (e : Int) :
    ofScientific negative 0 e = signedZero negative := by
  rw [ofScientific_eq, Nat.zero_mul, Nat.zero_mul]
  simp [ofUnits, roundDiv]
  rfl

/-! ### The layouts of digits -/

def Digits.lastExponent (d : Digits) : Int := d.exponent - (d.digits.length - 1)

theorem exists_parts (d : Digits) (hne : d.digits ≠ []) (hdigits : ∀ c ∈ d.digits, c.isDigit)
    (hhead : d.digits.head? ≠ some '0') :
    ∃ p : Parts, p.IsWritten ∧ layout d = p.body ∧ ∀ sign,
      ofScientific sign p.coeff p.exponent =
        ofScientific sign (Nat.ofDigitChars 10 d.digits 0) d.lastExponent := by
  obtain ⟨ds, exponent⟩ := d
  change ds ≠ [] at hne
  change ∀ c ∈ ds, c.isDigit at hdigits
  change ds.head? ≠ some '0' at hhead
  have hlength : 0 < ds.length := List.length_pos_iff.mpr hne
  have hzeros : ∀ n, ∀ c ∈ List.replicate n '0', c.isDigit := fun n c hc => by
    rw [List.eq_of_mem_replicate hc]
    decide
  simp only [layout]
  split
  · cases exponent with
    | ofNat e =>
        rcases Nat.lt_or_ge (e + 1) ds.length with hlong | hshort
        · -- the point stands among the digits
          have hrest : (ds.drop (e + 1)).isEmpty = false := by
            simpa using hlong
          have hpad : e + 1 - (ds.take (e + 1)).length = 0 := by
            rw [List.length_take]
            omega
          refine ⟨⟨ds.take (e + 1), ds.drop (e + 1), none⟩, ⟨?_, ?_, ?_, ?_, .inl ?_⟩, ?_,
            fun sign => ?_⟩
          · simp [hne]
          · intro hzero
            exact absurd (by simpa [List.head?_take] using hzero) hhead
          · exact fun c hc => hdigits c (List.mem_of_mem_take hc)
          · exact fun c hc => hdigits c (List.mem_of_mem_drop hc)
          · exact List.isEmpty_eq_false_iff.mp hrest
          · simp only [Parts.body, Parts.fracText, Parts.powerText, hrest, hpad,
              List.replicate_zero, List.append_nil, Bool.false_eq_true, if_false]
          · simp only [Parts.coeff, Parts.exponent, List.take_append_drop, List.length_drop,
              Option.getD_none]
            congr 1
            simp only [Digits.lastExponent, Int.ofNat_eq_natCast]
            omega
        · -- zeros fill the places up to the point, and one stands after it
          have hrest : (ds.drop (e + 1)).isEmpty = true := by
            simpa using hshort
          have htake : ds.take (e + 1) = ds := List.take_of_length_le hshort
          refine ⟨⟨ds ++ List.replicate (e + 1 - ds.length) '0', ['0'], none⟩,
            ⟨?_, ?_, ?_, hzeros 1, .inl (by simp)⟩, ?_, fun sign => ?_⟩
          · simp [hne]
          · intro hzero
            exact absurd (by simpa [hne] using hzero) hhead
          · exact List.forall_mem_append.mpr ⟨hdigits, hzeros _⟩
          · simp only [Parts.body, Parts.fracText, Parts.powerText, hrest, htake, if_true,
              List.isEmpty_cons, Bool.false_eq_true, if_false, List.append_nil]
          · have hvalue : Nat.ofDigitChars 10
                (ds ++ List.replicate (e + 1 - ds.length) '0' ++ ['0']) 0 =
                  Nat.ofDigitChars 10 ds 0 * 10 ^ (e + 1 - ds.length + 1) := by
              rw [List.append_assoc, ← List.replicate_succ', Nat.ofDigitChars_append,
                Nat.ofDigitChars_replicate_zero, Nat.mul_comm]
            rw [Parts.coeff, hvalue, ofScientific_mul_pow]
            congr 1
            simp only [Parts.exponent, Digits.lastExponent, Option.getD_none,
              List.length_singleton, Int.ofNat_eq_natCast]
            omega
    | negSucc e =>
        refine ⟨⟨['0'], List.replicate e '0' ++ ds, none⟩,
          ⟨by simp, fun _ => rfl, hzeros 1, ?_, .inl (by simp [hne])⟩, ?_, fun sign => ?_⟩
        · exact List.forall_mem_append.mpr ⟨hzeros e, hdigits⟩
        · simp [Parts.body, Parts.fracText, Parts.powerText, hne]
        · have hvalue : Nat.ofDigitChars 10 (['0'] ++ (List.replicate e '0' ++ ds)) 0
              = Nat.ofDigitChars 10 ds 0 := by
            rw [List.singleton_append, ofDigitChars_zero_cons, Nat.ofDigitChars_append,
              Nat.ofDigitChars_replicate_zero, Nat.mul_zero]
          rw [Parts.coeff, hvalue]
          congr 1
          simp only [Parts.exponent, Digits.lastExponent, Option.getD_none, List.length_append,
            List.length_replicate]
          omega
  · obtain ⟨first, ds', rfl⟩ := List.exists_cons_of_ne_nil hne
    obtain ⟨hdigit, hdigits⟩ := List.forall_mem_cons.mp hdigits
    refine ⟨⟨[first], ds', some exponent⟩, ⟨by simp, ?_, by simpa using hdigit, hdigits,
      .inr rfl⟩, ?_, fun sign => ?_⟩
    · intro hzero
      exact absurd hzero hhead
    · cases ds' with
      | nil => rfl
      | cons second rest => simp [Parts.body, Parts.fracText, Parts.powerText]
    · rw [Parts.coeff, List.singleton_append]
      congr 1
      simp [Parts.exponent, Digits.lastExponent]

/-! ### Seventeen digits suffice -/

theorem head?_digitsOf {n : Nat} (h : n ≠ 0) : (digitsOf n).head? ≠ some '0' := by
  induction n using Nat.strong_induction_on with
  | _ n ih =>
      rcases Nat.lt_or_ge n 10 with hlt | hge
      · have hdigit : ∀ d < 10, d ≠ 0 → some (Nat.digitChar d) ≠ some '0' := by decide
        rw [digitsOf, Nat.toDigits_of_lt_base hlt]
        exact hdigit n hlt h
      · have hfirst := ih (n / 10) (by omega) (by omega)
        rw [digitsOf, Nat.toDigits_of_base_le (by decide) hge,
          List.head?_append_of_ne_nil _ Nat.toDigits_ne_nil]
        exact hfirst

theorem Digits.ofCoeff_value {coeff : Nat} (hcoeff : coeff ≠ 0) (e : Int) (negative : Bool) :
    (Digits.ofCoeff coeff e).digits ≠ [] ∧
      (∀ c ∈ (Digits.ofCoeff coeff e).digits, c.isDigit) ∧
      (Digits.ofCoeff coeff e).digits.head? ≠ some '0' ∧
      ofScientific negative (Nat.ofDigitChars 10 (Digits.ofCoeff coeff e).digits 0)
          (Digits.ofCoeff coeff e).lastExponent = ofScientific negative coeff e := by
  obtain ⟨ds, hds⟩ : ∃ ds, ds = ((digitsOf coeff).reverse.dropWhile (· == '0')).reverse := ⟨_, rfl⟩
  -- nothing but zeros is taken off the end
  obtain ⟨k, hk⟩ : ∃ k, digitsOf coeff = ds ++ List.replicate k '0' := by
    obtain ⟨zeros, hzeros⟩ : ∃ zeros, zeros = (digitsOf coeff).reverse.takeWhile (· == '0') :=
      ⟨_, rfl⟩
    have hall : ∀ c ∈ zeros.reverse, c = '0' := by
      intro c hc
      rw [hzeros, List.mem_reverse] at hc
      simpa using List.all_eq_true.mp List.all_takeWhile c hc
    refine ⟨zeros.reverse.length, ?_⟩
    rw [← List.eq_replicate_of_mem hall, hds, hzeros, ← List.reverse_append,
      List.takeWhile_append_dropWhile, List.reverse_reverse]
  have hvalue : Nat.ofDigitChars 10 ds 0 * 10 ^ k = coeff := by
    rw [← ofDigitChars_digitsOf coeff, hk, Nat.ofDigitChars_append,
      Nat.ofDigitChars_replicate_zero, Nat.mul_comm]
  have hne : ds ≠ [] := by
    intro hnil
    rw [hnil] at hvalue
    simp at hvalue
    exact hcoeff hvalue.symm
  refine ⟨?_, ?_, ?_, ?_⟩
  · simpa only [Digits.ofCoeff, ← hds] using hne
  · intro c hc
    simp only [Digits.ofCoeff, ← hds] at hc
    refine isDigit_of_mem_digitsOf (n := coeff) ?_
    rw [hk]
    exact List.mem_append_left _ hc
  · have hhead := head?_digitsOf hcoeff
    rw [hk, List.head?_append_of_ne_nil _ hne] at hhead
    simpa only [Digits.ofCoeff, ← hds] using hhead
  · conv_rhs => rw [← hvalue, ofScientific_mul_pow]
    have hlength : 0 < ds.length := List.length_pos_iff.mpr hne
    have hwritten : (digitsOf coeff).length = ds.length + k := by
      rw [hk, List.length_append, List.length_replicate]
    simp only [Digits.ofCoeff, Digits.lastExponent, ← hds, hwritten]
    congr 1
    omega

theorem unitsOfOne_pos : 0 < unitsOfOne := by decide +kernel

theorem unitsOfOne_le : unitsOfOne ≤ Nat.pow 10 400 := by decide +kernel

theorem pow_add_400 (m : Nat) : 10 ^ (m + 400) = 10 ^ m * Nat.pow 10 400 := by
  generalize 400 = n
  exact Nat.pow_add 10 m n

theorem pow_length_digitsOf_le {n : Nat} (h : n ≠ 0) : 10 ^ ((digitsOf n).length - 1) ≤ n := by
  rcases Nat.lt_or_ge ((digitsOf n).length - 1) 1 with hone | hmore
  · rw [Nat.lt_one_iff.mp hone, Nat.pow_zero]
    exact Nat.one_le_iff_ne_zero.mpr h
  · by_contra hlt
    have hshort := (Nat.length_toDigits_le_iff (n := n) (by decide : 1 < 10) hmore).mpr
      (Nat.not_le.mp hlt)
    have hwhole : (Nat.toDigits 10 n).length = (digitsOf n).length := rfl
    omega

theorem lt_pow_length_digitsOf (n : Nat) : n < 10 ^ (digitsOf n).length :=
  (Nat.length_toDigits_le_iff (by decide) Nat.length_toDigits_pos).mp (Nat.le_refl _)

/-- The power of ten of the leading digit is not above the fraction. -/
theorem pow_leadingExponent_le {num : Nat} (hnum : 0 < num) :
    ∃ k : Nat, leadingExponent num unitsOfOne = (k : Int) - 400 ∧
      10 ^ k * unitsOfOne ≤ num * Nat.pow 10 400 := by
  obtain ⟨n, hn⟩ : ∃ n, n = num * Nat.pow 10 400 / unitsOfOne := ⟨_, rfl⟩
  have hlength : 0 < (digitsOf n).length := Nat.length_toDigits_pos
  refine ⟨(digitsOf n).length - 1, ?_, ?_⟩
  · rw [leadingExponent, ← hn]
    omega
  · have hpos : 0 < n := by
      rw [hn]
      exact Nat.div_pos (Nat.le_trans unitsOfOne_le (Nat.le_mul_of_pos_left _ hnum)) unitsOfOne_pos
    calc 10 ^ ((digitsOf n).length - 1) * unitsOfOne
        ≤ n * unitsOfOne := Nat.mul_le_mul_right _ (pow_length_digitsOf_le hpos.ne')
      _ ≤ num * Nat.pow 10 400 := by
          rw [hn]
          exact Nat.div_mul_le_self _ _

theorem exists_near_neighbour (num : Nat) {den : Nat} (hden : 0 < den) (e : Int) :
    ∃ coeff ∈ neighbours num den e,
      2 * (num * 10 ^ (-e).toNat) ≤ 2 * (coeff * (den * 10 ^ e.toNat)) + den * 10 ^ e.toNat ∧
      2 * (coeff * (den * 10 ^ e.toNat)) ≤ 2 * (num * 10 ^ (-e).toNat) + den * 10 ^ e.toNat := by
  obtain ⟨n, hn⟩ : ∃ n, n = num * 10 ^ (-e).toNat := ⟨_, rfl⟩
  obtain ⟨d, hd⟩ : ∃ d, d = den * 10 ^ e.toNat := ⟨_, rfl⟩
  have hd_pos : 0 < d := by
    rw [hd]
    exact Nat.mul_pos hden (Nat.pow_pos (by decide))
  have hneighbours : neighbours num den e =
      if 2 * (n % d) < d ∨ (2 * (n % d) = d ∧ n / d % 2 = 0) then [n / d, n / d + 1]
      else [n / d + 1, n / d] := by
    rw [hn, hd]
    cases e with
    | ofNat e => simp [neighbours]
    | negSucc e =>
        have hpos : (Int.negSucc e).toNat = 0 := rfl
        simp [neighbours, hpos]
  rw [← hn, ← hd, hneighbours]
  have hdiv := Nat.div_add_mod n d
  have hmod := Nat.mod_lt n hd_pos
  rw [Nat.mul_comm] at hdiv
  split
  · refine ⟨n / d, by simp, ?_, ?_⟩ <;> omega
  · refine ⟨n / d + 1, by simp, ?_, ?_⟩ <;> rw [Nat.add_mul, Nat.one_mul] <;> omega

/-- On the grid of seventeen digits a neighbour of a number reads back to
it. -/
theorem exists_neighbour_reads {mant shift : Nat} (h : Canonical mant shift) (hmant : 0 < mant) :
    ∃ coeff ∈ neighbours (mant * Nat.pow 2 shift) unitsOfOne
        (leadingExponent (mant * Nat.pow 2 shift) unitsOfOne - 16),
      ofScientific false coeff (leadingExponent (mant * Nat.pow 2 shift) unitsOfOne - 16) =
        .finite false mant shift h := by
  obtain ⟨num, hnum⟩ : ∃ num, num = mant * Nat.pow 2 shift := ⟨_, rfl⟩
  have hnum_pos : 0 < num := by
    rw [hnum]
    exact Nat.mul_pos hmant (Nat.pow_pos (by decide))
  obtain ⟨k, hk, hle⟩ := pow_leadingExponent_le hnum_pos
  rw [← hnum, hk]
  obtain ⟨e, he⟩ : ∃ e : Int, e = (k : Int) - 400 - 16 := ⟨_, rfl⟩
  rw [← he]
  obtain ⟨coeff, hmem, hlow, hhigh⟩ := exists_near_neighbour num unitsOfOne_pos e
  refine ⟨coeff, hmem, ?_⟩
  -- a step of the grid is at most a part in `10 ^ 16` of the number
  have hstep : 10000000000000000 * (unitsOfOne * 10 ^ e.toNat) ≤ num * 10 ^ (-e).toNat := by
    have hexp : 16 + e.toNat + 400 = k + (-e).toNat := by omega
    have hpower : 10 ^ (16 + e.toNat) * Nat.pow 10 400 = 10 ^ k * 10 ^ (-e).toNat := by
      rw [← pow_add_400, hexp, Nat.pow_add]
    refine Nat.le_of_mul_le_mul_right ?_ (Nat.lt_of_lt_of_le unitsOfOne_pos unitsOfOne_le)
    calc 10000000000000000 * (unitsOfOne * 10 ^ e.toNat) * Nat.pow 10 400
        = 10 ^ (16 + e.toNat) * Nat.pow 10 400 * unitsOfOne := by
          rw [Nat.pow_add 10 16]
          ring
      _ = 10 ^ k * unitsOfOne * 10 ^ (-e).toNat := by
          rw [hpower]
          ring
      _ ≤ num * Nat.pow 10 400 * 10 ^ (-e).toNat := Nat.mul_le_mul_right _ hle
      _ = num * 10 ^ (-e).toNat * Nat.pow 10 400 := by ring
  have hpos : 0 < num * 10 ^ (-e).toNat := Nat.mul_pos hnum_pos (Nat.pow_pos (by decide))
  have hmagnitude : mant * 2 ^ shift = num := hnum.symm
  have hsame : coeff * 10 ^ e.toNat * unitsOfOne = coeff * (unitsOfOne * 10 ^ e.toNat) := by ring
  rw [ofScientific_eq, hsame]
  generalize coeff * (unitsOfOne * 10 ^ e.toNat) = read at *
  generalize unitsOfOne * 10 ^ e.toNat = step at *
  refine ofUnits_near h (Nat.pow_pos (by decide)) ?_ ?_ false
  · rw [hmagnitude]
    omega
  · rw [hmagnitude]
    omega

/-- A search that comes to a grid with a neighbour that reads back stops at
one. -/
theorem search_reads {x : Double} {num den : Nat} {leading : Int}
    (hlast : ∃ coeff ∈ neighbours num den (leading - 16),
      ofScientific false coeff (leading - 16) = x) (fuel count : Nat) (hfuel : 0 < fuel)
    (hsum : fuel + count = 18) :
    ∃ coeff e, search x num den leading fuel count = Digits.ofCoeff coeff e ∧
      ofScientific false coeff e = x := by
  induction fuel generalizing count with
  | zero => omega
  | succ fuel ih =>
      rw [search]
      split
      · rename_i coeff hfound
        exact ⟨coeff, _, rfl, by simpa using List.find?_some hfound⟩
      · rename_i hnone
        refine ih (count + 1) ?_ (by omega)
        by_contra hover
        obtain ⟨coeff, hmem, hreads⟩ := hlast
        have hgrid : leading - (count : Int) + 1 = leading - 16 := by omega
        rw [hgrid, List.find?_eq_none] at hnone
        exact hnone coeff hmem (by simpa using hreads)

/-- The digits of a number read back to it. -/
theorem shortest_reads {mant shift : Nat} (h : Canonical mant shift) (hmant : 0 < mant)
    (negative : Bool) :
    (shortest mant shift).digits ≠ [] ∧ (∀ c ∈ (shortest mant shift).digits, c.isDigit) ∧
      (shortest mant shift).digits.head? ≠ some '0' ∧
      ofScientific negative (Nat.ofDigitChars 10 (shortest mant shift).digits 0)
          (shortest mant shift).lastExponent = .finite negative mant shift h := by
  have hself : ofUnits false (mant * Nat.pow 2 shift) 1 = .finite false mant shift h := by
    have hmagnitude : 0 < mant * 2 ^ shift := Nat.mul_pos hmant (Nat.two_pow_pos shift)
    refine ofUnits_near h Nat.one_pos ?_ ?_ false
    · rw [Nat.pow_eq]
      omega
    · rw [Nat.pow_eq]
      omega
  obtain ⟨coeff, e, hsearch, hreads⟩ :=
    search_reads (exists_neighbour_reads h hmant) 17 1 (by decide) rfl
  have hshortest : shortest mant shift = Digits.ofCoeff coeff e := by
    rw [shortest, hself]
    exact hsearch
  have hcoeff : coeff ≠ 0 := by
    rintro rfl
    rw [ofScientific_zero] at hreads
    cases hreads
    exact absurd hmant (Nat.lt_irrefl 0)
  rw [hshortest]
  obtain ⟨hne, hdigits, hhead, hvalue⟩ := Digits.ofCoeff_value hcoeff e negative
  refine ⟨hne, hdigits, hhead, hvalue.trans ?_⟩
  rw [ofScientific_eq] at hreads ⊢
  exact ofUnits_sign hreads negative

/-! ### Reading back -/

theorem spanSign_body {p : Parts} (h : p.IsWritten) (negative : Bool) :
    spanSign (if negative then '-' :: p.body else p.body) = (negative, p.body) := by
  cases negative with
  | true => rfl
  | false =>
      obtain ⟨c, cs, hcons, hc⟩ := h.exists_whole
      rw [Parts.body, hcons]
      unfold spanSign
      split
      next heq =>
          cases heq
          exact absurd hc (by decide)
      next heq =>
          cases heq
          exact absurd hc (by decide)
      next => rfl

/-- The written form of a finite number is a numeral of the number: of zero, or of its
shortest digits. -/
theorem exists_text_parts (negative : Bool) {mant shift : Nat} (h : Canonical mant shift) :
    ∃ p : Parts, p.IsWritten ∧
      (Double.finite negative mant shift h).text.toList =
        (if negative then '-' :: p.body else p.body) ∧
      ofScientific negative p.coeff p.exponent = .finite negative mant shift h := by
  rcases Nat.eq_zero_or_pos mant with rfl | hmant
  · have hshift : shift = 0 := by
      have := h.2.1
      omega
    subst hshift
    have hdigit : ∀ c ∈ ['0'], c.isDigit := List.forall_mem_singleton.mpr rfl
    refine ⟨⟨['0'], ['0'], none⟩, ⟨by simp, fun _ => rfl, hdigit, hdigit, .inl (by simp)⟩, ?_,
      ofScientific_zero negative _⟩
    simp only [text, if_true, String.toList_ofList]
    rfl
  · obtain ⟨hne, hdigits, hhead, hvalue⟩ := shortest_reads h hmant negative
    obtain ⟨p, hp, hbody, hsame⟩ := exists_parts _ hne hdigits hhead
    refine ⟨p, hp, ?_, (hsame negative).trans hvalue⟩
    simp only [text, if_neg hmant.ne', String.toList_ofList, hbody]

/-- The written form of a finite number is a numeral that reads back to the
number. -/
theorem read?_text (negative : Bool) {mant shift : Nat} (h : Canonical mant shift) :
    ∃ coeff e, Numeral.read? Text.asciiDigit? (Double.finite negative mant shift h).text.toList =
        some ⟨negative, coeff, e⟩ ∧
      ofScientific negative coeff e = .finite negative mant shift h := by
  obtain ⟨p, hp, htext, hvalue⟩ := exists_text_parts negative h
  refine ⟨p.coeff, p.exponent, ?_, hvalue⟩
  rw [htext]
  exact Parts.read?_body hp (spanSign_body hp negative)

/-- Of two numbers with one written form neither is finite unless they are
one number. -/
theorem eq_of_text_eq {negative : Bool} {mant shift : Nat} (h : Canonical mant shift) {y : Double}
    (htext : y.text = (Double.finite negative mant shift h).text) :
    y = .finite negative mant shift h := by
  obtain ⟨coeff, e, hread, hvalue⟩ := read?_text negative h
  cases y with
  | nan named =>
      have hnone : Numeral.read? Text.asciiDigit? "nan".toList = none := by decide
      rw [← htext, text, hnone] at hread
      cases hread
  | inf sign =>
      have hnone : Numeral.read? Text.asciiDigit? (Double.inf sign).text.toList = none := by
        cases sign
        · decide
        · decide
      rw [← htext, hnone] at hread
      cases hread
  | finite sign mant' shift' h' =>
      obtain ⟨coeff', e', hread', hvalue'⟩ := read?_text sign h'
      rw [htext, hread] at hread'
      cases hread'
      exact hvalue'.symm.trans hvalue

end Double

end AlertRules
