import AlertRules.Proofs.Number.Closest
import AlertRules.Proofs.Text.Blank
import Mathlib.Data.Nat.Digits.Defs

/-!
How numerals are spelled, and the number that each spelling stands for.

A spelling has a sign or none, digits with a point before, between or behind them or with none,
and a power of ten or none; its digits may be of any script. Reading takes the longest run of
digits at each place, and no spelling can go on where another one ends: so a text is read as a
numeral exactly if it is a spelling, and as the numeral of this spelling (`read?_eq_some_iff`).
What the numeral stands for is the number that the places of the digits give
(`Spelling.toRat_numeral`).
-/

namespace AlertRules

namespace Numeral

/-! ### Spellings -/

structure Digit where
  char : Char
  value : Nat
  reads : Text.digitValue? char = some value

/-- The number that a row of digits stands for, the last digit for the ones. -/
def Digit.number (ds : List Digit) : Nat := Nat.ofDigits 10 (ds.map value).reverse

inductive Sign where
  | unsigned
  | plus
  | minus
  deriving DecidableEq, Repr

namespace Sign

def text : Sign → List Char
  | unsigned => []
  | plus => ['+']
  | minus => ['-']

def isMinus : Sign → Bool
  | minus => true
  | _ => false

def factor : Sign → Int
  | minus => -1
  | _ => 1

theorem signed_isMinus (s : Sign) (n : Nat) : Decimal.signed s.isMinus n = s.factor * n := by
  cases s <;> simp [isMinus, factor, Decimal.signed]

end Sign

/-- The digits of a numeral: at least one, before the point or behind it. There need not be a
point if there are digits before it. -/
structure Figures where
  whole : List Digit
  frac? : Option (List Digit)
  some_digit : whole ++ frac?.getD [] ≠ []

namespace Figures

def frac (f : Figures) : List Digit := f.frac?.getD []

def text (f : Figures) : List Char :=
  f.whole.map Digit.char ++ f.frac?.elim [] ('.' :: ·.map Digit.char)

def value (f : Figures) : ℚ := Digit.number f.whole + Digit.number f.frac / 10 ^ f.frac.length

end Figures

/-- A power of ten as a factor: a letter, a sign or none, and at least one digit. -/
structure Power where
  marker : Char
  isMarker : marker = 'e' ∨ marker = 'E'
  sign : Sign
  digits : List Digit
  some_digit : digits ≠ []

namespace Power

def text (p : Power) : List Char := p.marker :: (p.sign.text ++ p.digits.map Digit.char)

def exponent (p : Power) : Int := p.sign.factor * Digit.number p.digits

end Power

/-- A way to write a number. -/
structure Spelling where
  sign : Sign
  figures : Figures
  power? : Option Power

namespace Spelling

def powerText (n : Spelling) : List Char := n.power?.elim [] Power.text

def text (n : Spelling) : List Char := n.sign.text ++ (n.figures.text ++ n.powerText)

def exponent (n : Spelling) : Int := n.power?.elim 0 Power.exponent

def value (n : Spelling) : ℚ := n.sign.factor * n.figures.value * 10 ^ n.exponent

def numeral (n : Spelling) : Numeral where
  negative := n.sign.isMinus
  coeff := Digit.number (n.figures.whole ++ n.figures.frac)
  exponent := n.exponent - n.figures.frac.length

end Spelling

/-! ### The number of a spelling -/

/-- Digits are read from the left, each one ten times the next. -/
theorem ofDigits_value (ds : List Digit) : ofDigits (ds.map Digit.value) = Digit.number ds := by
  rw [Digit.number, Nat.ofDigits_eq_foldr, List.foldr_reverse, ofDigits]
  simp only [Nat.cast_id, Nat.add_comm]

theorem Digit.number_append (whole frac : List Digit) :
    Digit.number (whole ++ frac) = Digit.number whole * 10 ^ frac.length + Digit.number frac := by
  rw [number, List.map_append, List.reverse_append, Nat.ofDigits_append, List.length_reverse,
    List.length_map, number, number, Nat.mul_comm, Nat.add_comm]

/-- The numeral of a spelling stands for the number that is written. -/
theorem Spelling.toRat_numeral (n : Spelling) : n.numeral.toRat = n.value := by
  have hten : (10 : ℚ) ≠ 0 := by norm_num
  simp only [toRat, numeral, value, Figures.value, Sign.signed_isMinus, Digit.number_append]
  rw [zpow_sub₀ hten, zpow_natCast]
  push_cast
  field_simp

/-! ### Reading a spelling -/

section Reading

variable {cs rest : List Char}

theorem exists_digits {vs : List Nat} (h : spanDigits Text.digitValue? cs = (vs, rest)) :
    ∃ ds : List Digit, ds.map Digit.char ++ rest = cs ∧ ds.map Digit.value = vs := by
  induction cs generalizing vs with
  | nil =>
      cases h
      exact ⟨[], rfl, rfl⟩
  | cons c cs ih =>
      rw [spanDigits] at h
      split at h
      next v hv =>
          cases h
          obtain ⟨ds, htext, hvalues⟩ := ih rfl
          exact ⟨⟨c, v, hv⟩ :: ds, congrArg (c :: ·) htext, congrArg (v :: ·) hvalues⟩
      next hnone =>
          cases h
          exact ⟨[], rfl, rfl⟩

theorem spanDigits_digits (ds : List Digit) (hrest : ∀ c ∈ rest.head?, Text.digitValue? c = none) :
    spanDigits Text.digitValue? (ds.map Digit.char ++ rest) = (ds.map Digit.value, rest) :=
  spanDigits_map (fun d _ => d.reads) hrest

theorem exists_sign (cs : List Char) :
    ∃ s : Sign, s.text ++ (spanSign cs).2 = cs ∧ s.isMinus = (spanSign cs).1 := by
  unfold spanSign
  split
  · exact ⟨.plus, rfl, rfl⟩
  · exact ⟨.minus, rfl, rfl⟩
  · exact ⟨.unsigned, rfl, rfl⟩

theorem spanSign_text (s : Sign) (h : ∀ c ∈ rest.head?, c ≠ '+' ∧ c ≠ '-') :
    spanSign (s.text ++ rest) = (s.isMinus, rest) := by
  cases s with
  | plus | minus => rfl
  | unsigned =>
      rw [Sign.text, List.nil_append]
      unfold spanSign
      split
      next => exact absurd rfl (h '+' rfl).1
      next => exact absurd rfl (h '-' rfl).2
      next => rfl

theorem exists_figures {ws fs : List Nat}
    (h : readDigits? Text.digitValue? cs = some (ws, fs, rest)) :
    ∃ f : Figures, f.text ++ rest = cs ∧ f.whole.map Digit.value = ws ∧
      f.frac.map Digit.value = fs := by
  unfold readDigits? at h
  split at h
  next whole behind hwhole =>
      obtain ⟨ds, hds, rfl⟩ := exists_digits hwhole
      obtain ⟨es, hes, hvalues⟩ := exists_digits (rfl : spanDigits Text.digitValue? behind = _)
      dsimp only at h
      rw [← hvalues] at h
      split at h
      next => cases h
      next hsome =>
          cases h
          have hdigit : ds ++ es ≠ [] := by simpa [List.append_eq_nil_iff] using hsome
          exact ⟨⟨ds, some es, hdigit⟩, by simp [Figures.text, hes, hds], rfl, rfl⟩
  next whole tail hpoint hwhole =>
      obtain ⟨ds, hds, rfl⟩ := exists_digits hwhole
      split at h
      next => cases h
      next hsome =>
          cases h
          have hdigit : ds ++ [] ≠ [] := by simpa using hsome
          exact ⟨⟨ds, none, hdigit⟩, by simpa [Figures.text] using hds, rfl, rfl⟩

/-- The digits of a numeral end before what is no digit and no point. -/
theorem readDigits?_text (f : Figures)
    (h : ∀ c ∈ rest.head?, Text.digitValue? c = none ∧ c ≠ '.') :
    readDigits? Text.digitValue? (f.text ++ rest) =
      some (f.whole.map Digit.value, f.frac.map Digit.value, rest) := by
  have hdigit : ∀ c ∈ rest.head?, Text.digitValue? c = none := fun c hc => (h c hc).1
  obtain ⟨whole, frac?, hsome⟩ := f
  cases frac? with
  | some frac =>
      have hwhole : spanDigits Text.digitValue?
          (whole.map Digit.char ++ '.' :: (frac.map Digit.char ++ rest)) =
            (whole.map Digit.value, '.' :: (frac.map Digit.char ++ rest)) :=
        spanDigits_digits whole (by rintro _ ⟨⟩; decide)
      have hnonempty : whole = [] → frac ≠ [] := by
        simpa [List.append_eq_nil_iff] using hsome
      simpa [readDigits?, Figures.text, Figures.frac, hwhole, spanDigits_digits frac hdigit]
        using hnonempty
  | none =>
      have hempty : (whole.map Digit.value).isEmpty = false := by simpa using hsome
      have htext : Figures.text ⟨whole, none, hsome⟩ = whole.map Digit.char := List.append_nil _
      rw [htext, readDigits?_of_no_point (spanDigits_digits whole hdigit) fun hpoint =>
        (h '.' hpoint).2 rfl, hempty, if_neg Bool.false_ne_true]
      rfl

theorem exists_power {e : Int} (h : readExponent? Text.digitValue? cs = some e) :
    ∃ p : Option Power, p.elim [] Power.text = cs ∧ p.elim 0 Power.exponent = e := by
  unfold readExponent? at h
  split at h
  next =>
      cases h
      exact ⟨none, rfl, rfl⟩
  next c behind =>
      split at h
      next hmarker =>
          obtain ⟨s, hsign, hminus⟩ := exists_sign behind
          dsimp only at h
          split at h
          next v vs hspan =>
              obtain ⟨ds, hds, hvalues⟩ := exists_digits hspan
              cases h
              have hdigit : ds ≠ [] := by
                rintro rfl
                cases hvalues
              refine ⟨some ⟨c, by simpa using hmarker, s, ds, hdigit⟩, ?_, ?_⟩
              · rw [← hsign, ← hds, List.append_nil]
                rfl
              · rw [← hvalues, ofDigits_value, ← hminus]
                exact (s.signed_isMinus _).symm
          next => cases h
      next => cases h

theorem Digit.char_ne (d : Digit) {c : Char} (h : Text.digitValue? c = none) : d.char ≠ c := by
  rintro rfl
  cases d.reads.symm.trans h

theorem Power.readExponent?_text (p : Power) :
    readExponent? Text.digitValue? p.text = some p.exponent := by
  obtain ⟨c, hmarker, s, ds, hdigit⟩ := p
  obtain ⟨d, ds, rfl⟩ := List.exists_cons_of_ne_nil hdigit
  have hspan : spanDigits Text.digitValue? ((d :: ds).map Digit.char ++ []) = (_, []) :=
    spanDigits_digits (d :: ds) nofun
  rw [List.append_nil] at hspan
  have hsign : spanSign (s.text ++ (d :: ds).map Digit.char) = (s.isMinus, _) :=
    spanSign_text s (by
      rintro _ ⟨⟩
      exact ⟨d.char_ne (by decide), d.char_ne (by decide)⟩)
  rw [text, readExponent?, if_pos (by simpa using hmarker), hsign]
  dsimp only
  rw [hspan, List.map_cons]
  dsimp only
  rw [← List.map_cons, ofDigits_value]
  exact congrArg some (s.signed_isMinus _)

theorem Spelling.readExponent?_powerText (n : Spelling) :
    readExponent? Text.digitValue? n.powerText = some n.exponent := by
  rw [powerText, exponent]
  cases n.power? with
  | none => rfl
  | some p => exact p.readExponent?_text

/-- The power of ten begins with what is no part of the digits. -/
theorem Spelling.head?_powerText (n : Spelling) :
    ∀ c ∈ n.powerText.head?, Text.digitValue? c = none ∧ c ≠ '.' := by
  rw [powerText]
  cases n.power? with
  | none => nofun
  | some p =>
      rintro _ ⟨⟩
      rcases p.isMarker with h | h <;> rw [h] <;> decide

theorem Figures.head?_text_append (f : Figures) (rest : List Char) :
    ∀ c ∈ (f.text ++ rest).head?, c ≠ '+' ∧ c ≠ '-' := by
  obtain ⟨whole, frac?, hsome⟩ := f
  cases whole with
  | cons d ds =>
      rintro _ ⟨⟩
      exact ⟨d.char_ne (by decide), d.char_ne (by decide)⟩
  | nil =>
      cases frac? with
      | none => exact absurd rfl hsome
      | some frac =>
          rintro _ ⟨⟩
          decide

theorem Spelling.read?_text (n : Spelling) : read? Text.digitValue? n.text = some n.numeral := by
  have hsign := spanSign_text n.sign (n.figures.head?_text_append n.powerText)
  have hfigures := readDigits?_text n.figures n.head?_powerText
  simp only [read?, text, hsign, hfigures, n.readExponent?_powerText, Option.bind_eq_bind,
    Option.bind_some, Option.pure_def, ← List.map_append, ofDigits_value, List.length_map, numeral]

theorem exists_spelling {m : Numeral} (h : read? Text.digitValue? cs = some m) :
    ∃ n : Spelling, n.text = cs ∧ n.numeral = m := by
  simp only [read?, Option.bind_eq_bind, Option.bind_eq_some_iff, Option.pure_def, Prod.exists] at h
  obtain ⟨ws, fs, tail, hfigures, e, hpower, hm⟩ := h
  obtain ⟨s, hsign, hminus⟩ := exists_sign cs
  obtain ⟨f, htext, rfl, rfl⟩ := exists_figures hfigures
  obtain ⟨p, rfl, rfl⟩ := exists_power hpower
  refine ⟨⟨s, f, p⟩, ?_, ?_⟩
  · rw [← hsign, ← htext]
    rfl
  · cases hm
    simp only [Spelling.numeral, Spelling.exponent, hminus, ← List.map_append, ofDigits_value,
      List.length_map]

/-- A text is read as a numeral exactly if it is a spelling of this numeral. -/
theorem read?_eq_some_iff {m : Numeral} :
    read? Text.digitValue? cs = some m ↔ ∃ n : Spelling, n.text = cs ∧ n.numeral = m := by
  refine ⟨exists_spelling, ?_⟩
  rintro ⟨n, rfl, rfl⟩
  exact n.read?_text

end Reading

/-! ### The characters of a spelling -/

theorem isBlank_digits (ds : List Digit) : ∀ c ∈ ds.map Digit.char, Text.isBlank c = false := by
  intro c hc
  obtain ⟨d, -, rfl⟩ := List.mem_map.mp hc
  exact Text.isBlank_of_digit d.reads

theorem Sign.isBlank_text (s : Sign) : ∀ c ∈ s.text, Text.isBlank c = false := by
  cases s with
  | unsigned => nofun
  | plus | minus => exact List.forall_mem_singleton.mpr (by decide)

theorem Spelling.isBlank_text (n : Spelling) : ∀ c ∈ n.text, Text.isBlank c = false := by
  obtain ⟨s, ⟨whole, frac?, hsome⟩, p?⟩ := n
  have hfrac : ∀ c ∈ frac?.elim [] ('.' :: ·.map Digit.char), Text.isBlank c = false := by
    cases frac? with
    | none => nofun
    | some frac => exact List.forall_mem_cons.mpr ⟨by decide, isBlank_digits frac⟩
  have hpower : ∀ c ∈ p?.elim [] Power.text, Text.isBlank c = false := by
    cases p? with
    | none => nofun
    | some p =>
        refine List.forall_mem_cons.mpr ⟨?_, List.forall_mem_append.mpr
          ⟨p.sign.isBlank_text, isBlank_digits p.digits⟩⟩
        rcases p.isMarker with h | h <;> rw [h] <;> decide
  exact List.forall_mem_append.mpr ⟨s.isBlank_text, List.forall_mem_append.mpr
    ⟨List.forall_mem_append.mpr ⟨isBlank_digits whole, hfrac⟩, hpower⟩⟩

/-! ### Digits of other scripts -/

section Scripts

open Text (plainDigit plainDigit_eq_iff)

theorem spanDigits_plainDigit (cs : List Char) :
    spanDigits Text.digitValue? (cs.map plainDigit) =
      ((spanDigits Text.digitValue? cs).1, (spanDigits Text.digitValue? cs).2.map plainDigit) := by
  induction cs with
  | nil => rfl
  | cons c cs ih =>
      rw [List.map_cons, spanDigits, spanDigits, Text.digitValue?_plainDigit, ih]
      split <;> rfl

theorem spanSign_plainDigit (cs : List Char) :
    spanSign (cs.map plainDigit) = ((spanSign cs).1, (spanSign cs).2.map plainDigit) := by
  cases cs with
  | nil => rfl
  | cons c cs =>
      by_cases hplus : c = '+'
      · rw [hplus]
        rfl
      · by_cases hminus : c = '-'
        · rw [hminus]
          rfl
        · have hplus' : plainDigit c ≠ '+' := (plainDigit_eq_iff (by decide)).not.mpr hplus
          have hminus' : plainDigit c ≠ '-' := (plainDigit_eq_iff (by decide)).not.mpr hminus
          simp [spanSign, hplus, hminus, hplus', hminus']

theorem readExponent?_plainDigit (cs : List Char) :
    readExponent? Text.digitValue? (cs.map plainDigit) = readExponent? Text.digitValue? cs := by
  cases cs with
  | nil => rfl
  | cons c cs =>
      have hsmall : plainDigit c = 'e' ↔ c = 'e' := plainDigit_eq_iff (by decide)
      have hcapital : plainDigit c = 'E' ↔ c = 'E' := plainDigit_eq_iff (by decide)
      have hmarker : (plainDigit c == 'e' || plainDigit c == 'E') = (c == 'e' || c == 'E') := by
        rw [Bool.eq_iff_iff]
        simp [hsmall, hcapital]
      rw [List.map_cons, readExponent?, readExponent?, hmarker, spanSign_plainDigit]
      dsimp only
      rw [spanDigits_plainDigit]
      rcases spanDigits Text.digitValue? (spanSign cs).2 with ⟨_ | ⟨d, ds⟩, _ | ⟨c', tail⟩⟩ <;> rfl

theorem readDigits?_plainDigit (cs : List Char) :
    readDigits? Text.digitValue? (cs.map plainDigit) =
      (readDigits? Text.digitValue? cs).map fun (whole, frac, rest) =>
        (whole, frac, rest.map plainDigit) := by
  obtain ⟨whole, rest, hspan⟩ : ∃ whole rest,
      spanDigits Text.digitValue? cs = (whole, rest) := ⟨_, _, rfl⟩
  have hplain := spanDigits_plainDigit cs
  rw [hspan] at hplain
  by_cases hpoint : rest.head? = some '.'
  · obtain ⟨frac, rfl⟩ := List.head?_eq_some_iff.mp hpoint
    have hpoint' : plainDigit '.' = '.' := Text.plainDigit_of_none (by decide)
    rw [List.map_cons, hpoint'] at hplain
    rw [readDigits?_of_point hspan, readDigits?_of_point hplain, spanDigits_plainDigit]
    split <;> rfl
  · have hpoint' : (rest.map plainDigit).head? ≠ some '.' := by
      rw [List.head?_map]
      intro hhead
      obtain ⟨c, hc, hplain'⟩ := Option.map_eq_some_iff.mp hhead
      exact hpoint (hc.trans (congrArg some ((plainDigit_eq_iff (by decide)).mp hplain')))
    rw [readDigits?_of_no_point hspan hpoint, readDigits?_of_no_point hplain hpoint']
    split <;> rfl

/-- The digits of a numeral can be replaced by those of another script. -/
theorem read?_plainDigit (cs : List Char) :
    read? Text.digitValue? (cs.map plainDigit) = read? Text.digitValue? cs := by
  rw [read?, read?, spanSign_plainDigit]
  dsimp only
  rw [readDigits?_plainDigit]
  cases readDigits? Text.digitValue? (spanSign cs).2 with
  | none => rfl
  | some parts =>
      obtain ⟨whole, frac, rest⟩ := parts
      simp only [Option.map_some, Option.bind_eq_bind, Option.bind_some, readExponent?_plainDigit]

end Scripts

end Numeral

end AlertRules
