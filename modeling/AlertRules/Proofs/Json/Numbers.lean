import AlertRules.Json.Reader
import AlertRules.Json.Writer
import AlertRules.Proofs.Number.Nearest

/-!
Reading back a JSON number.

A number ends where what follows it cannot belong to it, and behind a value of a document
there is nothing that could: a separator, a closing bracket or the end (`Closes`). The kind of
a number is kept, since a floating-point number is written with a point or an exponent
(`Numeral.Parts.IsWritten`) and an integer is not.
-/

namespace AlertRules

namespace Double

/-- A number as documents name it: they know one undefined number only. -/
def named : Double → Double
  | .nan _ => .nan true
  | x => x

theorem named_eq_self {x : Double} (h : x ≠ .nan false) : x.named = x := by
  cases x with
  | nan named =>
      cases named
      · exact absurd rfl h
      · rfl
  | inf => rfl
  | finite => rfl

end Double

namespace Json

open Numeral (Parts)

def Closes (rest : List Char) : Prop := ∀ c ∈ rest.head?, c = ',' ∨ c = ']' ∨ c = '\x7d'

variable {rest : List Char} {p : Parts}

/-! ### The parts of a number -/

theorem Closes.asciiDigit?_head (h : Closes rest) :
    ∀ c ∈ rest.head?, Text.asciiDigit? c = none := by
  intro c hc
  rcases h c hc with rfl | rfl | rfl <;> rfl

theorem Closes.readFraction? (h : Closes rest) : readFraction? rest = none := by
  unfold Json.readFraction?
  split
  next => rcases h '.' rfl with h | h | h <;> cases h
  next => rfl

theorem Closes.readPower? (h : Closes rest) : readPower? rest = none := by
  cases rest with
  | nil => rfl
  | cons c cs => rcases h c rfl with rfl | rfl | rfl <;> rfl

theorem readWhole?_append {ds : List Char} (hne : ds ≠ []) (hds : ∀ c ∈ ds, c.isDigit)
    (hzero : ds.head? = some '0' → ds = ['0'])
    (hrest : ∀ c ∈ rest.head?, Text.asciiDigit? c = none) :
    readWhole? (ds ++ rest) = some (ds.map fun c => c.toNat - 48, rest) := by
  obtain ⟨d, ds, rfl⟩ := List.exists_cons_of_ne_nil hne
  by_cases hd : d = '0'
  · cases hzero (congrArg some hd)
    rfl
  · unfold readWhole?
    split
    next heq => exact absurd (List.cons.inj heq).1 hd
    next =>
      rw [Numeral.spanDigits_append hds hrest]
      rfl

theorem powerText_append_head (p : Parts) (h : Closes rest) :
    ∀ c ∈ (p.powerText ++ rest).head?, Text.asciiDigit? c = none ∧ c ≠ '.' := by
  intro c hc
  rw [Parts.powerText] at hc
  cases hpower : p.power with
  | none =>
      rw [hpower] at hc
      rcases h c hc with rfl | rfl | rfl <;> decide
  | some e =>
      rw [hpower] at hc
      cases hc
      decide

theorem fracText_append_head (p : Parts)
    (hrest : ∀ c ∈ rest.head?, Text.asciiDigit? c = none ∧ c ≠ '.') :
    ∀ c ∈ (p.fracText ++ rest).head?, Text.asciiDigit? c = none := by
  intro c hc
  rw [Parts.fracText] at hc
  split at hc
  · exact (hrest c hc).1
  · cases hc
    rfl

/-- The fraction is read if there is one, and what follows it is left. -/
theorem readFraction?_fracText (hp : p.IsWritten)
    (hrest : ∀ c ∈ rest.head?, Text.asciiDigit? c = none ∧ c ≠ '.') :
    ∃ fraction, readFraction? (p.fracText ++ rest) = fraction ∧
      (fraction.isNone = true ↔ p.frac = []) ∧
      (fraction.map Prod.fst).getD [] = (p.frac.map fun c => c.toNat - 48) ∧
      (fraction.map Prod.snd).getD (p.fracText ++ rest) = rest := by
  cases hfrac : p.frac with
  | nil =>
      have htext : p.fracText = [] := by
        rw [Parts.fracText, hfrac]
        rfl
      refine ⟨none, ?_, by simp, rfl, by rw [htext]; rfl⟩
      rw [htext, List.nil_append]
      unfold readFraction?
      split
      next => exact absurd rfl (hrest '.' rfl).2
      next => rfl
  | cons d ds =>
      have hspan := Numeral.spanDigits_append hp.isDigit_frac fun c hc => (hrest c hc).1
      have htext : p.fracText = '.' :: p.frac := by
        rw [Parts.fracText, hfrac]
        rfl
      refine ⟨some (p.frac.map fun c => c.toNat - 48, rest), ?_, by simp, by rw [hfrac]; rfl, rfl⟩
      rw [htext, List.cons_append]
      simp only [readFraction?, hspan]
      rw [hfrac]
      rfl

/-- The exponent is read if there is one, and what follows the number is left. -/
theorem readPower?_powerText (p : Parts) (h : Closes rest) :
    ∃ power, readPower? (p.powerText ++ rest) = power ∧ (power.isNone = true ↔ p.power = none) ∧
      (power.map Prod.fst).getD 0 = p.power.getD 0 ∧
      (power.map Prod.snd).getD (p.powerText ++ rest) = rest := by
  rw [Parts.powerText]
  cases p.power with
  | none => exact ⟨none, h.readPower?, by simp, rfl, rfl⟩
  | some e =>
      obtain ⟨ds, htext, hne, hdigits, hvalue⟩ := Numeral.exists_exponentText e
      obtain ⟨d, ds, rfl⟩ := List.exists_cons_of_ne_nil hne
      have hspan := Numeral.spanDigits_append hdigits h.asciiDigit?_head
      have hnumber := Numeral.ofDigits_map (d :: ds)
      rw [List.map_cons] at hspan hnumber
      refine ⟨some (e, rest), ?_, by simp, rfl, rfl⟩
      simp only [List.cons_append, htext, readPower?] at hspan ⊢
      simp only [Numeral.spanSign_exponent, hspan, hnumber, hvalue]
      rw [if_pos (by decide), Numeral.signed_natAbs]

/-! ### Numbers -/

theorem sign_eq {negative negative' : Bool} {c : Char} {cs unsigned : List Char}
    (hc : c.isDigit)
    (h : (match (if negative then '-' :: c :: cs else c :: cs) with
      | '-' :: rest => (true, rest)
      | _ => (false, if negative then '-' :: c :: cs else c :: cs)) = (negative', unsigned)) :
    negative' = negative ∧ unsigned = c :: cs := by
  cases negative with
  | true =>
      cases h
      exact ⟨rfl, rfl⟩
  | false =>
      simp only [Bool.false_eq_true, if_false] at h
      split at h
      next heq =>
          cases heq
          exact absurd hc (by decide)
      next =>
          cases h
          exact ⟨rfl, rfl⟩

theorem signed_append (negative : Bool) (unsigned : List Char) :
    (if negative then '-' :: unsigned else unsigned) ++ rest =
      if negative then '-' :: (unsigned ++ rest) else unsigned ++ rest := by
  cases negative <;> rfl

/-- A number with a point or an exponent is read as a floating-point number. -/
theorem readNumber_body (hp : p.IsWritten) (negative : Bool) (h : Closes rest) :
    readNumber ((if negative then '-' :: p.body else p.body) ++ rest) =
      .ok (.float (Numeral.toDouble ⟨negative, p.coeff, p.exponent⟩), rest) := by
  have hafter := powerText_append_head p h
  have hwhole := readWhole?_append hp.whole_ne_nil hp.isDigit_whole hp.whole_zero
    (fracText_append_head p hafter)
  obtain ⟨fraction, hfraction, hpointed, hfrac, hleft⟩ := readFraction?_fracText hp hafter
  obtain ⟨power, hpower, hraised, hexponent, hleft'⟩ := readPower?_powerText p h
  have hbroken : ¬(fraction.isNone = true ∧ power.isNone = true) := by
    rintro ⟨hnone, hnone'⟩
    rcases hp.broken with hne | hsome
    · exact hne (hpointed.mp hnone)
    · rw [hraised.mp hnone'] at hsome
      cases hsome
  obtain ⟨c, cs, hcons, hc⟩ := hp.exists_whole
  rw [signed_append, Parts.body, List.append_assoc, List.append_assoc, hcons, List.cons_append]
  rw [hcons, List.cons_append] at hwhole
  unfold readNumber
  split
  next negative' unsigned hsign =>
  obtain ⟨rfl, rfl⟩ := sign_eq hc hsign
  simp only [hwhole, hfraction, hleft, hpower, hfrac, hexponent, hleft', if_neg hbroken,
    ← List.map_append, Numeral.ofDigits_map, List.length_map, Parts.coeff, Parts.exponent, hcons]

theorem exists_intText (i : Int) (rest : List Char) :
    ∃ c cs, c.isDigit ∧ Double.digitsOf i.natAbs = c :: cs ∧
      (Value.intText i).toList ++ rest =
        if decide (i < 0) = true then '-' :: c :: (cs ++ rest) else c :: (cs ++ rest) := by
  obtain ⟨c, cs, hcons⟩ := List.exists_cons_of_ne_nil (Numeral.digitsOf_ne_nil i.natAbs)
  refine ⟨c, cs, Numeral.isDigit_of_mem_digitsOf (n := i.natAbs) (by simp [hcons]), hcons, ?_⟩
  simp only [Value.intText, String.toList_ofList, decide_eq_true_eq, hcons]
  split <;> rfl

theorem readNumber_intText {i : Int} (hi : (Double.digitsOf i.natAbs).length ≤ Numeral.digitLimit)
    (h : Closes rest) : readNumber ((Value.intText i).toList ++ rest) = .ok (.int i, rest) := by
  obtain ⟨c, cs, hc, hcons, htext⟩ := exists_intText i rest
  have hzero : (c :: cs).head? = some '0' → c :: cs = ['0'] := by
    intro hhead
    rw [← hcons] at hhead ⊢
    by_cases hi : i.natAbs = 0
    · rw [hi]
      rfl
    · exact absurd hhead (Double.head?_digitsOf hi)
  have hdigits : ∀ d ∈ c :: cs, d.isDigit :=
    hcons ▸ fun d hd => Numeral.isDigit_of_mem_digitsOf hd
  have hwhole := readWhole?_append (List.cons_ne_nil c cs) hdigits hzero h.asciiDigit?_head
  have hnumber : (Numeral.ofDigits ((c :: cs).map fun c => c.toNat - 48) : Int) = i.natAbs := by
    rw [Numeral.ofDigits_map, ← hcons, Numeral.ofDigitChars_digitsOf]
  rw [List.cons_append] at hwhole
  rw [hcons] at hi
  rw [htext]
  unfold readNumber
  split
  next negative unsigned hsign =>
  obtain ⟨rfl, rfl⟩ := sign_eq hc hsign
  simp only [hwhole, h.readFraction?, Option.map_none, Option.getD_none, h.readPower?,
    Option.isNone_none, and_self, if_true, List.length_map, if_neg (Nat.not_lt.mpr hi), hnumber,
    Numeral.signed_natAbs]

/-! ### Scalars -/

theorem afterLiteral?_ne {l c : Char} (h : l ≠ c) (ls cs : List Char) :
    afterLiteral? (l :: ls) (c :: cs) = none := by
  rw [afterLiteral?, if_neg (by simpa using h)]

theorem readScalar_eq_readNumber {c : Char} (hc : c.isDigit) (negative : Bool) (cs : List Char) :
    readScalar (if negative then '-' :: c :: cs else c :: cs) =
      readNumber (if negative then '-' :: c :: cs else c :: cs) := by
  have hne : ∀ l : Char, l.isDigit = false → l ≠ c := fun l hl =>
    (Numeral.ne_of_isDigit hc hl).symm
  unfold readScalar
  cases negative with
  | true =>
      have hinfinity : afterLiteral? "-Infinity".toList ('-' :: c :: cs) = none :=
        afterLiteral?_ne (hne 'I' rfl) _ _
      simp only [if_true, hinfinity]
      rfl
  | false =>
      have hnone : ∀ (name : String) (l : Char) (ls : List Char), name.toList = l :: ls →
          l.isDigit = false → afterLiteral? name.toList (c :: cs) = none :=
        fun name l ls hname hl => hname ▸ afterLiteral?_ne (hne l hl) ls cs
      simp only [Bool.false_eq_true, if_false, hnone "null" 'n' _ rfl rfl,
        hnone "true" 't' _ rfl rfl, hnone "false" 'f' _ rfl rfl, hnone "NaN" 'N' _ rfl rfl,
        hnone "Infinity" 'I' _ rfl rfl, hnone "-Infinity" '-' _ rfl rfl]

theorem readScalar_intText {i : Int} (hi : (Double.digitsOf i.natAbs).length ≤ Numeral.digitLimit)
    (h : Closes rest) : readScalar ((Value.intText i).toList ++ rest) = .ok (.int i, rest) := by
  obtain ⟨c, cs, hc, -, htext⟩ := exists_intText i rest
  rw [← readNumber_intText hi h, htext, readScalar_eq_readNumber hc]

/-- A floating-point number is read back from its text, and the undefined number as the one
that documents name. -/
theorem readScalar_numberText (x : Double) (h : Closes rest) :
    readScalar ((numberText x).toList ++ rest) = .ok (.float x.named, rest) := by
  cases x with
  | nan named => cases named <;> rfl
  | inf negative => cases negative <;> rfl
  | finite negative mant shift hcanonical =>
      obtain ⟨p, hp, htext, hvalue⟩ := Double.exists_text_parts negative hcanonical
      obtain ⟨c, cs, hcons, hc⟩ := hp.exists_whole
      have hread := readNumber_body hp negative h
      rw [Numeral.toDouble_eq, hvalue, signed_append] at hread
      show readScalar ((Double.finite negative mant shift hcanonical).text.toList ++ rest) = _
      rw [htext, signed_append]
      rw [Parts.body, hcons, List.cons_append, List.cons_append] at hread ⊢
      rw [readScalar_eq_readNumber hc, hread]
      rfl

end Json

end AlertRules
