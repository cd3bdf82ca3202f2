import AlertRules.Comparison.Numeric
import AlertRules.Proofs.Number.Spelling

/-!
Texts that count as numbers.

A text counts as a number exactly if it is a numeral with nothing but white space around it and
the number that is written is in range. The number it counts as is then the one nearest to what
is written (`toNumber_text`). Texts with an information separator in them are left out: they can
have the form of a number and not be read as one.
-/

namespace AlertRules

namespace Numeral

/-- A text holds a spelling and nothing else but white space around it. -/
def Spelling.Fills (n : Spelling) (cs : List Char) : Prop :=
  ∃ before after, (∀ c ∈ before, Text.isWhiteSpace c) ∧ (∀ c ∈ after, Text.isWhiteSpace c) ∧
    cs = before ++ (n.text ++ after)

variable {cs : List Char}

theorem Spelling.Fills.read?_strip {n : Spelling} (h : n.Fills cs) :
    read? Text.digitValue? (Text.strip Text.isBlank cs) = some n.numeral := by
  obtain ⟨before, after, hbefore, hafter, rfl⟩ := h
  rw [Text.strip_pad (fun c hc => (Text.isWhiteSpace_iff.mp (hbefore c hc)).1)
    fun c hc => (Text.isWhiteSpace_iff.mp (hafter c hc)).1, Text.strip_of_forall n.isBlank_text,
    n.read?_text]

theorem exists_fills (hcs : ∀ c ∈ cs, Text.isSeparator c = false) {m : Numeral}
    (h : read? Text.digitValue? (Text.strip Text.isBlank cs) = some m) :
    ∃ n : Spelling, n.Fills cs ∧ n.numeral = m := by
  obtain ⟨n, htext, hnumeral⟩ := exists_spelling h
  obtain ⟨before, after, hbefore, hafter, hsplit⟩ := Text.exists_strip Text.isBlank cs
  rw [← htext] at hsplit
  refine ⟨n, ⟨before, after, fun c hc => ?_, fun c hc => ?_, hsplit⟩, hnumeral⟩
  · exact Text.isWhiteSpace_iff.mpr ⟨hbefore c hc, hcs c (by simp [hsplit, hc])⟩
  · exact Text.isWhiteSpace_iff.mpr ⟨hafter c hc, hcs c (by simp [hsplit, hc])⟩

end Numeral

namespace Value

open Numeral

variable {s t : String}

theorem toNumber_text_eq (h : ∀ c ∈ s.toList, Text.isSeparator c = false) :
    (text s).toNumber = .ok
      ((read? Text.digitValue? (Text.strip Text.isBlank s.toList)).bind fun m =>
        finite? m.toDouble) := by
  have hany : s.toList.any Text.isSeparator = false := by simpa using h
  rw [toNumber, textNumber]
  dsimp only
  split
  next hnone => rw [hnone, Option.bind_none]
  next m hsome =>
      rw [hany, if_neg Bool.false_ne_true, hsome]
      rfl

/-- A text that holds a spelling counts as the number of its numeral, if that is finite. -/
theorem toNumber_of_fills (h : ∀ c ∈ s.toList, Text.isSeparator c = false) {n : Spelling}
    (hn : n.Fills s.toList) : (text s).toNumber = .ok (finite? n.numeral.toDouble) := by
  rw [toNumber_text_eq h, hn.read?_strip]
  rfl

theorem exists_fills_of_toNumber (h : ∀ c ∈ s.toList, Text.isSeparator c = false) {x : Double}
    (hx : (text s).toNumber = .ok (some x)) : ∃ n : Spelling, n.Fills s.toList := by
  rw [toNumber_text_eq h] at hx
  obtain ⟨m, hm, -⟩ := Option.bind_eq_some_iff.mp (Except.ok.inj hx)
  obtain ⟨n, hn, -⟩ := exists_fills h hm
  exact ⟨n, hn⟩

theorem toNumber_eq_none_iff (h : ∀ c ∈ s.toList, Text.isSeparator c = false) :
    (text s).toNumber = .ok none ↔ ¬∃ x, (text s).toNumber = .ok (some x) := by
  rw [toNumber_text_eq h]
  cases (read? Text.digitValue? (Text.strip Text.isBlank s.toList)).bind fun m =>
    finite? m.toDouble <;> simp

theorem toNumber_congr (hs : ∀ c ∈ s.toList, Text.isSeparator c = false)
    (ht : ∀ c ∈ t.toList, Text.isSeparator c = false)
    (h : read? Text.digitValue? (Text.strip Text.isBlank t.toList) =
      read? Text.digitValue? (Text.strip Text.isBlank s.toList)) :
    (text t).toNumber = (text s).toNumber := by
  rw [toNumber_text_eq hs, toNumber_text_eq ht, h]

/-- White space around a text does not change what it counts as. -/
theorem toNumber_pad (h : ∀ c ∈ s.toList, Text.isSeparator c = false) {before after : List Char}
    (hbefore : ∀ c ∈ before, Text.isWhiteSpace c) (hafter : ∀ c ∈ after, Text.isWhiteSpace c) :
    (text (String.ofList (before ++ (s.toList ++ after)))).toNumber = (text s).toNumber := by
  refine toNumber_congr h ?_ ?_
  · rw [String.toList_ofList]
    refine List.forall_mem_append.mpr ⟨fun c hc => ?_, List.forall_mem_append.mpr
      ⟨h, fun c hc => ?_⟩⟩
    · exact (Text.isWhiteSpace_iff.mp (hbefore c hc)).2
    · exact (Text.isWhiteSpace_iff.mp (hafter c hc)).2
  · rw [String.toList_ofList, Text.strip_pad]
    · exact fun c hc => (Text.isWhiteSpace_iff.mp (hbefore c hc)).1
    · exact fun c hc => (Text.isWhiteSpace_iff.mp (hafter c hc)).1

theorem toNumber_of_sameReading (h : ∀ c ∈ s.toList, Text.isSeparator c = false)
    (hst : List.Forall₂ Text.SameReading s.toList t.toList) :
    (text t).toNumber = (text s).toNumber := by
  have hplain := Text.map_plainDigit_eq hst
  refine toNumber_congr h ?_ ?_
  · have hmap : ∀ cs : List Char, (∀ c ∈ cs, Text.isSeparator c = false) ↔
        ∀ c ∈ cs.map Text.plainDigit, Text.isSeparator c = false := fun cs => by
      simp [Text.class_plainDigit Text.isSeparator_of_digit]
    rwa [hmap, ← hplain, ← hmap]
  · have hstrip := Text.strip_map (Text.class_plainDigit Text.isBlank_of_digit)
    rw [← read?_plainDigit, ← hstrip, ← hplain, hstrip, read?_plainDigit]

/-- The number that a spelling counts as: the one nearest to what is written, with its sign. -/
theorem toNumber_eq_some_iff (h : ∀ c ∈ s.toList, Text.isSeparator c = false)
    {n : Spelling} (hn : n.Fills s.toList) {x : Double} :
    (text s).toNumber = .ok (some x) ↔
      |n.value| < Double.limit ∧ x.IsNearest n.value ∧ x.isNegative = n.sign.isMinus := by
  obtain ⟨hrange, hnearest, hsign⟩ := n.numeral.toDouble_rounded
  rw [n.toRat_numeral] at hrange hnearest
  rw [toNumber_of_fills h hn, finite?, ← hrange]
  constructor
  · intro hx
    split at hx
    next hfin =>
        cases hx
        exact ⟨hfin, hnearest hfin, hsign⟩
    next => cases hx
  · rintro ⟨hfin, hx, hsign'⟩
    have hrat := (hnearest hfin).unique hx
    rw [if_pos hfin, Double.eq_of_toRat? hfin hrat (hsign.trans hsign'.symm)]

/-- A text counts as a number exactly if it is a numeral with nothing but white space around it
and the number that is written is in range; it counts as the number nearest to it, with its
sign. So neither white space around a text nor the script of its digits matters. -/
theorem toNumber_text {s : String} (h : ∀ c ∈ s.toList, Text.isSeparator c = false) :
    ((∃ x, (text s).toNumber = .ok (some x)) ↔
        ∃ n : Spelling, n.Fills s.toList ∧ |n.value| < Double.limit) ∧
      ((text s).toNumber = .ok none ↔
        ¬∃ n : Spelling, n.Fills s.toList ∧ |n.value| < Double.limit) ∧
      (∀ n : Spelling, n.Fills s.toList → ∀ x : Double, (text s).toNumber = .ok (some x) ↔
        |n.value| < Double.limit ∧ x.IsNearest n.value ∧ x.isNegative = n.sign.isMinus) ∧
      (∀ before after : List Char, (∀ c ∈ before, Text.isWhiteSpace c) →
        (∀ c ∈ after, Text.isWhiteSpace c) →
        (text (String.ofList (before ++ (s.toList ++ after)))).toNumber = (text s).toNumber) ∧
      ∀ t : String, List.Forall₂ Text.SameReading s.toList t.toList →
        (text t).toNumber = (text s).toNumber := by
  have hsome : (∃ x, (text s).toNumber = .ok (some x)) ↔
      ∃ n : Spelling, n.Fills s.toList ∧ |n.value| < Double.limit := by
    constructor
    · rintro ⟨x, hx⟩
      obtain ⟨n, hn⟩ := exists_fills_of_toNumber h hx
      exact ⟨n, hn, ((toNumber_eq_some_iff h hn).mp hx).1⟩
    · rintro ⟨n, hn, hrange⟩
      rw [← n.toRat_numeral, ← n.numeral.toDouble_rounded.1] at hrange
      exact ⟨_, by rw [toNumber_of_fills h hn, finite?, if_pos hrange]⟩
  exact ⟨hsome, (toNumber_eq_none_iff h).trans hsome.not,
    fun n hn x => toNumber_eq_some_iff h hn,
    fun before after => toNumber_pad h, fun t => toNumber_of_sameReading h⟩

/-- Minus three and a half times ten, in digits of two scripts. -/
def minusThirtyFive : Spelling where
  sign := .minus
  figures := ⟨[⟨'\u0663', 3, by decide⟩], some [⟨'5', 5, by decide⟩], nofun⟩
  power? := some ⟨'E', .inr rfl, .plus, [⟨'\u0660', 0, by decide⟩, ⟨'1', 1, by decide⟩], nofun⟩

theorem toNumber_minusThirtyFive :
    let padded := String.ofList ('\u00a0' :: (minusThirtyFive.text ++ ['\n']))
    (∀ c ∈ padded.toList, Text.isSeparator c = false) ∧
      (text padded).toNumber = .ok (some (.ofInt (-35))) ∧
      (Double.ofInt (-35)).IsNearest (-35) := by
  intro padded
  have hany : padded.toList.any Text.isSeparator = false := by decide +kernel
  have hplain : ∀ c ∈ padded.toList, Text.isSeparator c = false := fun c hc =>
    Bool.not_eq_true _ ▸ List.any_eq_false.mp hany c hc
  have hnumber : (text padded).toNumber = .ok (some (.ofInt (-35))) := by decide +kernel
  have hfills : minusThirtyFive.Fills padded.toList :=
    ⟨['\u00a0'], ['\n'], List.forall_mem_singleton.mpr (by decide),
      List.forall_mem_singleton.mpr (by decide), String.toList_ofList⟩
  have hvalue : minusThirtyFive.value = -35 := by
    norm_num [minusThirtyFive, Spelling.value, Spelling.exponent, Figures.value, Figures.frac,
      Power.exponent, Digit.number, Nat.ofDigits_cons, Sign.factor]
  obtain ⟨-, hnearest, -⟩ := ((toNumber_text hplain).2.2.1 minusThirtyFive hfills _).mp hnumber
  exact ⟨hplain, hnumber, hvalue ▸ hnearest⟩

end Value

end AlertRules
