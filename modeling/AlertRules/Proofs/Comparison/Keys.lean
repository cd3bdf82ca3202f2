import AlertRules.Proofs.Json.Items
import AlertRules.Proofs.Value.Sameness

/-!
Keys and JSON text.

The sets of keys are kept under the canonical texts of their lists, so
two values of one text must have one key. That is so for values that
documents hold (`ofValue_eq_of_canonical`): a text is told from the
others by its quote, a whole number from the others by its digits, and
every container is keyed by its text. The values that documents cannot
hold are written as if they were texts, and these values are the ones
that `Value.IsKeyed` leaves out.
-/

namespace AlertRules

namespace Json

/-! ### Kinds of text -/

/-- What the text of a value can be. -/
inductive TextKind where
  | null
  | bool
  | whole
  | number
  | string
  | container
  deriving DecidableEq

def isWholeChar (c : Char) : Bool := c.isDigit || c == '-'

def textKind : List Char → TextKind
  | [] => .null
  | c :: cs =>
    if c = '"' then .string
    else if c = '[' ∨ c = '\x7b' then .container
    else if c = 'n' then .null
    else if c = 't' ∨ c = 'f' then .bool
    else if (c :: cs).all isWholeChar then .whole
    else .number

theorem textKind_quote (s : String) : textKind (quote s).toList = .string := by
  rw [toList_quote, textKind, if_pos rfl]

theorem textKind_number {c : Char} (h : c.isDigit ∨ c = '-' ∨ c = 'N' ∨ c = 'I')
    (cs : List Char) :
    textKind (c :: cs) = if (c :: cs).all isWholeChar then .whole else .number := by
  have hne : c ≠ '"' ∧ ¬(c = '[' ∨ c = '\x7b') ∧ c ≠ 'n' ∧ ¬(c = 't' ∨ c = 'f') := by
    refine ⟨?_, ?_, ?_, ?_⟩
    · rintro rfl
      exact absurd h (by decide)
    · rintro (rfl | rfl) <;> exact absurd h (by decide)
    · rintro rfl
      exact absurd h (by decide)
    · rintro (rfl | rfl) <;> exact absurd h (by decide)
  rw [textKind, if_neg hne.1, if_neg hne.2.1, if_neg hne.2.2.1, if_neg hne.2.2.2]

theorem textKind_intText (i : Int) : textKind (Value.intText i).toList = .whole := by
  have hdigits : ∀ c ∈ Double.digitsOf i.natAbs, c.isDigit :=
    fun c hc => Numeral.isDigit_of_mem_digitsOf hc
  have hwhole : (Double.digitsOf i.natAbs).all isWholeChar := by
    rw [List.all_eq_true]
    intro c hc
    rw [isWholeChar, hdigits c hc, Bool.true_or]
  simp only [Value.intText, String.toList_ofList]
  split
  · rw [textKind_number (by decide), List.all_cons, hwhole]
    rfl
  · obtain ⟨c, cs, hcs⟩ := List.exists_cons_of_ne_nil (Numeral.digitsOf_ne_nil i.natAbs)
    have hdigit := hdigits c (by simp [hcs])
    rw [hcs, textKind_number (.inl hdigit), ← hcs, if_pos hwhole]

theorem exists_fraction_body {p : Numeral.Parts} (h : p.IsWritten) :
    ∃ c ∈ p.body, isWholeChar c = false := by
  rcases h.broken with hfrac | hpower
  · exact ⟨'.', by simp [Numeral.Parts.body, Numeral.Parts.fracText, hfrac], by decide⟩
  · obtain ⟨e, he⟩ := Option.isSome_iff_exists.mp hpower
    exact ⟨'e', by simp [Numeral.Parts.body, Numeral.Parts.powerText, he], by decide⟩

/-- The text of a floating-point number is more than a whole number. -/
theorem exists_fraction (x : Double) : ∃ c ∈ (numberText x).toList, isWholeChar c = false := by
  cases x with
  | nan named =>
      rw [numberText]
      exact ⟨'N', by decide, by decide⟩
  | inf negative =>
      cases negative
      · exact ⟨'I', by decide, by decide⟩
      · exact ⟨'I', by decide, by decide⟩
  | finite negative mant shift h =>
      obtain ⟨p, hp, htext, -⟩ := Double.exists_text_parts negative h
      obtain ⟨c, hc, hfraction⟩ := exists_fraction_body hp
      refine ⟨c, ?_, hfraction⟩
      rw [numberText_finite, htext]
      split
      · exact List.mem_cons_of_mem '-' hc
      · exact hc

theorem textKind_numberText (x : Double) : textKind (numberText x).toList = .number := by
  obtain ⟨c, cs, hcons, hc⟩ := numberText_eq_cons x
  obtain ⟨d, hd, hfraction⟩ := exists_fraction x
  rw [hcons] at hd ⊢
  rw [textKind_number hc, if_neg]
  intro hall
  rw [List.all_eq_true.mp hall d hd] at hfraction
  cases hfraction

/-! ### Numbers by their texts -/

theorem intText_inj {i j : Int} (h : Value.intText i = Value.intText j) : i = j := by
  have hdigit : ∀ n : Nat, ∀ cs, Double.digitsOf n ≠ '-' :: cs := by
    intro n cs heq
    have := Numeral.isDigit_of_mem_digitsOf (n := n) (c := '-') (by simp [heq])
    exact absurd this (by decide)
  have hnatAbs : ∀ {m n : Nat}, Double.digitsOf m = Double.digitsOf n → m = n := by
    intro m n heq
    rw [← Numeral.ofDigitChars_digitsOf m, heq, Numeral.ofDigitChars_digitsOf]
  have hchars := congrArg String.toList h
  simp only [Value.intText, String.toList_ofList] at hchars
  split at hchars
  · split at hchars
    · have := hnatAbs (List.cons.inj hchars).2
      omega
    · exact absurd hchars.symm (hdigit _ _)
  · split at hchars
    · exact absurd hchars (hdigit _ _)
    · have := hnatAbs hchars
      omega

/-- The text of a number tells the number, but for the undefined ones. -/
theorem numberText_inj {x y : Double} (hx : x ≠ .nan false) (hy : y ≠ .nan false)
    (h : numberText x = numberText y) : x = y := by
  -- a finite number is read back from its text, and the others are not read at all
  have hfinite : ∀ {z : Double} {negative : Bool} {mant shift : Nat}
      {hc : Double.Canonical mant shift},
      numberText z = numberText (.finite negative mant shift hc) →
        z = .finite negative mant shift hc := by
    intro z negative mant shift hc heq
    obtain ⟨coeff, e, hread, -⟩ := Double.read?_text negative hc
    rw [numberText_finite] at heq
    cases z with
    | nan named =>
        have hnone : Numeral.read? Text.asciiDigit? (numberText (.nan named)).toList = none := by
          rw [numberText]
          decide
        rw [heq, hread] at hnone
        cases hnone
    | inf sign =>
        have hnone : Numeral.read? Text.asciiDigit? (numberText (.inf sign)).toList = none := by
          cases sign <;> decide
        rw [heq, hread] at hnone
        cases hnone
    | finite sign mant' shift' hc' => exact Double.eq_of_text_eq hc heq
  cases y with
  | finite negative mant shift hc => exact hfinite h
  | nan named =>
      cases x with
      | finite negative mant shift hc => exact (hfinite h.symm).symm
      | nan named' => cases named <;> cases named' <;> simp_all
      | inf sign => cases sign <;> exact absurd h (by rw [numberText, numberText]; decide)
  | inf sign =>
      cases x with
      | finite negative mant shift hc => exact (hfinite h.symm).symm
      | nan named => cases sign <;> exact absurd h (by rw [numberText, numberText]; decide)
      | inf sign' => cases sign <;> cases sign' <;> first | rfl | exact absurd h (by decide)

end Json

namespace Value

open Json

/-! ### Keys by canonical texts -/

/-- A value whose key is to be read off its text. What a container holds
does not matter, since the key of a container is its text. -/
def IsKeyed : Value → Prop
  | .decimal _ | .missing => False
  | .float x => x ≠ .nan false
  | .text s => Text.Joined s
  | _ => True

def writtenKind : Value → TextKind
  | .null => .null
  | .bool _ => .bool
  | .int _ => .whole
  | .float _ => .number
  | .list _ | .tuple _ | .object _ => .container
  | _ => .string

theorem textKind_canonical (v : Value) : textKind (canonicalText v).toList = v.writtenKind := by
  cases v with
  | null => rfl
  | bool b => cases b <;> rfl
  | int i => exact textKind_intText i
  | float x => exact textKind_numberText x
  | decimal d => exact textKind_quote d.text
  | text s => exact textKind_quote s
  | list items =>
      simp only [canonicalText, write, String.toList_append]
      rfl
  | tuple items =>
      simp only [canonicalText, write, String.toList_append]
      rfl
  | object fields =>
      simp only [canonicalText, write, String.toList_append]
      rfl
  | missing => exact textKind_quote "MISSING"

/-- Of the keyed values, one without parts is told by its text. -/
theorem eq_of_canonical {v w : Value} (hv : v.IsKeyed) (hw : w.IsKeyed)
    (hscalar : v.isScalar = true) (h : canonicalText v = canonicalText w) : v = w := by
  have hkind : v.writtenKind = w.writtenKind := by
    rw [← textKind_canonical, h, textKind_canonical]
  cases v with
  | null =>
      cases w <;> first | rfl | cases hkind
  | bool b =>
      cases w with
      | bool b' => cases b <;> cases b' <;> first | rfl | exact absurd h (by decide)
      | _ => cases hkind
  | int i =>
      cases w with
      | int j => rw [intText_inj h]
      | _ => cases hkind
  | float x =>
      cases w with
      | float y => rw [numberText_inj hv hw h]
      | _ => cases hkind
  | text s =>
      cases w with
      | text t => rw [quote_inj hv hw h]
      | decimal d => cases hw
      | missing => cases hw
      | _ => cases hkind
  | decimal d => cases hv
  | missing => cases hv
  | list items | tuple items | object fields => cases hscalar

theorem ofValue_of_not_isScalar {v : Value} (h : v.isScalar = false) :
    MemberKey.ofValue v = .json (canonicalText v) := by
  cases v <;> first | rfl | cases h

theorem ofValue_eq_of_canonical {v w : Value} (hv : v.IsKeyed) (hw : w.IsKeyed)
    (h : canonicalText v = canonicalText w) : MemberKey.ofValue v = MemberKey.ofValue w := by
  cases hscalar : v.isScalar with
  | true => rw [eq_of_canonical hv hw hscalar h]
  | false =>
      cases hscalar' : w.isScalar with
      | true => rw [eq_of_canonical hw hv hscalar' h.symm]
      | false =>
          -- a list and a tuple of one text have one key
          rw [ofValue_of_not_isScalar hscalar, ofValue_of_not_isScalar hscalar', h]

theorem map_ofValue_eq {xs ys : List Value} (hxs : ∀ x ∈ xs, x.IsKeyed)
    (hys : ∀ y ∈ ys, y.IsKeyed) (h : canonicalText (.list xs) = canonicalText (.list ys)) :
    xs.map MemberKey.ofValue = ys.map MemberKey.ofValue := by
  have htexts := canonical_list_inj h
  clear h
  induction xs generalizing ys with
  | nil =>
      cases ys with
      | nil => rfl
      | cons y ys => cases htexts
  | cons x xs ih =>
      cases ys with
      | nil => cases htexts
      | cons y ys =>
          obtain ⟨hfirst, hrest⟩ := List.cons.inj htexts
          rw [List.map_cons, List.map_cons,
            ofValue_eq_of_canonical (hxs x (by simp)) (hys y (by simp)) hfirst,
            ih (fun z hz => hxs z (List.mem_cons_of_mem x hz))
              (fun z hz => hys z (List.mem_cons_of_mem y hz)) hrest]

end Value

end AlertRules
