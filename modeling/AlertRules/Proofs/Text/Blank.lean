import AlertRules.Text.Blank
import AlertRules.Text.Digit
import Mathlib.Data.List.DropRight

/-!
Stripped texts, and digits of other scripts.

Stripping takes from both ends what is of the class and leaves the rest (`exists_strip`), so
what is added at the ends does not matter (`strip_pad`).

A digit of any script can be replaced by the one of the first script with the same value
(`plainDigit`). None of them is blank, so a text is stripped before or after its digits are
replaced.
-/

namespace AlertRules.Text

variable {p : Char → Bool} {cs before after : List Char}

/-! ### Stripping -/

theorem strip_eq (p : Char → Bool) (cs : List Char) :
    strip p cs = (cs.dropWhile p).rdropWhile p := rfl

theorem exists_strip (p : Char → Bool) (cs : List Char) :
    ∃ before after, (∀ c ∈ before, p c) ∧ (∀ c ∈ after, p c) ∧
      cs = before ++ (strip p cs ++ after) := by
  refine ⟨cs.takeWhile p, (cs.dropWhile p).rtakeWhile p, fun c => List.mem_takeWhile_imp,
    fun c => List.mem_rtakeWhile_imp, ?_⟩
  rw [strip_eq, List.rdropWhile_append_rtakeWhile, List.takeWhile_append_dropWhile]

theorem strip_append_left (h : ∀ c ∈ before, p c) (cs : List Char) :
    strip p (before ++ cs) = strip p cs := by
  rw [strip_eq, strip_eq, List.dropWhile_append_of_pos h]

theorem strip_append_right (h : ∀ c ∈ after, p c) (cs : List Char) :
    strip p (cs ++ after) = strip p cs := by
  rw [strip, strip, List.dropWhile_append]
  split
  next hempty =>
      rw [List.isEmpty_iff] at hempty
      rw [hempty, List.dropWhile_eq_nil_iff.mpr h]
  next =>
      rw [List.reverse_append, List.dropWhile_append_of_pos]
      simpa using h

theorem strip_pad (hbefore : ∀ c ∈ before, p c) (hafter : ∀ c ∈ after, p c) (cs : List Char) :
    strip p (before ++ (cs ++ after)) = strip p cs := by
  rw [strip_append_left hbefore, strip_append_right hafter]

theorem strip_of_forall (h : ∀ c ∈ cs, p c = false) : strip p cs = cs := by
  have hleft : cs.dropWhile p = cs := by
    cases cs with
    | nil => rfl
    | cons c cs => rw [List.dropWhile_cons, h c (by simp), if_neg Bool.false_ne_true]
  rw [strip_eq, hleft, List.rdropWhile_eq_self_iff]
  intro hne
  simp [h _ (List.getLast_mem hne)]

theorem strip_map {f : Char → Char} (h : ∀ c, p (f c) = p c) (cs : List Char) :
    strip p (cs.map f) = (strip p cs).map f := by
  have hcomp : p ∘ f = p := funext h
  simp only [strip, List.dropWhile_map, hcomp, ← List.map_reverse]

/-- White space is all that is blank apart from the separators. -/
theorem isWhiteSpace_iff {c : Char} :
    isWhiteSpace c = true ↔ isBlank c = true ∧ isSeparator c = false := by
  constructor
  · intro h
    refine ⟨by rw [isBlank, h, Bool.true_or], ?_⟩
    simp only [isWhiteSpace, Bool.or_eq_true, Bool.and_eq_true, decide_eq_true_eq,
      beq_iff_eq] at h
    simp only [isSeparator, Bool.and_eq_false_iff, decide_eq_false_iff_not]
    omega
  · rintro ⟨hblank, hseparator⟩
    rwa [isBlank, hseparator, Bool.or_false] at hblank

/-! ### Digits -/

theorem exists_zero {c : Char} {v : Nat} (h : digitValue? c = some v) :
    ∃ z ∈ zeroDigits, v < 10 ∧ c = Char.ofNat (z + v) := by
  have hchar : ∀ {n : Nat}, c.toNat = n → c = Char.ofNat n := fun hn => by
    rw [← hn, Char.ofNat_toNat]
  unfold digitValue? at h
  split at h
  · split at h
    next hrange =>
        cases h
        have hlow : 0x30 ≤ c.toNat := hrange.1
        have hhigh : c.toNat ≤ 0x39 := hrange.2
        exact ⟨0x30, by decide, by omega, hchar (by omega)⟩
    next => cases h
  · obtain ⟨z, hfind, rfl⟩ := Option.map_eq_some_iff.mp h
    have hrange : z ≤ c.toNat ∧ c.toNat < z + 10 := by simpa using List.find?_some hfind
    exact ⟨z, List.mem_of_find?_eq_some hfind, by omega, hchar (by omega)⟩

theorem isBlank_of_digit {c : Char} {v : Nat} (h : digitValue? c = some v) :
    isBlank c = false := by
  obtain ⟨z, hz, hv, rfl⟩ := exists_zero h
  have hnone : ∀ z ∈ zeroDigits, ∀ v < 10, isBlank (Char.ofNat (z + v)) = false := by
    decide +kernel
  exact hnone z hz v hv

theorem isSeparator_of_digit {c : Char} {v : Nat} (h : digitValue? c = some v) :
    isSeparator c = false :=
  (Bool.or_eq_false_iff.mp (isBlank_of_digit h)).2

/-- The digit of the first script that has the value of a digit. -/
def plainDigit (c : Char) : Char :=
  match digitValue? c with
  | some v => Char.ofNat (0x30 + v)
  | none => c

theorem plainDigit_of_none {c : Char} (h : digitValue? c = none) : plainDigit c = c := by
  rw [plainDigit, h]

@[simp] theorem digitValue?_plainDigit (c : Char) : digitValue? (plainDigit c) = digitValue? c := by
  cases h : digitValue? c with
  | none => rw [plainDigit_of_none h, h]
  | some v =>
      obtain ⟨-, -, hv, -⟩ := exists_zero h
      have hplain : ∀ v < 10, digitValue? (Char.ofNat (0x30 + v)) = some v := by decide
      rw [plainDigit, h]
      exact hplain v hv

/-- A character that is no digit stays as it is, and no other one becomes it. -/
theorem plainDigit_eq_iff {c d : Char} (hd : digitValue? d = none) : plainDigit c = d ↔ c = d := by
  constructor
  · intro h
    rw [← plainDigit_of_none (c := c) (by rw [← digitValue?_plainDigit, h, hd]), h]
  · rintro rfl
    exact plainDigit_of_none hd

theorem class_plainDigit {p : Char → Bool} (hp : ∀ {c v}, digitValue? c = some v → p c = false)
    (c : Char) : p (plainDigit c) = p c := by
  cases h : digitValue? c with
  | none => rw [plainDigit_of_none h]
  | some v =>
      have hplain : digitValue? (plainDigit c) = some v := (digitValue?_plainDigit c).trans h
      rw [hp h, hp hplain]

/-- Two characters that a numeral does not tell apart: the same one twice, or two digits of the
same value. -/
def SameReading (c d : Char) : Prop :=
  c = d ∨ ∃ v, digitValue? c = some v ∧ digitValue? d = some v

theorem SameReading.plainDigit_eq {c d : Char} (h : SameReading c d) :
    plainDigit c = plainDigit d := by
  rcases h with rfl | ⟨v, hc, hd⟩
  · rfl
  · rw [plainDigit, plainDigit, hc, hd]

theorem map_plainDigit_eq {ds : List Char} (h : List.Forall₂ SameReading cs ds) :
    cs.map plainDigit = ds.map plainDigit := by
  induction h with
  | nil => rfl
  | cons hcd _ ih => rw [List.map_cons, List.map_cons, hcd.plainDigit_eq, ih]

end AlertRules.Text
