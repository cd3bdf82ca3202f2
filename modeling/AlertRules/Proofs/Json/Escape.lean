import AlertRules.Json.Reader
import AlertRules.Json.Writer
import Mathlib.Tactic.IntervalCases

/-!
The escapes of a JSON string.

A string is written unit by unit, and `readEscape` takes the unit back off
the front of what was written, so that a string tells its units
(`escapes_inj`). The codes of a text are more than its units: a character
beyond the basic plane has the same two units as the two halves that it
is made of, written side by side. A text in which no such two halves
stand side by side is `Joined`, and only such texts come out of
documents. Among them a string tells the text (`quote_inj`).
-/

namespace AlertRules

namespace Text

def unitsOf (code : Nat) : List Nat :=
  if code < 0x10000 then [code]
  else [0xd800 + (code - 0x10000) / 0x400, 0xdc00 + (code - 0x10000) % 0x400]

/-- Codes that are no more than the parts of a text: characters and halves,
and no two halves that would make a character. -/
def JoinedCodes (codes : List Nat) : Prop :=
  (∀ n ∈ codes, n < 0x110000) ∧
    codes.IsChain fun a b => ¬(Json.isHighUnit a = true ∧ Json.isLowUnit b = true)

/-- A text as it comes out of a document. -/
def Joined (s : String) : Prop := ∃ ns, JoinedCodes ns ∧ s.toList = ns.flatMap charsOf

theorem codes_flatMap_charsOf {ns : List Nat} (h : ∀ n ∈ ns, n < 0x110000) :
    codes (ns.flatMap charsOf) = ns := by
  induction ns with
  | nil => rfl
  | cons n ns ih =>
      rw [List.flatMap_cons, codes_charsOf_append (h n (by simp)),
        ih fun m hm => h m (List.mem_cons_of_mem n hm)]

theorem Joined.codes {s : String} (h : Joined s) :
    JoinedCodes (codes s.toList) ∧ s.toList = (codes s.toList).flatMap charsOf := by
  obtain ⟨ns, hns, hs⟩ := h
  have hcodes : Text.codes s.toList = ns := by rw [hs, codes_flatMap_charsOf hns.1]
  rw [hcodes]
  exact ⟨hns, hs⟩

/-- A text of characters that all mean themselves holds no half. -/
theorem joined_marked (cs : List Char) : Joined (String.ofList (marked cs)) := by
  refine ⟨cs.map Char.toNat, ⟨fun n hn => ?_, ?_⟩, ?_⟩
  · obtain ⟨c, -, rfl⟩ := List.mem_map.mp hn
    have hvalid : c.toNat.isValidChar := c.valid
    unfold Nat.isValidChar at hvalid
    omega
  · induction cs with
    | nil => exact List.IsChain.nil
    | cons c cs ih =>
        cases cs with
        | nil => exact List.IsChain.singleton _
        | cons d cs =>
            refine List.isChain_cons_cons.mpr ⟨fun hpair => ?_, ih⟩
            have hvalid : c.toNat.isValidChar := c.valid
            simp only [Json.isHighUnit, Bool.and_eq_true, decide_eq_true_eq] at hpair
            unfold Nat.isValidChar at hvalid
            omega
  · rw [String.toList_ofList, marked, List.flatMap_map]

theorem joined_of_marked {s : String} (h : marked s.toList = s.toList) : Joined s := by
  have hmarked := joined_marked s.toList
  rwa [h, String.ofList_toList] at hmarked

theorem unitsOf_lt {code : Nat} (h : code < 0x110000) : ∀ u ∈ unitsOf code, u < 0x10000 := by
  intro u hu
  unfold unitsOf at hu
  split at hu
  · rw [List.mem_singleton.mp hu]
    assumption
  · simp only [List.mem_cons, List.not_mem_nil, or_false] at hu
    omega

theorem unitsOf_basic {code : Nat} (h : code < 0x10000) : unitsOf code = [code] := if_pos h

theorem unitsOf_beyond {code : Nat} (h : ¬code < 0x10000) :
    unitsOf code = [0xd800 + (code - 0x10000) / 0x400, 0xdc00 + (code - 0x10000) % 0x400] :=
  if_neg h

theorem JoinedCodes.cons_ne_pair {n m : Nat} {ns rest : List Nat} (h : JoinedCodes (n :: ns))
    (hm : ¬m < 0x10000) (hbound : m < 0x110000) :
    n :: ns.flatMap unitsOf ≠ unitsOf m ++ rest := by
  intro heq
  rw [unitsOf_beyond hm] at heq
  obtain ⟨hhigh, htail⟩ := List.cons.inj heq
  cases ns with
  | nil => cases htail
  | cons k ns =>
      rw [List.flatMap_cons] at htail
      by_cases hk : k < 0x10000
      · rw [unitsOf_basic hk] at htail
        have hlow := (List.cons.inj htail).1
        have hhigh_unit : Json.isHighUnit n = true := by
          simp only [Json.isHighUnit, Bool.and_eq_true, decide_eq_true_eq]
          omega
        have hlow_unit : Json.isLowUnit k = true := by
          simp only [Json.isLowUnit, Bool.and_eq_true, decide_eq_true_eq]
          omega
        exact (List.isChain_cons_cons.mp h.2).1 ⟨hhigh_unit, hlow_unit⟩
      · have hk' : k < 0x110000 := h.1 k (by simp)
        rw [unitsOf_beyond hk] at htail
        have := (List.cons.inj htail).1
        omega

theorem JoinedCodes.tail {n : Nat} {ns : List Nat} (h : JoinedCodes (n :: ns)) :
    JoinedCodes ns := by
  refine ⟨fun m hm => h.1 m (List.mem_cons_of_mem n hm), ?_⟩
  cases ns with
  | nil => exact List.IsChain.nil
  | cons k ns => exact (List.isChain_cons_cons.mp h.2).2

theorem JoinedCodes.eq_of_units {ns ms : List Nat} (hns : JoinedCodes ns) (hms : JoinedCodes ms)
    (h : ns.flatMap unitsOf = ms.flatMap unitsOf) : ns = ms := by
  have hne : ∀ (n : Nat) (rest : List Nat), unitsOf n ++ rest ≠ [] := by
    intro n rest
    by_cases hn : n < 0x10000
    · simp [unitsOf_basic hn]
    · simp [unitsOf_beyond hn]
  induction ns generalizing ms with
  | nil =>
      cases ms with
      | nil => rfl
      | cons m ms => exact absurd h.symm (hne m _)
  | cons n ns ih =>
      cases ms with
      | nil => exact absurd h (hne n _)
      | cons m ms =>
          have hn' : n < 0x110000 := hns.1 n (by simp)
          have hm' : m < 0x110000 := hms.1 m (by simp)
          rw [List.flatMap_cons, List.flatMap_cons] at h
          by_cases hn : n < 0x10000
          · by_cases hm : m < 0x10000
            · rw [unitsOf_basic hn, unitsOf_basic hm] at h
              obtain ⟨rfl, htail⟩ := List.cons.inj h
              rw [ih hns.tail hms.tail htail]
            · rw [unitsOf_basic hn] at h
              exact absurd h (hns.cons_ne_pair hm hm')
          · by_cases hm : m < 0x10000
            · rw [unitsOf_basic hm] at h
              exact absurd h.symm (hms.cons_ne_pair hn hn')
            · rw [unitsOf_beyond hn, unitsOf_beyond hm] at h
              obtain ⟨hhigh, hrest⟩ := List.cons.inj h
              obtain ⟨hlow, htail⟩ := List.cons.inj hrest
              have hsame : n = m := by omega
              rw [hsame, ih hns.tail hms.tail htail]

end Text

namespace Json

open Text

/-! ### Hexadecimal digits -/

theorem hexDigit?_digitChar {d : Nat} (h : d < 16) : hexDigit? (Nat.digitChar d) = some d := by
  interval_cases d <;> rfl

theorem hex_succ {width : Nat} (hwidth : 0 < width) (n : Nat) :
    hex (width + 1) n = hex width (n / 16) ++ [Nat.digitChar (n % 16)] := by
  rcases Nat.lt_or_ge n 16 with hlt | hge
  · have hzero : n / 16 = 0 := Nat.div_eq_of_lt hlt
    have hmod : n % 16 = n := Nat.mod_eq_of_lt hlt
    simp only [hex, hzero, hmod, Nat.toDigits_of_lt_base hlt, Nat.toDigits_zero,
      List.length_singleton, Nat.add_sub_cancel]
    rw [← List.replicate_succ', Nat.sub_add_cancel hwidth]
  · have hdigits : Nat.toDigits 16 n = Nat.toDigits 16 (n / 16) ++ [Nat.digitChar (n % 16)] :=
      Nat.toDigits_of_base_le (by decide) hge
    simp only [hex, hdigits, List.length_append, List.length_singleton, Nat.add_sub_add_right,
      List.append_assoc]

theorem hex_one {n : Nat} (h : n < 16) : hex 1 n = [Nat.digitChar n] := by
  simp [hex, Nat.toDigits_of_lt_base h]

theorem hex_four {n : Nat} (h : n < 0x10000) :
    hex 4 n = [Nat.digitChar (n / 4096), Nat.digitChar (n / 256 % 16),
      Nat.digitChar (n / 16 % 16), Nat.digitChar (n % 16)] := by
  have htop : n / 16 / 16 / 16 < 16 := by omega
  rw [hex_succ (by decide), hex_succ (by decide), hex_succ (by decide), hex_one htop]
  simp only [Nat.div_div_eq_div_mul, List.cons_append, List.nil_append]

/-! ### Escapes -/

/-- The unit that an escaped text starts with, and what follows it. -/
def readEscape : List Char → Option (Nat × List Char)
  | '\\' :: 'u' :: a :: b :: c :: d :: rest => do
    let a ← hexDigit? a
    let b ← hexDigit? b
    let c ← hexDigit? c
    let d ← hexDigit? d
    pure (((a * 16 + b) * 16 + c) * 16 + d, rest)
  | '\\' :: e :: rest => (letterEscape? e).map fun c => (c.toNat, rest)
  | c :: rest => some (c.toNat, rest)
  | [] => none

theorem readEscape_unitEscape {n : Nat} (h : n < 0x10000) (rest : List Char) :
    readEscape (unitEscape n ++ rest) = some (n, rest) := by
  have h1 := hexDigit?_digitChar (d := n / 4096) (by omega)
  have h2 := hexDigit?_digitChar (d := n / 256 % 16) (by omega)
  have h3 := hexDigit?_digitChar (d := n / 16 % 16) (by omega)
  have h4 := hexDigit?_digitChar (d := n % 16) (by omega)
  have hvalue : ((n / 4096 * 16 + n / 256 % 16) * 16 + n / 16 % 16) * 16 + n % 16 = n := by omega
  simp only [unitEscape, hex_four h, List.cons_append, List.nil_append, readEscape, h1, h2, h3,
    h4, Option.bind_eq_bind, Option.bind_some, Option.pure_def, hvalue]

theorem toNat_eq_of_ofNat {n : Nat} {c : Char} (h : Char.ofNat n = c) (hc : c ≠ '\x00') :
    c.toNat = n := by
  by_cases hn : n.isValidChar
  · rw [← h, toNat_ofNat hn]
  · exact absurd (h.symm.trans (dif_neg hn)) hc

theorem readEscape_letter {e c : Char} (he : letterEscape? e = some c) (hu : e ≠ 'u')
    (rest : List Char) : readEscape ('\\' :: e :: rest) = some (c.toNat, rest) := by
  rw [readEscape]
  · rw [he]
    rfl
  · intro a b c d rest' heq
    exact absurd heq hu

/-- The forms of an escape: a backslash and a letter, a character that stands for
itself, one unit in digits, or two. -/
inductive EscapeForm : Nat → List Char → Prop where
  | letter {e c : Char} (he : letterEscape? e = some c) (hu : e ≠ 'u') (hascii : c.toNat < 0x80) :
      EscapeForm c.toNat ['\\', e]
  | plain {c : Char} (hquote : c ≠ '"') (hslash : c ≠ '\\') (hlow : 0x20 ≤ c.toNat)
      (hascii : c.toNat < 0x80) : EscapeForm c.toNat [c]
  | unit {n : Nat} (h : n < 0x10000) : EscapeForm n (unitEscape n)
  | pair {n high low : Nat} (hhigh : isHighUnit high = true) (hlow : isLowUnit low = true)
      (hn : 0x10000 + (high - 0xd800) * 0x400 + (low - 0xdc00) = n) :
      EscapeForm n (unitEscape high ++ unitEscape low)

theorem isHighUnit_iff {n : Nat} : isHighUnit n = true ↔ 0xd800 ≤ n ∧ n < 0xdc00 := by
  simp [isHighUnit]

theorem isLowUnit_iff {n : Nat} : isLowUnit n = true ↔ 0xdc00 ≤ n ∧ n < 0xe000 := by
  simp [isLowUnit]

theorem escapeForm {n : Nat} (h : n < 0x110000) : EscapeForm n (escapeCode n) := by
  unfold escapeCode
  simp only [beq_iff_eq]
  -- the quote, the backslash and the three characters of lines and tabs
  iterate 5
    split
    next hc =>
        rw [← toNat_eq_of_ofNat hc (by decide)]
        exact .letter rfl (by decide) (by decide)
  split
  next hn => exact hn ▸ EscapeForm.letter (e := 'b') (c := '\x08') rfl (by decide) (by decide)
  split
  next hn => exact hn ▸ EscapeForm.letter (e := 'f') (c := '\x0c') rfl (by decide) (by decide)
  split
  next hquote hslash _ _ _ _ _ hplain =>
      have hvalid : n.isValidChar := by
        unfold Nat.isValidChar
        omega
      have hcode : (Char.ofNat n).toNat = n := toNat_ofNat hvalid
      have hform := EscapeForm.plain hquote hslash (by omega) (by omega)
      rwa [hcode] at hform
  split
  next hn => exact .unit hn
  next hn => exact .pair (isHighUnit_iff.mpr (by omega)) (isLowUnit_iff.mpr (by omega)) (by omega)

theorem readEscape_escapeCode {n : Nat} (h : n < 0x10000) (rest : List Char) :
    readEscape (escapeCode n ++ rest) = some (n, rest) := by
  have hform := escapeForm (Nat.lt_trans h (by decide : 0x10000 < 0x110000))
  generalize escapeCode n = es at hform ⊢
  cases hform with
  | letter he hu => exact readEscape_letter he hu rest
  | plain hquote hslash =>
      rw [List.cons_append, List.nil_append, readEscape]
      · intro a b c d rest' heq
        exact absurd heq hslash
      · intro e rest' heq
        exact absurd heq hslash
  | unit => exact readEscape_unitEscape h rest
  | pair _ _ hn => omega

theorem escapeCode_of_le {n : Nat} (h : 0x7f ≤ n) :
    escapeCode n = if n < 0x10000 then unitEscape n
      else unitEscape (0xd800 + (n - 0x10000) / 0x400) ++
        unitEscape (0xdc00 + (n - 0x10000) % 0x400) := by
  -- whatever has an escape of its own comes before `0x7f`
  have hne : ∀ c : Char, c ≠ '\x00' → c.toNat < 0x7f → (Char.ofNat n == c) = false := by
    intro c hc hsmall
    rw [beq_eq_false_iff_ne]
    intro heq
    have := toNat_eq_of_ofNat heq hc
    omega
  have h8 : (n == 0x08) = false := beq_eq_false_iff_ne.mpr (by omega)
  have h12 : (n == 0x0c) = false := beq_eq_false_iff_ne.mpr (by omega)
  have hplain : ¬(0x20 ≤ n ∧ n < 0x7f) := by omega
  unfold escapeCode
  dsimp only
  rw [hne '"' (by decide) (by decide), hne '\\' (by decide) (by decide),
    hne '\n' (by decide) (by decide), hne '\r' (by decide) (by decide),
    hne '\t' (by decide) (by decide), h8, h12, if_neg hplain]
  simp only [Bool.false_eq_true, if_false]

theorem escapeCode_eq_units {n : Nat} (h : n < 0x110000) :
    escapeCode n = (unitsOf n).flatMap escapeCode := by
  by_cases hn : n < 0x10000
  · simp only [unitsOf_basic hn, List.flatMap_cons, List.flatMap_nil, List.append_nil]
  · have hhigh : 0xd800 + (n - 0x10000) / 0x400 < 0x10000 := by omega
    have hlow : 0xdc00 + (n - 0x10000) % 0x400 < 0x10000 := by omega
    rw [escapeCode_of_le (by omega), if_neg hn, unitsOf_beyond hn]
    simp only [List.flatMap_cons, List.flatMap_nil, List.append_nil]
    rw [escapeCode_of_le (by omega), if_pos hhigh, escapeCode_of_le (by omega), if_pos hlow]

/-! ### Strings -/

/-- Escapes tell the units that they write, whatever follows the closing quote. -/
theorem escapes_inj {us vs : List Nat} (hus : ∀ u ∈ us, u < 0x10000)
    (hvs : ∀ v ∈ vs, v < 0x10000) (h : us.flatMap escapeCode = vs.flatMap escapeCode) :
    us = vs := by
  induction us generalizing vs with
  | nil =>
      cases vs with
      | nil => rfl
      | cons v vs =>
          have hread := readEscape_escapeCode (hvs v (by simp)) (vs.flatMap escapeCode)
          rw [← List.flatMap_cons, ← h] at hread
          cases hread
  | cons u us ih =>
      have hu := readEscape_escapeCode (hus u (by simp)) (us.flatMap escapeCode)
      cases vs with
      | nil =>
          rw [← List.flatMap_cons, h] at hu
          cases hu
      | cons v vs =>
          have hv := readEscape_escapeCode (hvs v (by simp)) (vs.flatMap escapeCode)
          rw [← List.flatMap_cons, ← h, List.flatMap_cons, hu, Option.some.injEq,
            Prod.mk.injEq] at hv
          obtain ⟨rfl, htail⟩ := hv
          rw [ih (fun w hw => hus w (List.mem_cons_of_mem u hw))
            (fun w hw => hvs w (List.mem_cons_of_mem u hw)) htail]

theorem flatMap_escapeCode {ns : List Nat} (h : ∀ n ∈ ns, n < 0x110000) :
    ns.flatMap escapeCode = (ns.flatMap unitsOf).flatMap escapeCode := by
  induction ns with
  | nil => rfl
  | cons n ns ih =>
      rw [List.flatMap_cons, List.flatMap_cons, List.flatMap_append,
        ← escapeCode_eq_units (h n (by simp)), ih fun m hm => h m (List.mem_cons_of_mem n hm)]

theorem toList_quote (s : String) :
    (quote s).toList = '"' :: ((codes s.toList).flatMap escapeCode ++ ['"']) :=
  String.toList_ofList

theorem quote_inj {s t : String} (hs : Joined s) (ht : Joined t) (h : quote s = quote t) :
    s = t := by
  obtain ⟨hscodes, hs⟩ := hs.codes
  obtain ⟨htcodes, ht⟩ := ht.codes
  have hbodies : (codes s.toList).flatMap escapeCode = (codes t.toList).flatMap escapeCode := by
    have := congrArg String.toList h
    rw [toList_quote, toList_quote, List.cons.injEq] at this
    exact List.append_cancel_right this.2
  have hunits : (codes s.toList).flatMap unitsOf = (codes t.toList).flatMap unitsOf := by
    rw [flatMap_escapeCode hscodes.1, flatMap_escapeCode htcodes.1] at hbodies
    refine escapes_inj ?_ ?_ hbodies
    · intro u hu
      obtain ⟨n, hn, hu⟩ := List.mem_flatMap.mp hu
      exact unitsOf_lt (hscodes.1 n hn) u hu
    · intro u hu
      obtain ⟨n, hn, hu⟩ := List.mem_flatMap.mp hu
      exact unitsOf_lt (htcodes.1 n hn) u hu
  rw [← String.toList_inj, hs, ht, hscodes.eq_of_units htcodes hunits]

end Json

end AlertRules
