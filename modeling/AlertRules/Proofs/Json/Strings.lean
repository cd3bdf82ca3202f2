import AlertRules.Proofs.Json.Escape

/-!
Reading back a JSON string.

The reader takes the escapes of a string one by one and puts the codes together that they
write. What it makes of one unit depends on what follows: a high unit and a low one behind
it are a character. Nothing that the codes of a joined text are followed by makes such a pair
with them (`follows_of_joinedCodes`), so each escape is read as its code
(`readText_escapeCode`) and a string as its text (`readString_quote`).
-/

namespace AlertRules

namespace Text

theorem charsOf_ascii {c : Char} (h : c.toNat < 0x80) : charsOf c.toNat = [c] := by
  have hwhole : isHalf c.toNat = false := by
    simp only [isHalf, Bool.and_eq_false_iff, decide_eq_false_iff_not]
    omega
  have hmark : c.toNat ≠ mark.toNat := by
    rw [show mark.toNat = 0xfdd0 from rfl]
    omega
  rw [charsOf, hwhole, if_neg Bool.false_ne_true, if_neg hmark, Char.ofNat_toNat]

/-- Four characters that mean themselves, and more, have more than four codes. -/
theorem four_lt_length_codes {a b c d : Char} (ha : a ≠ mark) (hb : b ≠ mark) (hc : c ≠ mark)
    (hd : d ≠ mark) {cs : List Char} (hcs : cs ≠ []) :
    4 < (codes (a :: b :: c :: d :: cs)).length := by
  have hpos : 0 < (codes cs).length := by
    rcases cs with - | ⟨x, - | ⟨y, rest⟩⟩
    · exact absurd rfl hcs
    · exact Nat.one_pos
    · rw [codes]
      split <;> exact Nat.succ_pos _
  rw [codes_cons ha, codes_cons hb, codes_cons hc, codes_cons hd]
  simp only [List.length_cons]
  omega

end Text

namespace Json

open Text

/-! ### Units -/

theorem digitChar_ne_mark {d : Nat} (h : d < 16) : Nat.digitChar d ≠ mark := by
  interval_cases d <;> decide

theorem readUnit?_hex {n : Nat} (h : n < 0x10000) {rest : List Char} (hrest : rest ≠ []) :
    readUnit? (hex 4 n ++ rest) = some (n, rest) := by
  have h1 := hexDigit?_digitChar (d := n / 4096) (by omega)
  have h2 := hexDigit?_digitChar (d := n / 256 % 16) (by omega)
  have h3 := hexDigit?_digitChar (d := n / 16 % 16) (by omega)
  have h4 := hexDigit?_digitChar (d := n % 16) (by omega)
  have hvalue : ((n / 4096 * 16 + n / 256 % 16) * 16 + n / 16 % 16) * 16 + n % 16 = n := by omega
  have hmore : rest.isEmpty = false := List.isEmpty_eq_false_iff.mpr hrest
  simp only [hex_four h, List.cons_append, List.nil_append, readUnit?, hmore, Bool.false_eq_true,
    if_false, h1, h2, h3, h4, Option.bind_eq_bind, Option.bind_some, Option.pure_def, hvalue]

theorem four_lt_length_codes_hex {n : Nat} (h : n < 0x10000) {rest : List Char}
    (hrest : rest ≠ []) : 4 < (codes ((hex 4 n ++ rest).take 10)).length := by
  have hmore : rest.take 6 ≠ [] := by
    simpa using hrest
  have hdigits := four_lt_length_codes (digitChar_ne_mark (d := n / 4096) (by omega))
    (digitChar_ne_mark (d := n / 256 % 16) (by omega))
    (digitChar_ne_mark (d := n / 16 % 16) (by omega))
    (digitChar_ne_mark (d := n % 16) (by omega)) hmore
  rw [hex_four h]
  exact hdigits

/-- What follows an escaped unit without making a pair with it. -/
inductive Follows (n : Nat) : List Char → Prop where
  | other {cs : List Char} (hne : cs ≠ []) (h : ∀ more, cs ≠ '\\' :: 'u' :: more) : Follows n cs
  | unit {m : Nat} {more : List Char} (hm : m < 0x10000)
      (hpair : ¬(isHighUnit n = true ∧ isLowUnit m = true)) (hmore : more ≠ []) :
      Follows n (unitEscape m ++ more)

theorem Follows.ne_nil {n : Nat} {cs : List Char} (h : Follows n cs) : cs ≠ [] := by
  cases h with
  | other hne => exact hne
  | unit => exact List.cons_ne_nil _ _

theorem readUnicode_unit {n : Nat} (h : n < 0x10000) (start : List Char) {rest : List Char}
    (hrest : Follows n rest) :
    readUnicode start (hex 4 n ++ rest) = .ok (charsOf n, rest) := by
  rw [readUnicode, readUnit?_hex h hrest.ne_nil]
  cases hrest with
  | other _ hother =>
      dsimp only
      split
      · exact absurd rfl (hother _)
      · rfl
  | @unit m more hm hpair hmore =>
      simp only [unitEscape, List.cons_append, readUnit?_hex hm hmore]
      split
      next hhigh => rw [if_neg fun hlow => hpair ⟨hhigh.1, hlow⟩]
      next => rfl

theorem lt_of_isHighUnit {n : Nat} (h : isHighUnit n = true) : n < 0x10000 :=
  Nat.lt_trans (isHighUnit_iff.mp h).2 (by decide)

theorem lt_of_isLowUnit {n : Nat} (h : isLowUnit n = true) : n < 0x10000 :=
  Nat.lt_trans (isLowUnit_iff.mp h).2 (by decide)

theorem readUnicode_pair {n high low : Nat} (hhigh : isHighUnit high = true)
    (hlow : isLowUnit low = true) (hn : 0x10000 + (high - 0xd800) * 0x400 + (low - 0xdc00) = n)
    (start : List Char) {rest : List Char} (hrest : rest ≠ []) :
    readUnicode start (hex 4 high ++ (unitEscape low ++ rest)) = .ok (charsOf n, rest) := by
  have hnext : unitEscape low ++ rest ≠ [] := List.cons_ne_nil _ _
  have hlow_lt := lt_of_isLowUnit hlow
  rw [readUnicode, readUnit?_hex (lt_of_isHighUnit hhigh) hnext]
  simp only [unitEscape, List.cons_append, hhigh, four_lt_length_codes_hex hlow_lt hrest,
    readUnit?_hex hlow_lt hrest, hlow, and_self, if_true, hn]

/-! ### Strings -/

/-- Behind a code of a joined text no other half of a pair is written. -/
theorem follows_of_joinedCodes {n : Nat} {ns : List Nat}
    (h : JoinedCodes (n :: ns)) (rest : List Char) :
    Follows n (ns.flatMap escapeCode ++ '"' :: rest) := by
  cases ns with
  | nil => exact .other (List.cons_ne_nil _ _) nofun
  | cons m ms =>
      rw [List.flatMap_cons, List.append_assoc]
      have hmore : ms.flatMap escapeCode ++ '"' :: rest ≠ [] := by simp
      have hform := escapeForm (h.1 m (by simp))
      generalize escapeCode m = es at hform ⊢
      cases hform with
      | letter he hu =>
          refine .other (List.cons_ne_nil _ _) fun more heq => hu ?_
          exact (List.cons.inj (List.cons.inj heq).2).1
      | plain hquote hslash =>
          exact .other (List.cons_ne_nil _ _) fun more heq => hslash (List.cons.inj heq).1
      | unit hm => exact .unit hm (List.isChain_cons_cons.mp h.2).1 hmore
      | pair hhigh =>
          rw [List.append_assoc]
          refine .unit (lt_of_isHighUnit hhigh) (fun hpair => ?_) (List.cons_ne_nil _ _)
          have hlow := isLowUnit_iff.mp hpair.2
          have := isHighUnit_iff.mp hhigh
          omega

theorem readText_escapeCode {n : Nat} (hn : n < 0x110000) (start : List Char) (fuel : Nat)
    {rest : List Char} (hrest : Follows n rest) :
    readText start (fuel + 1) (escapeCode n ++ rest) = (do
      let (text, rest) ← readText start fuel rest
      pure (charsOf n ++ text, rest)) := by
  have hform := escapeForm hn
  generalize escapeCode n = es at hform ⊢
  cases hform with
  | @letter e c he hu hascii =>
      rw [charsOf_ascii hascii]
      simp only [List.cons_append, List.nil_append, readText, he]
      rw [if_neg (by decide), if_pos (by decide), if_neg (by simpa using hu)]
  | @plain c hquote hslash hlow hascii =>
      rw [charsOf_ascii hascii]
      simp only [List.cons_append, List.nil_append, readText]
      rw [if_neg (by simpa using hquote), if_neg (by simpa using hslash), if_neg (by omega)]
  | unit h =>
      simp only [unitEscape, List.cons_append, readText, readUnicode_unit h _ hrest, bind,
        Except.bind]
      rw [if_neg (by decide), if_pos (by decide), if_pos (by decide)]
  | pair hhigh hlow hcode =>
      have hread := fun start => readUnicode_pair hhigh hlow hcode start hrest.ne_nil
      rw [List.append_assoc, unitEscape]
      simp only [List.cons_append, readText, hread, bind, Except.bind]
      rw [if_neg (by decide), if_pos (by decide), if_pos (by decide)]

/-- Escapes are read up to the closing quote: induction on the codes. -/
theorem readText_escapes {ns : List Nat} (h : JoinedCodes ns) (start : List Char) {fuel : Nat}
    (hfuel : ns.length < fuel) (rest : List Char) :
    readText start fuel (ns.flatMap escapeCode ++ '"' :: rest) =
      .ok (ns.flatMap charsOf, rest) := by
  induction ns generalizing fuel with
  | nil =>
      obtain ⟨fuel, rfl⟩ := Nat.exists_eq_succ_of_ne_zero (Nat.ne_of_gt hfuel)
      rfl
  | cons n ns ih =>
      obtain ⟨fuel, rfl⟩ := Nat.exists_eq_succ_of_ne_zero (Nat.ne_zero_of_lt hfuel)
      rw [List.flatMap_cons, List.append_assoc,
        readText_escapeCode (h.1 n (by simp)) start fuel (follows_of_joinedCodes h rest),
        ih h.tail (Nat.lt_of_succ_lt_succ hfuel)]
      rfl

theorem escapeCode_ne_nil {n : Nat} (h : n < 0x110000) : escapeCode n ≠ [] := by
  have hform := escapeForm h
  generalize escapeCode n = es at hform ⊢
  cases hform <;> exact List.cons_ne_nil _ _

theorem length_le_length_escapes {ns : List Nat} (h : ∀ n ∈ ns, n < 0x110000) :
    ns.length ≤ (ns.flatMap escapeCode).length := by
  induction ns with
  | nil => exact Nat.zero_le _
  | cons n ns ih =>
      obtain ⟨hn, hns⟩ := List.forall_mem_cons.mp h
      have hpos : 0 < (escapeCode n).length := List.length_pos_iff.mpr (escapeCode_ne_nil hn)
      have := ih hns
      rw [List.flatMap_cons, List.length_append, List.length_cons]
      omega

/-- A string is read as the text that it quotes, whatever follows. -/
theorem readString_quote {s : String} (h : Joined s) (rest : List Char) :
    readString ((quote s).toList ++ rest) = .ok (s, rest) := by
  obtain ⟨hcodes, hs⟩ := h.codes
  have hlength := length_le_length_escapes hcodes.1
  rw [toList_quote, List.cons_append, List.append_assoc, List.singleton_append, readString,
    List.drop_one, List.tail_cons, readText_escapes hcodes]
  · rw [← hs]
    exact congrArg (fun t => Except.ok (t, rest)) String.ofList_toList
  · simp only [List.length_cons, List.length_append]
    omega

end Json

end AlertRules
