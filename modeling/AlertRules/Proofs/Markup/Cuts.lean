import AlertRules.Markup.Escape
import Mathlib.Data.List.Infix

/-!
Cutting escaped text.

A cut takes the first codes of a text and then mends its end: if the last
ampersand it kept is that of a reference cut short, the cut goes back to it.
That the last ampersand is enough to look at is in two facts about the six
references (`reference_shape`). An ampersand begins each of them and is nowhere
else in it, so a reference that is cut short is cut behind the last ampersand
there is, and the cut does not go back into another reference. And a semicolon
ends each and is nowhere else in it, so what was cut short can be told from what
was not (`dropCutReference_append`, `dropCutReference_cases`).

So no reference in a text is cut in the middle, and at most five characters are
given up for that. In a text that was escaped the only ampersands are those of
references, and what is left of it is the longest beginning that fits, escaped
(`truncate_whole`).
-/

namespace AlertRules

namespace Text

variable {n : Nat} {c : Char} {cs ds es rest : List Char} {ns : List Nat}

/-! ### Lengths in codes -/

theorem length_codes_le (cs : List Char) : (codes cs).length ≤ cs.length := by
  fun_induction codes cs with
  | case1 => simp
  | case2 c => simp
  | case3 d rest ih =>
      simp only [List.length_cons]
      omega
  | case4 c d rest h ih =>
      simp only [List.length_cons] at ih ⊢
      omega

theorem codes_eq_nil : codes cs = [] ↔ cs = [] := by
  fun_cases codes cs <;> simp

theorem length_codes_le_append (cs ds : List Char) :
    (codes cs).length ≤ (codes (cs ++ ds)).length := by
  fun_induction codes cs with
  | case1 => simp
  | case2 c =>
      have hpos : codes ([c] ++ ds) ≠ [] := by simp [codes_eq_nil]
      have := List.length_pos_of_ne_nil hpos
      simp only [List.length_singleton]
      omega
  | case3 d rest ih => simpa [codes_mark_cons] using ih
  | case4 c d rest h ih => simpa [codes_cons h] using ih

/-- What a text is followed by adds no more codes than it has characters. -/
theorem length_codes_append_le (cs ds : List Char) :
    (codes (cs ++ ds)).length ≤ (codes cs).length + ds.length := by
  fun_induction codes cs with
  | case1 => simpa using length_codes_le ds
  | case2 c => simpa [Nat.add_comm] using length_codes_le ([c] ++ ds)
  | case3 d rest ih =>
      simp only [List.cons_append, codes_mark_cons, List.length_cons]
      omega
  | case4 c d rest h ih =>
      simp only [List.cons_append, codes_cons h, List.length_cons] at ih ⊢
      omega

theorem codes_append (h : mark ∉ cs) (ds : List Char) :
    codes (cs ++ ds) = codes cs ++ codes ds := by
  induction cs with
  | nil => rfl
  | cons c cs ih =>
      have hc : c ≠ mark := fun same => h (by simp [same])
      have hcs : mark ∉ cs := fun hmem => h (List.mem_cons_of_mem c hmem)
      rw [List.cons_append, codes_cons hc, codes_cons hc, ih hcs, List.cons_append]

/-! ### The first codes -/

theorem takeCodes_isPrefix (n : Nat) (cs : List Char) : takeCodes n cs <+: cs := by
  fun_induction takeCodes n cs with
  | case1 => exact List.nil_prefix
  | case2 => exact List.nil_prefix
  | case3 => exact List.prefix_refl _
  | case4 n d rest ih => exact (List.prefix_cons_inj _).mpr ((List.prefix_cons_inj _).mpr ih)
  | case5 n c d rest hmark ih => exact (List.prefix_cons_inj _).mpr ih

/-- The first codes of a text are all of its beginnings that have no more codes. -/
theorem isPrefix_takeCodes (h : ds <+: cs) (hn : (codes ds).length ≤ n) :
    ds <+: takeCodes n cs := by
  fun_induction takeCodes n cs generalizing ds with
  | case1 =>
      have hnil : ds = [] := codes_eq_nil.mp (List.eq_nil_of_length_eq_zero (Nat.le_zero.mp hn))
      simp [hnil]
  | case2 => exact h
  | case3 => exact h
  | case4 n d rest ih =>
      obtain _ | ⟨x, _ | ⟨y, ds⟩⟩ := ds
      · exact List.nil_prefix
      · have hx : x = mark := (List.cons_prefix_cons.mp h).1
        simp [hx]
      · obtain ⟨hx, hrest⟩ := List.cons_prefix_cons.mp h
        obtain ⟨hy, hds⟩ := List.cons_prefix_cons.mp hrest
        subst hx hy
        simp only [codes_mark_cons, List.length_cons] at hn
        simpa using ih hds (by omega)
  | case5 n c d rest hmark ih =>
      obtain _ | ⟨x, ds⟩ := ds
      · exact List.nil_prefix
      · obtain ⟨hx, hds⟩ := List.cons_prefix_cons.mp h
        subst hx
        simp only [codes_cons hmark, List.length_cons] at hn
        simpa using ih hds (by omega)

/-! ### Texts that write codes -/

/-- Whether a text writes the given codes, each as it is to be written. -/
def Writes (cs : List Char) (ns : List Nat) : Prop :=
  (∀ n ∈ ns, n < 0x110000) ∧ cs = ns.flatMap charsOf

/-- Whether a text is the beginning of another that ends between two of its codes, when
it is codes that the other writes. -/
def Begins (cs ds : List Char) : Prop :=
  cs <+: ds ∧ ∀ ns, Writes ds ns → ∃ k, Writes cs (ns.take k)

theorem charsOf_cases (h : n < 0x110000) :
    (∃ d, 0x80 ≤ d.toNat ∧ charsOf n = [mark, d]) ∨ ∃ d, d ≠ mark ∧ charsOf n = [d] := by
  unfold charsOf
  split
  next half =>
      simp only [isHalf, Bool.and_eq_true, decide_eq_true_eq] at half
      have valid : (n + standInOffset).isValidChar := by
        unfold Nat.isValidChar standInOffset
        omega
      refine .inl ⟨_, ?_, rfl⟩
      rw [toNat_ofNat valid]
      omega
  next whole =>
      split
      next => exact .inl ⟨mark, by decide, rfl⟩
      next notMark =>
          have valid : n.isValidChar := by
            simp only [isHalf, Bool.and_eq_true, decide_eq_true_eq] at whole
            unfold Nat.isValidChar
            omega
          exact .inr ⟨_, fun same => notMark (same ▸ toNat_ofNat valid).symm, rfl⟩

/-- A beginning of what items are written as is what the first of them are written as,
and then nothing or part of what the next one is. -/
theorem isPrefix_flatMap {α : Type} {f : α → List Char} {as : List α} (h : cs <+: as.flatMap f) :
    ∃ bs rest part, as = bs ++ rest ∧ cs = bs.flatMap f ++ part ∧
      (part = [] ∨ ∃ a k, rest.head? = some a ∧ k < (f a).length ∧ part = (f a).take k) := by
  induction as generalizing cs with
  | nil => exact ⟨[], [], [], rfl, List.prefix_nil.mp h, .inl rfl⟩
  | cons a as ih =>
      obtain ⟨ds, hds⟩ := h
      rw [List.flatMap_cons, List.append_eq_append_iff] at hds
      obtain ⟨part, ha, -⟩ | ⟨cs', rfl, hrest⟩ := hds
      · -- the text ends within the first item, or where that does
        by_cases hall : part = []
        · exact ⟨[a], as, [], rfl, by simp [ha, hall], .inl rfl⟩
        · refine ⟨[], a :: as, cs, rfl, rfl, .inr ⟨a, cs.length, rfl, ?_, by simp [ha]⟩⟩
          have := List.length_pos_of_ne_nil hall
          rw [ha, List.length_append]
          omega
      · obtain ⟨bs, rest, part, rfl, rfl, hpart⟩ := ih ⟨ds, hrest.symm⟩
        exact ⟨a :: bs, rest, part, rfl, by simp, hpart⟩

/-- A beginning of a text that writes codes ends between two of them, or between a mark
and the character that goes with it. -/
theorem Writes.isPrefix (h : Writes cs ns) (hds : ds <+: cs) :
    ∃ k first, Writes first (ns.take k) ∧
      (ds = first ∨ ∃ d, 0x80 ≤ d.toNat ∧ ds = first ++ [mark] ∧ ds ++ [d] <+: cs) := by
  obtain ⟨hns, rfl⟩ := h
  obtain ⟨ms, rest, part, rfl, rfl, hpart⟩ := isPrefix_flatMap hds
  refine ⟨ms.length, ms.flatMap charsOf, ?_, ?_⟩
  · rw [List.take_left]
    exact ⟨fun n hn => hns n (List.mem_append_left rest hn), rfl⟩
  obtain rfl | ⟨n, k, hn, hk, rfl⟩ := hpart
  · exact .inl (List.append_nil _)
  obtain ⟨rest, rfl⟩ := List.head?_eq_some_iff.mp hn
  obtain ⟨d, hd, hcharsOf⟩ | ⟨d, -, hcharsOf⟩ := charsOf_cases (hns n (by simp))
  · match k with
    | 0 => exact .inl (by simp)
    | 1 => exact .inr ⟨d, hd, by simp [hcharsOf], by simp [hcharsOf]⟩
    | k + 2 =>
        rw [hcharsOf] at hk
        exact absurd hk (by simp)
  · have hk0 : k = 0 := by
      simp only [hcharsOf, List.length_singleton] at hk
      omega
    exact .inl (by simp [hk0])

/-- Before a character of the first half of a byte a text that writes codes may be cut. -/
theorem begins_of_append_cons (hc : c.toNat < 0x80) : Begins cs (cs ++ c :: ds) := by
  refine ⟨List.prefix_append _ _, fun ns hns => ?_⟩
  obtain ⟨k, first, hfirst, rfl | ⟨d, hd, rfl, hnext⟩⟩ := hns.isPrefix (List.prefix_append cs _)
  · exact ⟨k, hfirst⟩
  · -- what goes with a mark is not such a character
    have hsame : d = c := (List.cons_prefix_cons.mp ((List.prefix_append_right_inj _).mp hnext)).1
    subst hsame
    omega

theorem takeCodes_nil (n : Nat) : takeCodes n [] = [] := by
  cases n <;> rfl

theorem takeCodes_charsOf_append {m : Nat} (h : m < 0x110000) (n : Nat) (cs : List Char) :
    takeCodes (n + 1) (charsOf m ++ cs) = charsOf m ++ takeCodes n cs := by
  obtain ⟨d, -, hcharsOf⟩ | ⟨d, hd, hcharsOf⟩ := charsOf_cases h
  · simp [hcharsOf, takeCodes]
  · cases cs with
    | nil => simp [hcharsOf, takeCodes, takeCodes_nil]
    | cons c rest => simp [hcharsOf, takeCodes, hd]

theorem takeCodes_flatMap_charsOf (h : ∀ m ∈ ns, m < 0x110000) (n : Nat) :
    takeCodes n (ns.flatMap charsOf) = (ns.take n).flatMap charsOf := by
  induction ns generalizing n with
  | nil => simp [takeCodes_nil]
  | cons m ns ih =>
      have hns : ∀ m ∈ ns, m < 0x110000 := fun m' hm' => h m' (List.mem_cons_of_mem m hm')
      cases n with
      | zero => simp [takeCodes]
      | succ n =>
          rw [List.flatMap_cons, takeCodes_charsOf_append (h m List.mem_cons_self), ih hns,
            List.take_succ_cons, List.flatMap_cons]

theorem begins_takeCodes (n : Nat) (cs : List Char) : Begins (takeCodes n cs) cs := by
  refine ⟨takeCodes_isPrefix n cs, ?_⟩
  rintro ns ⟨hns, rfl⟩
  exact ⟨n, fun m hm => hns m (List.mem_of_mem_take hm), takeCodes_flatMap_charsOf hns n⟩

theorem Begins.trans (h : Begins cs ds) (h' : Begins ds es) : Begins cs es := by
  refine ⟨h.1.trans h'.1, fun ns hns => ?_⟩
  obtain ⟨k, hk⟩ := h'.2 ns hns
  obtain ⟨j, hj⟩ := h.2 _ hk
  exact ⟨min j k, by rwa [← List.take_take]⟩

theorem begins_refl (cs : List Char) : Begins cs cs :=
  ⟨List.prefix_refl cs, fun ns hns => ⟨ns.length, by rwa [List.take_length]⟩⟩

end Text

namespace Markup

open Text

variable {n : Nat} {c : Char} {cs ds before tail after r cut : List Char}

/-! ### References -/

/-- A reference is an ampersand, a name without ampersand and semicolon, and a
semicolon. -/
theorem reference_shape (h : r ∈ references) :
    ∃ name, r = '&' :: (name ++ [';']) ∧ '&' ∉ name ∧ ';' ∉ name ∧ mark ∉ name ∧
      name.length ≤ 4 := by
  simp only [references, List.mem_cons, List.not_mem_nil, or_false] at h
  obtain rfl | rfl | rfl | rfl | rfl | rfl := h
  · exact ⟨['a', 'm', 'p'], by decide⟩
  · exact ⟨['l', 't'], by decide⟩
  · exact ⟨['g', 't'], by decide⟩
  · exact ⟨['q', 'u', 'o', 't'], by decide⟩
  · exact ⟨['#', 'x', '2', '7'], by decide⟩
  · exact ⟨['#', 'x', '2', 'F'], by decide⟩

theorem escapeChar_cases (c : Char) :
    (escapeChar c = [c] ∧ c ≠ '&') ∨ escapeChar c ∈ references := by
  unfold escapeChar
  split_ifs with hamp
  case neg => exact .inl ⟨rfl, by simpa using hamp⟩
  all_goals exact .inr (by decide)

/-- Whether a text is some of a reference, and not all of it. -/
def CutShort (tail : List Char) : Prop :=
  ∃ r ∈ references, ∃ k, 0 < k ∧ k < r.length ∧ tail = r.take k

/-- What is left of a reference that is cut short is an ampersand and some of the name. -/
theorem CutShort.shape (h : CutShort tail) :
    ∃ rest, tail = '&' :: rest ∧ '&' ∉ rest ∧ ';' ∉ rest ∧ rest.length ≤ 4 := by
  obtain ⟨r, hr, k, hpos, hlt, rfl⟩ := h
  obtain ⟨name, rfl, hamp, hsemi, -, hlength⟩ := reference_shape hr
  obtain ⟨j, rfl⟩ := Nat.exists_eq_succ_of_ne_zero (Nat.pos_iff_ne_zero.mp hpos)
  have hj : j ≤ name.length := by
    simp only [List.length_cons, List.length_append, List.length_nil] at hlt
    omega
  refine ⟨name.take j, ?_, fun hmem => hamp (List.mem_of_mem_take hmem),
    fun hmem => hsemi (List.mem_of_mem_take hmem), ?_⟩
  · rw [Nat.succ_eq_add_one, List.take_succ_cons, List.take_append_of_le_length hj]
  · rw [List.length_take]
    omega

theorem CutShort.not_semicolon_mem (h : CutShort tail) : ';' ∉ tail := by
  obtain ⟨rest, rfl, -, hsemi, -⟩ := h.shape
  simpa using hsemi

/-- Whether a text from an ampersand on is a reference cut short. -/
theorem isCutReference_iff : isCutReference ('&' :: ds) = true ↔ CutShort ('&' :: ds) := by
  constructor
  · intro h
    simp only [isCutReference, Bool.and_eq_true, Bool.not_eq_true', List.any_eq_true,
      List.isPrefixOf_iff_prefix] at h
    obtain ⟨hsemi, r, hr, hbegin⟩ := h
    refine ⟨r, hr, ('&' :: ds).length, by simp, ?_, List.prefix_iff_eq_take.mp hbegin⟩
    refine lt_of_le_of_ne hbegin.length_le fun hlength => ?_
    -- all of a reference has a semicolon
    obtain ⟨name, hname, -⟩ := reference_shape hr
    have hall := hbegin.eq_of_length hlength
    simp [hall, hname] at hsemi
  · intro h
    have hsemi := h.not_semicolon_mem
    obtain ⟨r, hr, k, -, -, htake⟩ := h
    simp only [isCutReference, Bool.and_eq_true, Bool.not_eq_true', List.any_eq_true,
      List.isPrefixOf_iff_prefix]
    exact ⟨by simpa using hsemi, r, hr, htake ▸ List.take_prefix k r⟩

/-! ### Mending the end -/

theorem splitLastAmpersand?_eq_none : splitLastAmpersand? cs = none ↔ '&' ∉ cs := by
  induction cs with
  | nil => simp [splitLastAmpersand?]
  | cons c rest ih =>
      rw [splitLastAmpersand?]
      split
      next before tail hrest =>
          have hmem : '&' ∈ rest := by
            by_contra hnone
            simp [ih.mpr hnone] at hrest
          simp [hmem]
      next hrest =>
          have hnone := ih.mp hrest
          by_cases hc : c = '&'
          · simp [hc]
          · simp [hc, Ne.symm hc, hnone]

theorem splitLastAmpersand?_append_cons (h : '&' ∉ ds) (before : List Char) :
    splitLastAmpersand? (before ++ '&' :: ds) = some (before, '&' :: ds) := by
  induction before with
  | nil => simp [splitLastAmpersand?, splitLastAmpersand?_eq_none.mpr h]
  | cons c before ih => simp [splitLastAmpersand?, ih]

/-- A text is split where what follows has no further ampersand. -/
theorem exists_of_splitLastAmpersand? (h : splitLastAmpersand? cs = some (before, tail)) :
    cs = before ++ tail ∧ ∃ rest, tail = '&' :: rest := by
  induction cs generalizing before with
  | nil => simp [splitLastAmpersand?] at h
  | cons c rest ih =>
      rw [splitLastAmpersand?] at h
      split at h
      next before' tail' hrest =>
          obtain ⟨rfl, rfl⟩ := Prod.mk.inj (Option.some.inj h)
          obtain ⟨rfl, htail⟩ := ih hrest
          exact ⟨rfl, htail⟩
      next hrest =>
          split at h
          next hamp =>
              obtain ⟨rfl, rfl⟩ := Prod.mk.inj (Option.some.inj h)
              exact ⟨rfl, rest, by rw [eq_of_beq hamp]⟩
          next => simp at h

theorem dropCutReference_append (h : CutShort tail) (before : List Char) :
    dropCutReference (before ++ tail) = before := by
  obtain ⟨rest, rfl, hamp, -, -⟩ := h.shape
  simp [dropCutReference, splitLastAmpersand?_append_cons hamp, isCutReference_iff.mpr h]

/-- A text is left without the reference that is cut short at its end, or has none and
stays as it is. -/
theorem dropCutReference_cases (cs : List Char) :
    (∃ tail, CutShort tail ∧ cs = dropCutReference cs ++ tail) ∨
      dropCutReference cs = cs ∧ ∀ before tail, CutShort tail → cs ≠ before ++ tail := by
  by_cases hcut : ∃ before tail, CutShort tail ∧ cs = before ++ tail
  · obtain ⟨before, tail, htail, rfl⟩ := hcut
    exact .inl ⟨tail, htail, by rw [dropCutReference_append htail]⟩
  · refine .inr ⟨?_, fun before tail htail hcs => hcut ⟨before, tail, htail, hcs⟩⟩
    unfold dropCutReference
    split
    next before tail hsplit =>
        obtain ⟨hcs, rest, rfl⟩ := exists_of_splitLastAmpersand? hsplit
        rw [if_neg]
        exact fun hshort => hcut ⟨before, _, isCutReference_iff.mp hshort, hcs⟩
    next => rfl

/-! ### Cuts of any text -/

/-- A text that is too long is cut to its first codes, and the end is mended. -/
theorem truncateChars_eq (n : Nat) (cs : List Char) :
    truncateChars n cs =
      if (codes cs).length ≤ n then cs else dropCutReference (takeCodes n cs) := by
  simp [truncateChars, takeSigned]

theorem takeSigned_isPrefix (limit : Int) (cs : List Char) : takeSigned limit cs <+: cs := by
  unfold takeSigned
  split
  · exact takeCodes_isPrefix _ cs
  · exact takeCodes_isPrefix _ cs

theorem dropCutReference_isPrefix (cs : List Char) : dropCutReference cs <+: cs := by
  obtain ⟨tail, -, hcs⟩ | ⟨heq, -⟩ := dropCutReference_cases cs
  · exact ⟨tail, hcs.symm⟩
  · rw [heq]

theorem truncateChars_isPrefix (limit : Int) (cs : List Char) : truncateChars limit cs <+: cs := by
  unfold truncateChars
  split
  · exact List.prefix_refl cs
  · exact (dropCutReference_isPrefix _).trans (takeSigned_isPrefix limit cs)

/-- What the cut of a text to a number of codes is. -/
structure CutsWhole (n : Nat) (text cut : String) : Prop where
  begins : Begins cut.toList text.toList
  size_le : Text.size cut ≤ n
  eq_text : Text.size text ≤ n → cut = text
  le_size : n < Text.size text → n ≤ Text.size cut + 5
  /-- Each reference in the text is behind the cut, or all of it is before it. -/
  whole : ∀ before r after, r ∈ references → text.toList = before ++ r ++ after →
    cut.toList.length ≤ before.length ∨ (before ++ r).length ≤ cut.toList.length

/-- A beginning that ends within a part of the text has some of that part at its end. -/
theorem exists_eq_append_take (h : cut <+: before ++ r ++ after)
    (hbefore : before.length < cut.length) (hafter : cut.length < (before ++ r).length) :
    ∃ k, 0 < k ∧ k < r.length ∧ cut = before ++ r.take k := by
  rw [List.length_append] at hafter
  refine ⟨cut.length - before.length, by omega, by omega, ?_⟩
  calc cut = (before ++ (r ++ after)).take cut.length := by
        rw [← List.append_assoc]
        exact List.prefix_iff_eq_take.mp h
    _ = before ++ (r ++ after).take (cut.length - before.length) := by
        rw [List.take_append, List.take_of_length_le (by omega)]
    _ = before ++ r.take (cut.length - before.length) := by
        rw [List.take_append_of_le_length (by omega)]

theorem ampersand_not_mem_drop (hr : r ∈ references) {k : Nat} (hk : 0 < k) : '&' ∉ r.drop k := by
  obtain ⟨name, rfl, hamp, -⟩ := reference_shape hr
  obtain ⟨j, rfl⟩ := Nat.exists_eq_succ_of_ne_zero (Nat.pos_iff_ne_zero.mp hk)
  intro hmem
  have := List.mem_of_mem_drop (show '&' ∈ (name ++ [';']).drop j from hmem)
  simp [hamp] at this

/-- An end that is mended leaves no reference cut in the middle. -/
theorem dropCutReference_whole (h : cs <+: before ++ r ++ after) (hr : r ∈ references) :
    (dropCutReference cs).length ≤ before.length ∨
      (before ++ r).length ≤ (dropCutReference cs).length := by
  by_contra! hwithin
  obtain ⟨k, hpos, hlt, hcut⟩ :=
    exists_eq_append_take ((dropCutReference_isPrefix cs).trans h) hwithin.1 hwithin.2
  obtain ⟨tail, htail, hcs⟩ | ⟨heq, hnone⟩ := dropCutReference_cases cs
  · -- an ampersand was dropped, which would stand in the reference behind its first
    obtain ⟨rest, rfl, -⟩ := htail.shape
    have hparts : before ++ r ++ after = (before ++ r.take k) ++ (r.drop k ++ after) := by
      rw [List.append_assoc, List.append_assoc, ← List.append_assoc (r.take k),
        List.take_append_drop]
    have hdrop : '&' :: rest <+: r.drop k ++ after := by
      rw [hcs, hcut, hparts] at h
      exact (List.prefix_append_right_inj _).mp h
    obtain ⟨c, left, hleft⟩ := List.exists_cons_of_length_pos (l := r.drop k) (by
      rw [List.length_drop]
      omega)
    have hc : '&' = c := by
      rw [hleft] at hdrop
      exact (List.cons_prefix_cons.mp hdrop).1
    refine ampersand_not_mem_drop hr hpos ?_
    rw [hleft, ← hc]
    exact List.mem_cons_self
  · exact hnone before _ ⟨r, hr, k, hpos, hlt, rfl⟩ (heq ▸ hcut)

theorem begins_dropCutReference (cs : List Char) : Begins (dropCutReference cs) cs := by
  obtain ⟨tail, htail, hcs⟩ | ⟨heq, -⟩ := dropCutReference_cases cs
  · obtain ⟨rest, rfl, -⟩ := htail.shape
    have h : Begins (dropCutReference cs) (dropCutReference cs ++ '&' :: rest) :=
      begins_of_append_cons (by decide)
    rwa [← hcs] at h
  · rw [heq]
    exact begins_refl cs

theorem length_codes_le_dropCutReference (cs : List Char) :
    (codes cs).length ≤ (codes (dropCutReference cs)).length + 5 := by
  obtain ⟨tail, htail, hcs⟩ | ⟨heq, -⟩ := dropCutReference_cases cs
  · obtain ⟨rest, rfl, -, -, hlength⟩ := htail.shape
    calc (codes cs).length
        = (codes (dropCutReference cs ++ '&' :: rest)).length := by rw [← hcs]
      _ ≤ (codes (dropCutReference cs)).length + ('&' :: rest).length :=
          length_codes_append_le _ _
      _ ≤ (codes (dropCutReference cs)).length + 5 := by
          simp only [List.length_cons]
          omega
  · rw [heq]
    omega

theorem length_codes_truncateChars_le (n : Nat) (cs : List Char) :
    (codes (truncateChars n cs)).length ≤ n := by
  rw [truncateChars_eq]
  split
  next hsize => exact hsize
  next =>
      obtain ⟨tail, htail⟩ := dropCutReference_isPrefix (takeCodes n cs)
      calc (codes (dropCutReference (takeCodes n cs))).length
          ≤ (codes (dropCutReference (takeCodes n cs) ++ tail)).length :=
            length_codes_le_append _ _
        _ = ((codes cs).take n).length := by rw [htail, codes_takeCodes]
        _ ≤ n := List.length_take_le _ _

theorem cutsWhole_truncate (n : Nat) (text : String) : CutsWhole n text (truncate n text) := by
  have hcut : (truncate n text).toList =
      if size text ≤ n then text.toList else dropCutReference (takeCodes n text.toList) := by
    rw [truncate, String.toList_ofList, truncateChars_eq]
    rfl
  by_cases hsize : size text ≤ n
  · rw [if_pos hsize, String.toList_inj] at hcut
    rw [hcut]
    refine ⟨begins_refl _, hsize, fun _ => rfl, fun hlt => by omega, ?_⟩
    intro before r after _ htext
    refine .inr ?_
    simp [htext]
  rw [if_neg hsize] at hcut
  have htaken : (codes (takeCodes n text.toList)).length = n := by
    rw [codes_takeCodes, List.length_take]
    exact min_eq_left (le_of_not_ge hsize)
  refine ⟨?begins, ?size_le, fun h => absurd h hsize, fun _ => ?le_size, ?whole⟩
  case begins =>
    rw [hcut]
    exact (begins_dropCutReference _).trans (begins_takeCodes n _)
  case size_le =>
    rw [size, truncate, String.toList_ofList]
    exact length_codes_truncateChars_le n _
  case le_size =>
    have hle := length_codes_le_dropCutReference (takeCodes n text.toList)
    rw [htaken] at hle
    rwa [size, hcut]
  case whole =>
    intro before r after hr htext
    have htaken := takeCodes_isPrefix n text.toList
    rw [htext] at htaken hcut
    rw [hcut]
    exact dropCutReference_whole htaken hr

/-! ### Cuts of escaped text -/

/-- What a text begins with, as far as it fits a number of codes when it is escaped. -/
structure LongestWithin (n : Nat) (s p : String) : Prop where
  begins : Begins p.toList s.toList
  size_le : Text.size (escape p) ≤ n
  longest : ∀ q : String, q.toList <+: s.toList → Text.size (escape q) ≤ n →
    q.toList <+: p.toList

/-- A beginning of escaped text is the beginning of the text escaped, and then nothing or
a reference cut short. -/
theorem isPrefix_escapeChars (h : cut <+: escapeChars cs) :
    ∃ p tail, p <+: cs ∧ cut = escapeChars p ++ tail ∧ (tail = [] ∨ CutShort tail) := by
  obtain ⟨p, rest, tail, rfl, rfl, htail⟩ := isPrefix_flatMap h
  refine ⟨p, tail, List.prefix_append p rest, rfl, ?_⟩
  obtain rfl | ⟨c, k, -, hk, rfl⟩ := htail
  · exact .inl rfl
  cases k with
  | zero => exact .inl rfl
  | succ k =>
      obtain ⟨hself, -⟩ | hreference := escapeChar_cases c
      · simp [hself] at hk
      · exact .inr ⟨_, hreference, k + 1, by omega, hk, rfl⟩

theorem not_escapeChar_isPrefix (h : CutShort tail) (c : Char) : ¬ escapeChar c <+: tail := by
  intro hbegin
  obtain ⟨hself, hne⟩ | hreference := escapeChar_cases c
  · obtain ⟨rest, rfl, -⟩ := h.shape
    rw [hself] at hbegin
    exact hne (List.cons_prefix_cons.mp hbegin).1
  · obtain ⟨name, hname, -⟩ := reference_shape hreference
    refine h.not_semicolon_mem (hbegin.subset ?_)
    simp [hname]

theorem escapeChars_ne_append (h : CutShort tail) : escapeChars cs ≠ before ++ tail := by
  induction cs generalizing before with
  | nil =>
      obtain ⟨rest, rfl, -⟩ := h.shape
      simp [escapeChars]
  | cons c cs ih =>
      intro hcs
      rw [escapeChars, List.flatMap_cons, List.append_eq_append_iff] at hcs
      obtain ⟨middle, -, hrest⟩ | ⟨last, hc, htail⟩ := hcs
      · exact ih hrest
      by_cases hlast : last = []
      · rw [hlast, List.nil_append] at htail
        exact ih (htail.symm.trans (List.nil_append tail).symm)
      -- the end reaches into what the first character is written as
      obtain ⟨hself, -⟩ | hreference := escapeChar_cases c
      · rw [hself] at hc
        have hc' : last = [c] := by
          cases before with
          | nil => exact hc.symm
          | cons b before => simp_all
        refine not_escapeChar_isPrefix h c ?_
        rw [hself, htail, hc']
        exact List.prefix_append _ _
      · obtain ⟨name, hname, -⟩ := reference_shape hreference
        have hend : last.getLast? = some ';' := by
          rw [← List.getLast?_append_of_ne_nil before hlast, ← hc, hname]
          exact List.getLast?_concat (l := '&' :: name)
        refine h.not_semicolon_mem ?_
        rw [htail]
        exact List.mem_append_left _ (List.mem_of_getLast? hend)

theorem escapeChars_append (cs ds : List Char) :
    escapeChars (cs ++ ds) = escapeChars cs ++ escapeChars ds :=
  List.flatMap_append

theorem escapeChars_isPrefix (h : cs <+: ds) : escapeChars cs <+: escapeChars ds := by
  obtain ⟨rest, rfl⟩ := h
  rw [escapeChars_append]
  exact List.prefix_append _ _

theorem escapeChar_ne_nil (c : Char) : escapeChar c ≠ [] := by
  obtain ⟨hself, -⟩ | hreference := escapeChar_cases c
  · simp [hself]
  · obtain ⟨name, hname, -⟩ := reference_shape hreference
    simp [hname]

theorem dropCutReference_escapeChars (cs : List Char) :
    dropCutReference (escapeChars cs) = escapeChars cs := by
  obtain ⟨tail, htail, hcs⟩ | ⟨heq, -⟩ := dropCutReference_cases (escapeChars cs)
  · exact absurd hcs (escapeChars_ne_append htail)
  · exact heq

/-- Mending the end of a beginning of escaped text leaves as much of the text as has
fit, escaped. -/
theorem dropCutReference_of_isPrefix_escapeChars (h : cut <+: escapeChars cs) :
    ∃ p, p <+: cs ∧ dropCutReference cut = escapeChars p ∧
      ∀ q, q <+: cs → escapeChars q <+: cut → q <+: p := by
  obtain ⟨p, tail, hp, rfl, htail⟩ := isPrefix_escapeChars h
  refine ⟨p, hp, ?mended, fun q hq hfits => ?longest⟩
  case mended =>
    obtain rfl | hshort := htail
    · rw [List.append_nil, dropCutReference_escapeChars]
    · exact dropCutReference_append hshort _
  case longest =>
    obtain hle | ⟨rest, rfl⟩ := List.prefix_or_prefix_of_prefix hq hp
    · exact hle
    rw [escapeChars_append, List.prefix_append_right_inj] at hfits
    cases rest with
    | nil => simp
    | cons c rest =>
        -- of the next character not all has fit
        have hc : escapeChar c <+: tail := (List.prefix_append _ _).trans hfits
        obtain rfl | hshort := htail
        · exact absurd (List.prefix_nil.mp hc) (escapeChar_ne_nil c)
        · exact absurd hc (not_escapeChar_isPrefix hshort c)

/-- What is left of escaped text is the longest beginning that fits, escaped. -/
theorem truncateChars_escapeChars (n : Nat) (cs : List Char) :
    ∃ p, p <+: cs ∧ truncateChars n (escapeChars cs) = escapeChars p ∧
      ∀ q, q <+: cs → (codes (escapeChars q)).length ≤ n → q <+: p := by
  rw [truncateChars_eq]
  split
  next => exact ⟨cs, List.prefix_refl cs, rfl, fun q hq _ => hq⟩
  next =>
      obtain ⟨p, hp, hcut, hlongest⟩ :=
        dropCutReference_of_isPrefix_escapeChars (takeCodes_isPrefix n (escapeChars cs))
      exact ⟨p, hp, hcut, fun q hq hfits =>
        hlongest q hq (isPrefix_takeCodes (escapeChars_isPrefix hq) hfits)⟩

theorem escapeChar_of_le (h : 0x80 ≤ c.toNat) : escapeChar c = [c] := by
  have hne : ∀ d : Char, d.toNat < 0x80 → c ≠ d := by
    rintro d hd rfl
    omega
  simp [escapeChar, hne]

theorem escapeChars_mark_pair (h : 0x80 ≤ c.toNat) : escapeChars [mark, c] = [mark, c] := by
  have hmark : escapeChar mark = [mark] := by decide
  simp [escapeChars, escapeChar_of_le h, hmark]

theorem mark_not_mem_escapeChar (h : c ≠ mark) : mark ∉ escapeChar c := by
  obtain ⟨hself, -⟩ | hreference := escapeChar_cases c
  · simpa [hself] using h.symm
  · obtain ⟨name, hname, -, -, hmark, -⟩ := reference_shape hreference
    have hamp : mark ≠ '&' := by decide
    have hsemi : mark ≠ ';' := by decide
    simp [hname, hmark, hamp, hsemi]

/-- The codes of escaped text and of what follows are read apart. -/
theorem codes_escapeChars_append {ns : List Nat} (h : Writes cs ns) (ds : List Char) :
    codes (escapeChars cs ++ ds) = codes (escapeChars cs) ++ codes ds := by
  obtain ⟨hns, rfl⟩ := h
  induction ns with
  | nil => rfl
  | cons n ns ih =>
      have hrest := ih fun m hm => hns m (List.mem_cons_of_mem n hm)
      rw [List.flatMap_cons, escapeChars_append, List.append_assoc]
      obtain ⟨d, hd, hcharsOf⟩ | ⟨d, hd, hcharsOf⟩ := charsOf_cases (hns n List.mem_cons_self)
      · rw [hcharsOf, escapeChars_mark_pair hd]
        simp only [List.cons_append, List.nil_append, codes_mark_cons, hrest]
      · have hescaped : escapeChars [d] = escapeChar d := List.flatMap_singleton escapeChar d
        have hmark := mark_not_mem_escapeChar hd
        rw [hcharsOf, hescaped, codes_append hmark, codes_append hmark, hrest, List.append_assoc]

/-- The longest beginning that fits ends between two codes: after a mark, the character
that goes with it fits as well. -/
theorem begins_of_longest (h : ds <+: cs) (hfits : (codes (escapeChars ds)).length ≤ n)
    (hlongest : ∀ q, q <+: cs → (codes (escapeChars q)).length ≤ n → q <+: ds) :
    Begins ds cs := by
  refine ⟨h, fun ns hns => ?_⟩
  obtain ⟨k, first, hfirst, rfl | ⟨d, hd, rfl, hnext⟩⟩ := hns.isPrefix h
  · exact ⟨k, hfirst⟩
  have hmark : escapeChars [mark] = [mark] := by decide
  have hsame : (codes (escapeChars (first ++ [mark] ++ [d]))).length ≤ n := by
    rw [escapeChars_append, hmark, codes_escapeChars_append hfirst] at hfits
    rw [List.append_assoc, List.singleton_append, escapeChars_append,
      escapeChars_mark_pair hd, codes_escapeChars_append hfirst]
    simpa [codes] using hfits
  have hle := (hlongest _ hnext hsame).length_le
  simp at hle

/-- A cut is a beginning of the text, no longer than asked for and at most five codes
shorter, in which no reference is cut in the middle. Of escaped text it leaves the longest
beginning that fits, escaped. -/
theorem truncate_whole (n : Nat) :
    (∀ text, CutsWhole n text (truncate n text)) ∧
      ∀ s, ∃ p, LongestWithin n s p ∧ truncate n (escape s) = escape p := by
  refine ⟨cutsWhole_truncate n, fun s => ?_⟩
  obtain ⟨p, hp, hcut, hlongest⟩ := truncateChars_escapeChars n s.toList
  have hfits : (codes (escapeChars p)).length ≤ n := hcut ▸ length_codes_truncateChars_le n _
  refine ⟨String.ofList p, ⟨?_, ?_, fun q hq hq' => ?_⟩, ?_⟩
  · rw [String.toList_ofList]
    exact begins_of_longest hp hfits hlongest
  · simpa [size, escape] using hfits
  · rw [String.toList_ofList]
    exact hlongest q.toList hq (by simpa [size, escape] using hq')
  · simp [truncate, escape, hcut]

/-- The cut would fall into the reference. -/
example : truncate 5 "a &lt; b" = "a " := by decide

end Markup

end AlertRules
