import AlertRules.Proofs.Json.Escape
import AlertRules.Proofs.Number.Written
import AlertRules.Proofs.Text.Sorted

/-!
The items of a canonical list.

A scan of a JSON text that counts brackets and skips strings stops at
the first comma or closing bracket that belongs to the list around it.
The text of a value lets the scan pass (`passes_write`), so the first
item of a list ends where the scan stops, and the text of a list tells
the texts of its items (`canonical_list_inj`).
-/

namespace AlertRules.Json

/-! ### Scanning -/

/-- Where a scan stands: in so many brackets, inside a string or not, or
behind the backslash of an escape. -/
inductive Place where
  | outside (depth : Nat)
  | inside (depth : Nat)
  | escaped (depth : Nat)

def afterItem : Place → List Char → List Char
  | _, [] => []
  | .outside depth, c :: cs =>
    if c = '"' then afterItem (.inside depth) cs
    else if c = '[' ∨ c = '\x7b' then afterItem (.outside (depth + 1)) cs
    else if depth = 0 ∧ (c = ',' ∨ c = ']' ∨ c = '\x7d') then c :: cs
    else if c = ']' ∨ c = '\x7d' then afterItem (.outside (depth - 1)) cs
    else afterItem (.outside depth) cs
  | .inside depth, c :: cs =>
    if c = '"' then afterItem (.outside depth) cs
    else if c = '\\' then afterItem (.escaped depth) cs
    else afterItem (.inside depth) cs
  | .escaped depth, _ :: cs => afterItem (.inside depth) cs

/-- A text that the scan passes if it stands in at least `low` brackets. -/
def PassesFrom (low : Nat) (cs : List Char) : Prop :=
  ∀ depth rest, low ≤ depth →
    afterItem (.outside depth) (cs ++ rest) = afterItem (.outside depth) rest

def isPlain (c : Char) : Bool :=
  c != '"' && c != '[' && c != '\x7b' && c != ',' && c != ']' && c != '\x7d'

theorem PassesFrom.mono {low high : Nat} (hle : low ≤ high) {cs : List Char}
    (h : PassesFrom low cs) : PassesFrom high cs :=
  fun depth rest hdepth => h depth rest (Nat.le_trans hle hdepth)

theorem PassesFrom.nil (low : Nat) : PassesFrom low [] := fun _ _ _ => rfl

theorem PassesFrom.append {low : Nat} {cs ds : List Char} (hcs : PassesFrom low cs)
    (hds : PassesFrom low ds) : PassesFrom low (cs ++ ds) := by
  intro depth rest hdepth
  rw [List.append_assoc, hcs depth (ds ++ rest) hdepth, hds depth rest hdepth]

theorem PassesFrom.plain {cs : List Char} (h : ∀ c ∈ cs, isPlain c) (low : Nat) :
    PassesFrom low cs := by
  induction cs with
  | nil => exact PassesFrom.nil low
  | cons c cs ih =>
      intro depth rest hdepth
      have hc := h c (by simp)
      simp only [isPlain, Bool.and_eq_true, bne_iff_ne] at hc
      obtain ⟨⟨⟨⟨⟨hquote, hlist⟩, hobject⟩, hcomma⟩, hlist'⟩, hobject'⟩ := hc
      rw [List.cons_append, afterItem]
      simp only [hquote, hlist, hobject, hcomma, hlist', hobject', or_self, and_false, if_false]
      exact ih (fun d hd => h d (List.mem_cons_of_mem c hd)) depth rest hdepth

theorem PassesFrom.comma : PassesFrom 1 [','] := by
  intro depth rest hdepth
  have hne : depth ≠ 0 := by omega
  simp [afterItem, hne]

/-- Brackets let the scan pass if it passes what is between them. -/
theorem PassesFrom.brackets {cs : List Char} (h : PassesFrom 1 cs) {opening closing : Char}
    (hopening : opening = '[' ∨ opening = '\x7b') (hclosing : closing = ']' ∨ closing = '\x7d') :
    PassesFrom 0 (opening :: (cs ++ [closing])) := by
  intro depth rest _
  have hquote : opening ≠ '"' := by
    rcases hopening with rfl | rfl
    · decide
    · decide
  have hclosing' : closing ≠ '"' ∧ ¬(closing = '[' ∨ closing = '\x7b') := by
    rcases hclosing with rfl | rfl
    · decide
    · decide
  rw [List.cons_append, List.append_assoc, afterItem, if_neg hquote, if_pos hopening,
    h (depth + 1) _ (by omega), List.singleton_append, afterItem, if_neg hclosing'.1,
    if_neg hclosing'.2, if_neg (by omega), if_pos hclosing, Nat.add_sub_cancel]

/-! ### Strings and numbers -/

theorem codes_lt (cs : List Char) : ∀ n ∈ Text.codes cs, n < 0x110000 := by
  have hchar : ∀ c : Char, c.toNat < 0x110000 := by
    intro c
    have h : c.toNat.isValidChar := c.valid
    unfold Nat.isValidChar at h
    omega
  intro n hn
  fun_induction Text.codes cs with
  | case1 => cases hn
  | case2 c => exact List.mem_singleton.mp hn ▸ hchar c
  | case3 d rest ih =>
      rcases List.mem_cons.mp hn with rfl | hn
      · have := hchar d
        unfold Text.codeAfterMark
        split
        · exact hchar Text.mark
        · omega
      · exact ih hn
  | case4 c d rest h ih =>
      rcases List.mem_cons.mp hn with rfl | hn
      · exact hchar c
      · exact ih hn

theorem digitChar_inside {d : Nat} (h : d < 16) :
    Nat.digitChar d ≠ '"' ∧ Nat.digitChar d ≠ '\\' := by
  interval_cases d <;> decide

theorem afterItem_unitEscape {n : Nat} (h : n < 0x10000) (depth : Nat) (rest : List Char) :
    afterItem (.inside depth) (unitEscape n ++ rest) = afterItem (.inside depth) rest := by
  have h1 := digitChar_inside (d := n / 4096) (by omega)
  have h2 := digitChar_inside (d := n / 256 % 16) (by omega)
  have h3 := digitChar_inside (d := n / 16 % 16) (by omega)
  have h4 := digitChar_inside (d := n % 16) (by omega)
  have hslash : ('\\' : Char) ≠ '"' := by decide
  simp only [unitEscape, hex_four h, List.cons_append, List.nil_append, afterItem, if_neg hslash,
    if_true, if_neg h1.1, if_neg h1.2, if_neg h2.1, if_neg h2.2, if_neg h3.1, if_neg h3.2,
    if_neg h4.1, if_neg h4.2]

/-- The scan stays inside a string while it reads an escaped code. -/
theorem afterItem_escapeCode {n : Nat} (h : n < 0x10000) (depth : Nat) (rest : List Char) :
    afterItem (.inside depth) (escapeCode n ++ rest) = afterItem (.inside depth) rest := by
  have hform := escapeForm (Nat.lt_trans h (by decide : 0x10000 < 0x110000))
  generalize escapeCode n = es at hform ⊢
  cases hform with
  | letter => rfl
  | plain hquote hslash => rw [List.singleton_append, afterItem, if_neg hquote, if_neg hslash]
  | unit => exact afterItem_unitEscape h depth rest
  | pair _ _ hn => omega

theorem afterItem_escapes {us : List Nat} (h : ∀ u ∈ us, u < 0x10000) (depth : Nat)
    (rest : List Char) :
    afterItem (.inside depth) (us.flatMap escapeCode ++ rest) = afterItem (.inside depth) rest := by
  induction us with
  | nil => rfl
  | cons u us ih =>
      rw [List.flatMap_cons, List.append_assoc, afterItem_escapeCode (h u (by simp)),
        ih fun v hv => h v (List.mem_cons_of_mem u hv)]

theorem passes_quote (s : String) : PassesFrom 0 (quote s).toList := by
  intro depth rest _
  have hcodes := codes_lt s.toList
  have hunits : ∀ u ∈ (Text.codes s.toList).flatMap Text.unitsOf, u < 0x10000 := by
    intro u hu
    obtain ⟨n, hn, hu⟩ := List.mem_flatMap.mp hu
    exact Text.unitsOf_lt (hcodes n hn) u hu
  rw [toList_quote, List.cons_append, afterItem, if_pos rfl, List.append_assoc,
    flatMap_escapeCode hcodes, afterItem_escapes hunits, List.singleton_append, afterItem,
    if_pos rfl]

theorem isPlain_of_isDigit {c : Char} (h : c.isDigit) : isPlain c := by
  have hne : ∀ {d : Char}, d.isDigit = false → c ≠ d := Numeral.ne_of_isDigit h
  simp only [isPlain, Bool.and_eq_true, bne_iff_ne]
  exact ⟨⟨⟨⟨⟨hne rfl, hne rfl⟩, hne rfl⟩, hne rfl⟩, hne rfl⟩, hne rfl⟩

theorem isPlain_digits {ds : List Char} (h : ∀ c ∈ ds, c.isDigit) : ∀ c ∈ ds, isPlain c :=
  fun c hc => isPlain_of_isDigit (h c hc)

theorem isPlain_intText (i : Int) : ∀ c ∈ (Value.intText i).toList, isPlain c := by
  have hdigits : ∀ c ∈ Double.digitsOf i.natAbs, isPlain c :=
    isPlain_digits fun c hc => Numeral.isDigit_of_mem_digitsOf hc
  simp only [Value.intText, String.toList_ofList]
  split
  · simpa only [List.forall_mem_cons] using ⟨by decide, hdigits⟩
  · exact hdigits

theorem isPlain_exponentText (e : Int) : ∀ c ∈ Double.exponentText e, isPlain c := by
  have hdigits : ∀ c ∈ Double.digitsOf e.natAbs, isPlain c :=
    isPlain_digits fun c hc => Numeral.isDigit_of_mem_digitsOf hc
  simp only [Double.exponentText, List.forall_mem_cons]
  refine ⟨?_, ?_⟩
  · split
    · decide
    · decide
  · split
    · simpa only [List.forall_mem_cons] using ⟨by decide, hdigits⟩
    · exact hdigits

theorem isPlain_body {p : Numeral.Parts} (h : p.IsWritten) : ∀ c ∈ p.body, isPlain c := by
  simp only [Numeral.Parts.body, List.forall_mem_append]
  refine ⟨isPlain_digits h.isDigit_whole, ?_, ?_⟩
  · rw [Numeral.Parts.fracText]
    split
    · exact List.forall_mem_nil _
    · exact List.forall_mem_cons.mpr ⟨by decide, isPlain_digits h.isDigit_frac⟩
  · rw [Numeral.Parts.powerText]
    split
    · exact List.forall_mem_cons.mpr ⟨by decide, isPlain_exponentText _⟩
    · exact List.forall_mem_nil _

theorem numberText_finite (negative : Bool) {mant shift : Nat} (h : Double.Canonical mant shift) :
    numberText (.finite negative mant shift h) = (Double.finite negative mant shift h).text := rfl

theorem isPlain_numberText (x : Double) : ∀ c ∈ (numberText x).toList, isPlain c := by
  cases x with
  | nan named =>
      rw [numberText]
      exact List.all_eq_true.mp (by decide)
  | inf negative =>
      rw [numberText]
      cases negative
      · exact List.all_eq_true.mp (by decide)
      · exact List.all_eq_true.mp (by decide)
  | finite negative mant shift h =>
      obtain ⟨p, hp, htext, -⟩ := Double.exists_text_parts negative h
      rw [numberText_finite, htext]
      split
      · exact List.forall_mem_cons.mpr ⟨by decide, isPlain_body hp⟩
      · exact isPlain_body hp

/-! ### Values -/

theorem passes_joined {ts : List String} (h : ∀ t ∈ ts, PassesFrom 0 t.toList) :
    PassesFrom 1 (Value.joined "," ts).toList := by
  induction ts with
  | nil => exact PassesFrom.nil 1
  | cons t ts ih =>
      have ht : PassesFrom 1 t.toList := (h t (by simp)).mono (Nat.zero_le 1)
      have hts := ih fun u hu => h u (List.mem_cons_of_mem t hu)
      cases ts with
      | nil => exact ht
      | cons u us =>
          rw [Value.joined, String.toList_append, String.toList_append]
          · exact (ht.append PassesFrom.comma).append hts
          · exact List.cons_ne_nil u us

theorem passes_list {ts : List String} (h : ∀ t ∈ ts, PassesFrom 0 t.toList) :
    PassesFrom 0 ("[" ++ Value.joined "," ts ++ "]").toList := by
  rw [String.toList_append, String.toList_append]
  exact (passes_joined h).brackets (.inl rfl) (.inl rfl)

/-- A written field as it stands in the text of its object. -/
def entryText (entry : String × String) : String := quote entry.1 ++ ":" ++ entry.2

theorem passes_entryText {entry : String × String} (h : PassesFrom 0 entry.2.toList) :
    PassesFrom 0 (entryText entry).toList := by
  have hcolon : PassesFrom 0 [':'] := PassesFrom.plain (List.all_eq_true.mp (by decide)) 0
  rw [entryText, String.toList_append, String.toList_append]
  exact ((passes_quote entry.1).append hcolon).append h

theorem passes_object {entries : List (String × String)}
    (h : ∀ entry ∈ entries, PassesFrom 0 entry.2.toList) :
    PassesFrom 0 ("\x7b" ++ Value.joined "," (entries.map entryText) ++ "\x7d").toList := by
  have hentries : ∀ t ∈ entries.map entryText, PassesFrom 0 t.toList := by
    intro t ht
    obtain ⟨entry, hentry, rfl⟩ := List.mem_map.mp ht
    exact passes_entryText (h entry hentry)
  rw [String.toList_append, String.toList_append]
  exact (passes_joined hentries).brackets (.inr rfl) (.inr rfl)

mutual

theorem passes_write : ∀ v : Value, PassesFrom 0 (write .canonical v).toList
  | .null => PassesFrom.plain (List.all_eq_true.mp (by decide)) 0
  | .bool true => PassesFrom.plain (List.all_eq_true.mp (by decide)) 0
  | .bool false => PassesFrom.plain (List.all_eq_true.mp (by decide)) 0
  | .int i => PassesFrom.plain (isPlain_intText i) 0
  | .float x => PassesFrom.plain (isPlain_numberText x) 0
  | .decimal d => passes_quote d.text
  | .text s => passes_quote s
  | .list items => passes_list (passes_writeList items)
  | .tuple items => passes_list (passes_writeList items)
  | .object fields => passes_object fun field hfield =>
      passes_writeFields fields field ((Text.perm_sortOn _ _).mem_iff.mp hfield)
  | .missing => passes_quote "MISSING"

theorem passes_writeList : ∀ (items : List Value), ∀ t ∈ writeList .canonical items,
    PassesFrom 0 t.toList
  | [], _, h => absurd h (List.not_mem_nil)
  | v :: rest, t, h => (List.mem_cons.mp h).elim (fun ht => ht ▸ passes_write v)
      (passes_writeList rest t)

theorem passes_writeFields : ∀ (fields : List (String × Value)),
    ∀ field ∈ writeFields .canonical fields, PassesFrom 0 field.2.toList
  | [], _, h => absurd h (List.not_mem_nil)
  | (_, v) :: rest, field, h => (List.mem_cons.mp h).elim (fun ht => ht ▸ passes_write v)
      (passes_writeFields rest field)

end

/-! ### Lists -/

theorem append_ne_nil {s t : String} (h : s.toList ≠ []) : (s ++ t).toList ≠ [] := by
  intro hnil
  rw [String.toList_append, List.append_eq_nil_iff] at hnil
  exact h hnil.1

theorem quote_ne_nil (s : String) : (quote s).toList ≠ [] := by
  rw [toList_quote]
  exact List.cons_ne_nil _ _

/-- A number begins with a digit, a sign, or the letter of its name. -/
theorem numberText_eq_cons (x : Double) :
    ∃ c cs, (numberText x).toList = c :: cs ∧ (c.isDigit ∨ c = '-' ∨ c = 'N' ∨ c = 'I') := by
  cases x with
  | nan named => exact ⟨'N', "aN".toList, by rw [numberText]; decide, by decide⟩
  | inf negative =>
      cases negative
      · exact ⟨'I', "nfinity".toList, by decide, by decide⟩
      · exact ⟨'-', "Infinity".toList, by decide, by decide⟩
  | finite negative mant shift h =>
      obtain ⟨p, hp, htext, -⟩ := Double.exists_text_parts negative h
      obtain ⟨c, cs, hcons, hc⟩ := hp.exists_whole
      rw [numberText_finite, htext, Numeral.Parts.body, hcons]
      cases negative
      · exact ⟨c, _, rfl, .inl hc⟩
      · exact ⟨'-', _, rfl, by decide⟩

theorem write_ne_nil (v : Value) : (write .canonical v).toList ≠ [] := by
  cases v with
  | null =>
      rw [write]
      decide
  | bool b =>
      rw [write]
      cases b <;> decide
  | int i =>
      simp only [write, Value.intText, String.toList_ofList]
      split
      · exact List.cons_ne_nil _ _
      · exact Numeral.digitsOf_ne_nil _
  | float x =>
      obtain ⟨c, cs, hcons, -⟩ := numberText_eq_cons x
      rw [write, hcons]
      exact List.cons_ne_nil c cs
  | decimal d => exact quote_ne_nil d.text
  | text s => exact quote_ne_nil s
  | list items => exact append_ne_nil (append_ne_nil (by decide))
  | tuple items => exact append_ne_nil (append_ne_nil (by decide))
  | object fields => exact append_ne_nil (append_ne_nil (by decide))
  | missing => exact quote_ne_nil "MISSING"

def afterFirst (ts : List String) : List Char :=
  match ts with
  | [] => [']']
  | t :: ts => ',' :: ((Value.joined "," (t :: ts)).toList ++ [']'])

theorem joined_cons (t : String) (ts : List String) :
    (Value.joined "," (t :: ts)).toList ++ [']'] = t.toList ++ afterFirst ts := by
  cases ts with
  | nil => rfl
  | cons u us =>
      rw [Value.joined, String.toList_append, String.toList_append, List.append_assoc,
        List.append_assoc]
      · rfl
      · exact List.cons_ne_nil u us

theorem afterItem_first {t : String} (h : PassesFrom 0 t.toList) (ts : List String) :
    afterItem (.outside 0) (t.toList ++ afterFirst ts) = afterFirst ts := by
  rw [h 0 _ (Nat.le_refl 0)]
  cases ts with
  | nil => rfl
  | cons u us => simp [afterFirst, afterItem]

theorem joined_inj {ts us : List String} (hts : ∀ t ∈ ts, PassesFrom 0 t.toList ∧ t.toList ≠ [])
    (hus : ∀ u ∈ us, PassesFrom 0 u.toList ∧ u.toList ≠ [])
    (h : (Value.joined "," ts).toList ++ [']'] = (Value.joined "," us).toList ++ [']']) :
    ts = us := by
  -- a list with an item is written longer than one without
  have hempty : ∀ (u : String) (us : List String), u.toList ≠ [] →
      (Value.joined "," []).toList ++ [']'] ≠ (Value.joined "," (u :: us)).toList ++ [']'] := by
    intro u us hu heq
    rw [joined_cons] at heq
    have hlength := congrArg List.length heq
    have hfirst := List.length_pos_iff.mpr hu
    have hrest : 0 < (afterFirst us).length := by
      cases us with
      | nil => exact Nat.one_pos
      | cons v vs => exact Nat.succ_pos _
    simp only [Value.joined, String.toList_empty, List.nil_append, List.length_singleton,
      List.length_append] at hlength
    omega
  induction ts generalizing us with
  | nil =>
      cases us with
      | nil => rfl
      | cons u us => exact absurd h (hempty u us (hus u (by simp)).2)
  | cons t ts ih =>
      cases us with
      | nil => exact absurd h.symm (hempty t ts (hts t (by simp)).2)
      | cons u us =>
          rw [joined_cons, joined_cons] at h
          have hrest : afterFirst ts = afterFirst us := by
            rw [← afterItem_first (hts t (by simp)).1 ts, h,
              afterItem_first (hus u (by simp)).1 us]
          rw [hrest] at h
          have hfirst : t = u := String.toList_inj.mp (List.append_cancel_right h)
          have hlater : ts = us := by
            cases ts with
            | nil =>
                cases us with
                | nil => rfl
                | cons v vs => cases hrest
            | cons w ws =>
                cases us with
                | nil => cases hrest
                | cons v vs =>
                    exact ih (fun x hx => hts x (List.mem_cons_of_mem t hx))
                      (fun x hx => hus x (List.mem_cons_of_mem u hx)) (List.cons.inj hrest).2
          rw [hfirst, hlater]

theorem writeList_eq_map (layout : Layout) (items : List Value) :
    writeList layout items = items.map (write layout) := by
  induction items with
  | nil => rfl
  | cons v items ih => rw [writeList, ih, List.map_cons]

theorem writeFields_eq_map (layout : Layout) (fields : List (String × Value)) :
    writeFields layout fields = fields.map fun f => (f.1, write layout f.2) := by
  induction fields with
  | nil => rfl
  | cons field rest ih => rw [writeFields, ih, List.map_cons]

theorem canonical_list_inj {xs ys : List Value}
    (h : canonicalText (.list xs) = canonicalText (.list ys)) :
    xs.map canonicalText = ys.map canonicalText := by
  have hitems : ∀ (items : List Value), ∀ t ∈ writeList .canonical items,
      PassesFrom 0 t.toList ∧ t.toList ≠ [] := by
    intro items t ht
    refine ⟨passes_writeList items t ht, ?_⟩
    rw [writeList_eq_map] at ht
    obtain ⟨v, -, rfl⟩ := List.mem_map.mp ht
    exact write_ne_nil v
  have hjoined := congrArg String.toList h
  simp only [canonicalText, write, String.toList_append, List.append_assoc] at hjoined
  change xs.map (write .canonical) = ys.map (write .canonical)
  rw [← writeList_eq_map, ← writeList_eq_map]
  exact joined_inj (hitems xs) (hitems ys) (List.append_cancel_left hjoined)

end AlertRules.Json
