import AlertRules.Proofs.Json.Items
import AlertRules.Proofs.Json.Numbers
import AlertRules.Proofs.Json.Strings

/-!
Reading back a JSON text.

What reads back is a document (`Value.IsDocument`): texts and numbers that can be written,
lists, and objects that have each name once. The reader takes the text of such a value off the
front of what it is given, whatever follows that may follow a value (`Reads`). For a list or an
object this goes by induction on the items, each of which is followed by a separator or the
closing bracket, and for a whole document by its structure (`reads`).

Two things bound the reader. Its fuel is spent on the way down only, and twice the length of
a text is enough for it; and a value may nest as deep as the reader allows.
-/

namespace AlertRules

namespace Value

/-! ### Documents -/

mutual

/-- A value that can be written as a document and read back. -/
def IsDocument : Value → Prop
  | .null | .bool _ | .float _ => True
  | .int i => (Double.digitsOf i.natAbs).length ≤ Numeral.digitLimit
  | .text s => Text.Joined s
  | .list items => AreDocuments items
  | .object fields => (Object.keys fields).Nodup ∧ FieldsAreDocuments fields
  | .decimal _ | .tuple _ | .missing => False

def AreDocuments : List Value → Prop
  | [] => True
  | v :: rest => IsDocument v ∧ AreDocuments rest

def FieldsAreDocuments : List (String × Value) → Prop
  | [] => True
  | (k, v) :: rest => Text.Joined k ∧ IsDocument v ∧ FieldsAreDocuments rest

end

mutual

theorem IsDocument.hasText : ∀ {v : Value}, v.IsDocument → v.hasText = true
  | .int _, h => decide_eq_true h
  | .list _, h => allHaveText_of_areDocuments h
  | .object _, h => fieldsHaveText_of_areDocuments h.2
  | .null, _ | .bool _, _ | .float _, _ | .text _, _ => rfl

theorem allHaveText_of_areDocuments :
    ∀ {items : List Value}, AreDocuments items → allHaveText items = true
  | [], _ => rfl
  | _ :: _, h => Bool.and_eq_true_iff.mpr ⟨h.1.hasText, allHaveText_of_areDocuments h.2⟩

theorem fieldsHaveText_of_areDocuments :
    ∀ {fields : List (String × Value)}, FieldsAreDocuments fields → fieldsHaveText fields = true
  | [], _ => rfl
  | _ :: _, h => Bool.and_eq_true_iff.mpr ⟨h.2.1.hasText, fieldsHaveText_of_areDocuments h.2.2⟩

end

mutual

/-- A value as documents name it: the undefined number is one and the same in all of it. -/
def named : Value → Value
  | .float x => .float x.named
  | .list items => .list (namedItems items)
  | .object fields => .object (namedFields fields)
  | v => v

def namedItems : List Value → List Value
  | [] => []
  | v :: rest => named v :: namedItems rest

def namedFields : List (String × Value) → List (String × Value)
  | [] => []
  | (k, v) :: rest => (k, named v) :: namedFields rest

end

mutual

/-- A value that holds no undefined number but the one that documents name. -/
def IsNamed : Value → Prop
  | .float x => x ≠ .nan false
  | .list items => AreNamed items
  | .object fields => FieldsAreNamed fields
  | _ => True

def AreNamed : List Value → Prop
  | [] => True
  | v :: rest => IsNamed v ∧ AreNamed rest

def FieldsAreNamed : List (String × Value) → Prop
  | [] => True
  | (_, v) :: rest => IsNamed v ∧ FieldsAreNamed rest

end

mutual

/-- A value that is named as documents name it is left as it is. -/
theorem named_eq_self : ∀ v : Value, v.IsNamed → v.named = v
  | .float _, h => congrArg Value.float (Double.named_eq_self h)
  | .list items, h => congrArg Value.list (namedItems_eq_self items h)
  | .object fields, h => congrArg Value.object (namedFields_eq_self fields h)
  | .null, _ | .bool _, _ | .int _, _ | .decimal _, _ | .text _, _ => rfl
  | .tuple _, _ | .missing, _ => rfl

theorem namedItems_eq_self : ∀ items : List Value, AreNamed items → namedItems items = items
  | [], _ => rfl
  | v :: rest, h => congrArg₂ List.cons (named_eq_self v h.1) (namedItems_eq_self rest h.2)

theorem namedFields_eq_self :
    ∀ fields : List (String × Value), FieldsAreNamed fields → namedFields fields = fields
  | [], _ => rfl
  | (k, v) :: rest, h =>
      congrArg₂ List.cons (congrArg (Prod.mk k) (named_eq_self v h.1))
        (namedFields_eq_self rest h.2)

end

theorem namedItems_eq_map (items : List Value) : namedItems items = items.map named := by
  induction items with
  | nil => rfl
  | cons v rest ih => rw [namedItems, ih, List.map_cons]

theorem namedFields_eq_map (fields : List (String × Value)) :
    namedFields fields = fields.map fun f => (f.1, f.2.named) := by
  induction fields with
  | nil => rfl
  | cons field rest ih => rw [namedFields, ih, List.map_cons]

end Value

theorem Object.insert_fresh {o : Object} {key : String} (h : key ∉ o.keys) (v : Value) :
    o.insert key v = o ++ [(key, v)] := by
  induction o with
  | nil => rfl
  | cons field rest ih =>
      obtain ⟨k, w⟩ := field
      simp only [keys, List.map_cons, List.mem_cons, not_or] at h
      rw [insert, if_neg (by simpa using Ne.symm h.1), ih h.2, List.cons_append]

namespace Json

/-- A layout with nothing but blanks behind its separators, which keeps the order of fields. -/
structure Layout.IsReadable (layout : Layout) : Prop where
  item : ∃ blanks, layout.itemSeparator.toList = ',' :: blanks ∧ ∀ c ∈ blanks, isBlankChar c
  key : ∃ blanks, layout.keySeparator.toList = ':' :: blanks ∧ ∀ c ∈ blanks, isBlankChar c
  unsorted : layout.sorted = false

theorem Layout.spaced_isReadable : Layout.spaced.IsReadable :=
  have hblank : ∀ c ∈ [' '], isBlankChar c := List.forall_mem_singleton.mpr rfl
  ⟨⟨[' '], rfl, hblank⟩, ⟨[' '], rfl, hblank⟩, rfl⟩

variable {layout : Layout} {rest : List Char}

/-- The reader takes the text of a value off what it is given. -/
def Reads (layout : Layout) (v : Value) : Prop :=
  ∀ fuel depth rest, 2 * (write layout v).toList.length ≤ fuel → nesting v ≤ depth → Closes rest →
    readValue fuel depth ((write layout v).toList ++ rest) = .ok (v.named, rest)

/-! ### Blanks -/

theorem skipBlanks_cons {c : Char} (h : isBlankChar c = false) (cs : List Char) :
    skipBlanks (c :: cs) = c :: cs := by
  rw [skipBlanks, List.dropWhile_cons, h, if_neg Bool.false_ne_true]

theorem skipBlanks_append {blanks cs : List Char} (hblanks : ∀ c ∈ blanks, isBlankChar c)
    (hcs : ∀ c ∈ cs.head?, isBlankChar c = false) : skipBlanks (blanks ++ cs) = cs := by
  induction blanks with
  | nil =>
      cases cs with
      | nil => rfl
      | cons c cs => exact skipBlanks_cons (hcs c rfl) cs
  | cons b blanks ih =>
      obtain ⟨hb, hblanks⟩ := List.forall_mem_cons.mp hblanks
      rw [List.cons_append, skipBlanks, List.dropWhile_cons, if_pos hb]
      exact ih hblanks

/-! ### Beginnings -/

def mayBegin (c : Char) : Bool := !isBlankChar c && c != ']' && c != '\ufeff'

theorem mayBegin_of_isDigit {c : Char} (h : c.isDigit) : mayBegin c = true := by
  have hne : ∀ {d : Char}, d.isDigit = false → c ≠ d := Numeral.ne_of_isDigit h
  simp only [mayBegin, isBlankChar, Bool.and_eq_true, Bool.not_eq_true', Bool.or_eq_false_iff,
    beq_eq_false_iff_ne, bne_iff_ne]
  exact ⟨⟨⟨⟨⟨hne rfl, hne rfl⟩, hne rfl⟩, hne rfl⟩, hne rfl⟩, hne rfl⟩

theorem not_isBlankChar {c : Char} (h : mayBegin c = true) : isBlankChar c = false := by
  simp only [mayBegin, Bool.and_eq_true, Bool.not_eq_true'] at h
  exact h.1.1

theorem toList_write_list (layout : Layout) (items : List Value) :
    (write layout (.list items)).toList =
      '[' :: ((Value.joined layout.itemSeparator (items.map (write layout))).toList ++ [']']) := by
  rw [write, writeList_eq_map, String.toList_append, String.toList_append]
  rfl

theorem write_begins (layout : Layout) (v : Value) :
    ∃ c cs, (write layout v).toList = c :: cs ∧ mayBegin c = true := by
  have hquote : ∀ s, ∃ c cs, (quote s).toList = c :: cs ∧ mayBegin c = true := fun s =>
    ⟨'"', _, toList_quote s, rfl⟩
  cases v with
  | null => exact ⟨'n', "ull".toList, by rw [write]; rfl, rfl⟩
  | bool b =>
      cases b
      · exact ⟨'f', "alse".toList, by rw [write]; rfl, rfl⟩
      · exact ⟨'t', "rue".toList, by rw [write]; rfl, rfl⟩
  | int i =>
      obtain ⟨c, cs, hc, -, htext⟩ := exists_intText i []
      rw [write, ← List.append_nil (Value.intText i).toList, htext]
      split
      · exact ⟨'-', _, rfl, rfl⟩
      · exact ⟨c, _, rfl, mayBegin_of_isDigit hc⟩
  | float x =>
      obtain ⟨c, cs, hcons, hc⟩ := numberText_eq_cons x
      refine ⟨c, cs, hcons, ?_⟩
      rcases hc with hc | rfl | rfl | rfl
      · exact mayBegin_of_isDigit hc
      all_goals rfl
  | decimal d => exact hquote d.text
  | text s => exact hquote s
  | list items => exact ⟨'[', _, toList_write_list layout items, rfl⟩
  | tuple items => exact ⟨'[', _, toList_write_list layout items, rfl⟩
  | object fields =>
      rw [write, String.toList_append, String.toList_append]
      exact ⟨'\x7b', _, rfl, rfl⟩
  | missing => exact hquote "MISSING"

/-! ### Scalars -/

def isOpening (c : Char) : Bool := c == '"' || c == '[' || c == '\x7b'

theorem readValue_scalar {c : Char} (h : isOpening c = false) (fuel depth : Nat)
    (cs : List Char) : readValue (fuel + 1) depth (c :: cs) = readScalar (c :: cs) := by
  unfold readValue
  split
  next heq => cases heq
  next heq => cases heq; cases h
  next heq => cases heq; cases h
  next heq => cases heq; cases h
  next => rfl

theorem Reads.scalar {v : Value} {c : Char} {cs : List Char}
    (htext : (write layout v).toList = c :: cs) (hc : isOpening c = false)
    (h : ∀ rest, Closes rest → readScalar ((write layout v).toList ++ rest) = .ok (v.named, rest)) :
    Reads layout v := by
  intro fuel depth rest hfuel _ hrest
  obtain ⟨fuel, rfl⟩ : ∃ n, fuel = n + 1 := by
    rw [htext, List.length_cons] at hfuel
    exact ⟨fuel - 1, by omega⟩
  rw [← h rest hrest, htext, List.cons_append, readValue_scalar hc]

theorem not_isOpening_of_isDigit {c : Char} (h : c.isDigit) : isOpening c = false := by
  have hne : ∀ {d : Char}, d.isDigit = false → c ≠ d := Numeral.ne_of_isDigit h
  simp only [isOpening, Bool.or_eq_false_iff, beq_eq_false_iff_ne]
  exact ⟨⟨hne rfl, hne rfl⟩, hne rfl⟩

theorem reads_null : Reads layout .null :=
  have htext : (write layout .null).toList = 'n' :: "ull".toList := by rw [write]; rfl
  .scalar htext rfl fun _ _ => by
    rw [htext]
    rfl

theorem reads_bool (b : Bool) : Reads layout (.bool b) := by
  cases b with
  | false =>
      have htext : (write layout (.bool false)).toList = 'f' :: "alse".toList := by rw [write]; rfl
      refine .scalar htext rfl fun _ _ => ?_
      rw [htext]
      rfl
  | true =>
      have htext : (write layout (.bool true)).toList = 't' :: "rue".toList := by rw [write]; rfl
      refine .scalar htext rfl fun _ _ => ?_
      rw [htext]
      rfl

theorem reads_int {i : Int} (hi : (Double.digitsOf i.natAbs).length ≤ Numeral.digitLimit) :
    Reads layout (.int i) := by
  obtain ⟨c, cs, hc, -, htext⟩ := exists_intText i []
  rw [List.append_nil, List.append_nil] at htext
  have hread : ∀ rest, Closes rest →
      readScalar ((write layout (.int i)).toList ++ rest) = .ok ((Value.int i).named, rest) :=
    fun rest hrest => by
      rw [write]
      exact readScalar_intText hi hrest
  split at htext
  · exact .scalar (by rw [write, htext]) rfl hread
  · exact .scalar (by rw [write, htext]) (not_isOpening_of_isDigit hc) hread

theorem reads_float (x : Double) : Reads layout (.float x) := by
  obtain ⟨c, cs, hcons, hc⟩ := numberText_eq_cons x
  have htext : (write layout (.float x)).toList = c :: cs := by rw [write, hcons]
  refine .scalar htext ?_ fun rest hrest => ?_
  · rcases hc with hc | rfl | rfl | rfl
    · exact not_isOpening_of_isDigit hc
    all_goals rfl
  · rw [write, Value.named]
    exact readScalar_numberText x hrest

theorem reads_text {s : String} (h : Text.Joined s) : Reads layout (.text s) := by
  intro fuel depth rest hfuel _ _
  have hread := readString_quote h rest
  rw [write] at hfuel ⊢
  rw [toList_quote] at hread hfuel ⊢
  obtain ⟨fuel, rfl⟩ : ∃ n, fuel = n + 1 := by
    rw [List.length_cons] at hfuel
    exact ⟨fuel - 1, by omega⟩
  rw [List.cons_append] at hread ⊢
  simp only [readValue, hread, bind, Except.bind]
  rfl

/-! ### Lists -/

theorem toList_joined_cons (separator t u : String) (ts : List String) :
    (Value.joined separator (t :: u :: ts)).toList =
      t.toList ++ (separator.toList ++ (Value.joined separator (u :: ts)).toList) := by
  rw [Value.joined, String.toList_append, String.toList_append, List.append_assoc]
  exact List.cons_ne_nil u ts

theorem joined_begins (separator : String) {t : String} (ts : List String) {c : Char}
    {cs : List Char} (h : t.toList = c :: cs) :
    ∃ cs, (Value.joined separator (t :: ts)).toList = c :: cs := by
  cases ts with
  | nil => exact ⟨cs, h⟩
  | cons u us =>
      rw [toList_joined_cons, h]
      exact ⟨_, rfl⟩

theorem Closes.cons {c : Char} (h : c = ',' ∨ c = ']' ∨ c = '\x7d') (cs : List Char) :
    Closes (c :: cs) := by
  rintro _ ⟨⟩
  exact h

/-- Behind a separator the next text begins, whatever blanks there are. -/
theorem skipBlanks_joined {separator t : String} {ts : List String} {blanks : List Char}
    (hblanks : ∀ c ∈ blanks, isBlankChar c) {c : Char} {cs : List Char} (ht : t.toList = c :: cs)
    (hc : isBlankChar c = false) (rest : List Char) :
    skipBlanks (blanks ++ ((Value.joined separator (t :: ts)).toList ++ rest)) =
      (Value.joined separator (t :: ts)).toList ++ rest := by
  obtain ⟨cs, hcs⟩ := joined_begins separator ts ht
  refine skipBlanks_append hblanks fun d hd => ?_
  rw [hcs] at hd
  cases hd
  exact hc

variable {fuel depth : Nat} {cs after : List Char} {v : Value} {items : List Value}

theorem readItems_last (h : readValue fuel depth cs = .ok (v, ']' :: rest)) :
    readItems (fuel + 1) depth cs = .ok ([v], rest) := by
  simp only [readItems, h, bind, Except.bind, skipBlanks_cons (c := ']') rfl]
  rfl

theorem readItems_more (h : readValue fuel depth cs = .ok (v, ',' :: after))
    (hmore : readItems fuel depth (skipBlanks after) = .ok (items, rest)) :
    readItems (fuel + 1) depth cs = .ok (v :: items, rest) := by
  simp only [readItems, h, bind, Except.bind, skipBlanks_cons (c := ',') rfl, hmore]
  rfl

theorem readValue_list {c : Char} (hc : mayBegin c = true)
    (h : readItems fuel depth (c :: cs) = .ok (items, rest)) :
    readValue (fuel + 1) (depth + 1) ('[' :: c :: cs) = .ok (.list items, rest) := by
  have hclosing : c ≠ ']' := by
    rintro rfl
    cases hc
  simp only [readValue, skipBlanks_cons (not_isBlankChar hc)]
  split
  next heq => cases heq
  next heq => exact absurd (List.cons.inj heq).1 hclosing
  next hdepth _ =>
      cases hdepth
      simp only [h, bind, Except.bind]
      rfl

/-- The items of a list are read up to the closing bracket: induction on the items. -/
theorem readItems_joined (hlayout : layout.IsReadable) (h : ∀ w ∈ v :: items, Reads layout w)
    (hfuel : 2 * (Value.joined layout.itemSeparator
      ((v :: items).map (write layout))).toList.length < fuel)
    (hdepth : ∀ w ∈ v :: items, nesting w ≤ depth) (rest : List Char) :
    readItems fuel depth ((Value.joined layout.itemSeparator
        ((v :: items).map (write layout))).toList ++ ']' :: rest) =
      .ok ((v :: items).map Value.named, rest) := by
  obtain ⟨blanks, hseparator, hblanks⟩ := hlayout.item
  induction items generalizing v fuel with
  | nil =>
      obtain ⟨fuel, rfl⟩ := Nat.exists_eq_succ_of_ne_zero (Nat.ne_zero_of_lt hfuel)
      refine readItems_last (h v List.mem_cons_self fuel depth _ ?_ (hdepth v List.mem_cons_self)
        (.cons (by simp) rest))
      exact Nat.le_of_lt_succ hfuel
  | cons w items ih =>
      obtain ⟨fuel, rfl⟩ := Nat.exists_eq_succ_of_ne_zero (Nat.ne_zero_of_lt hfuel)
      obtain ⟨hv, hitems⟩ := List.forall_mem_cons.mp h
      obtain ⟨hnesting, hdepth⟩ := List.forall_mem_cons.mp hdepth
      obtain ⟨c, cs, hw, hc⟩ := write_begins layout w
      simp only [List.map_cons] at ih hfuel ⊢
      rw [toList_joined_cons, hseparator] at hfuel ⊢
      simp only [List.length_append, List.length_cons] at hfuel
      rw [List.append_assoc, List.cons_append, List.cons_append, List.append_assoc]
      refine readItems_more (hv fuel depth _ (by omega) hnesting (.cons (.inl rfl) _)) ?_
      rw [skipBlanks_joined hblanks hw (not_isBlankChar hc)]
      exact ih hitems (by omega) hdepth

theorem nesting_le_of_mem {items : List Value} {v : Value} (h : v ∈ items) :
    nesting v ≤ nestingOfItems items := by
  induction items with
  | nil => cases h
  | cons w items ih =>
      rw [nestingOfItems]
      rcases List.mem_cons.mp h with rfl | h
      · exact Nat.le_max_left _ _
      · exact Nat.le_trans (ih h) (Nat.le_max_right _ _)

theorem reads_list (hlayout : layout.IsReadable) {items : List Value}
    (h : ∀ v ∈ items, Reads layout v) : Reads layout (.list items) := by
  intro fuel depth rest hfuel hdepth hrest
  rw [toList_write_list] at hfuel ⊢
  simp only [List.length_cons, List.length_append, List.length_nil] at hfuel
  obtain ⟨fuel, rfl⟩ : ∃ n, fuel = n + 1 := ⟨fuel - 1, by omega⟩
  obtain ⟨depth, rfl⟩ : ∃ n, depth = n + 1 := ⟨depth - 1, by rw [nesting] at hdepth; omega⟩
  rw [Value.named, Value.namedItems_eq_map]
  cases items with
  | nil => rfl
  | cons v items =>
      have hnesting : ∀ w ∈ v :: items, nesting w ≤ depth := fun w hw => by
        have := nesting_le_of_mem hw
        rw [nesting] at hdepth
        omega
      obtain ⟨c, cs, hv, hc⟩ := write_begins layout v
      obtain ⟨cs, hcs⟩ := joined_begins layout.itemSeparator (items.map (write layout)) hv
      have hless : 2 * (Value.joined layout.itemSeparator
          ((v :: items).map (write layout))).toList.length < fuel := by omega
      have hread := readItems_joined hlayout h hless hnesting rest
      rw [List.map_cons, hcs, List.cons_append] at hread
      rw [List.cons_append, List.append_assoc, List.singleton_append, List.map_cons, hcs,
        List.cons_append]
      exact readValue_list hc hread

/-! ### Objects -/

def fieldText (layout : Layout) (field : String × Value) : String :=
  quote field.1 ++ layout.keySeparator ++ write layout field.2

theorem toList_write_object (h : layout.sorted = false) (fields : List (String × Value)) :
    (write layout (.object fields)).toList = '\x7b' ::
      ((Value.joined layout.itemSeparator (fields.map (fieldText layout))).toList ++ ['\x7d']) := by
  simp only [write, h, Bool.false_eq_true, if_false, writeFields_eq_map, List.map_map,
    String.toList_append]
  rfl

variable {soFar fields : Object} {field : String × Value} {key : String}

theorem readFields_last (hcs : cs.head? = some '"') (hkey : readString cs = .ok (key, ':' :: after))
    (hvalue : readValue fuel depth (skipBlanks after) = .ok (v, '\x7d' :: rest)) :
    readFields (fuel + 1) depth soFar cs = .ok (soFar.insert key v, rest) := by
  obtain ⟨cs, rfl⟩ : ∃ tail, cs = '"' :: tail := List.head?_eq_some_iff.mp hcs
  simp only [readFields, hkey, bind, Except.bind, skipBlanks_cons (c := ':') rfl, hvalue,
    skipBlanks_cons (c := '\x7d') rfl]
  rfl

theorem readFields_more (hcs : cs.head? = some '"') (hkey : readString cs = .ok (key, ':' :: after))
    {more : List Char} (hvalue : readValue fuel depth (skipBlanks after) = .ok (v, ',' :: more))
    (hmore : readFields fuel depth (soFar.insert key v) (skipBlanks more) = .ok (fields, rest)) :
    readFields (fuel + 1) depth soFar cs = .ok (fields, rest) := by
  obtain ⟨cs, rfl⟩ : ∃ tail, cs = '"' :: tail := List.head?_eq_some_iff.mp hcs
  simp only [readFields, hkey, bind, Except.bind, skipBlanks_cons (c := ':') rfl, hvalue,
    skipBlanks_cons (c := ',') rfl, hmore]

theorem toList_fieldText_begins (layout : Layout) (field : String × Value) :
    ∃ cs, (fieldText layout field).toList = '"' :: cs := by
  rw [fieldText, String.toList_append, String.toList_append, toList_quote]
  exact ⟨_, rfl⟩

theorem readField (hlayout : layout.IsReadable) (hkey : Text.Joined field.1)
    (hvalue : Reads layout field.2) (hfuel : 2 * (fieldText layout field).toList.length ≤ fuel)
    (hdepth : nesting field.2 ≤ depth) (hrest : Closes rest) :
    ∃ after, readString ((fieldText layout field).toList ++ rest) =
        .ok (field.1, ':' :: after) ∧
      readValue fuel depth (skipBlanks after) = .ok (field.2.named, rest) := by
  obtain ⟨blanks, hseparator, hblanks⟩ := hlayout.key
  obtain ⟨c, cs, hbegins, hc⟩ := write_begins layout field.2
  have htext : (fieldText layout field).toList =
      (quote field.1).toList ++ ':' :: (blanks ++ (write layout field.2).toList) := by
    rw [fieldText, String.toList_append, String.toList_append, hseparator, List.append_assoc,
      List.cons_append]
  rw [htext] at hfuel ⊢
  simp only [List.length_append, List.length_cons] at hfuel
  refine ⟨blanks ++ ((write layout field.2).toList ++ rest), ?_, ?_⟩
  · rw [List.append_assoc, List.cons_append, List.append_assoc, readString_quote hkey]
  · rw [skipBlanks_append hblanks]
    · exact hvalue fuel depth rest (by omega) hdepth hrest
    · rw [hbegins]
      rintro _ ⟨⟩
      exact not_isBlankChar hc

theorem fresh_of_nodup (h : (Object.keys (soFar ++ field :: fields)).Nodup) :
    field.1 ∉ Object.keys soFar := by
  rw [Object.keys, List.map_append, List.nodup_append] at h
  exact fun hmem => h.2.2 _ hmem _ List.mem_cons_self rfl

/-- The fields of an object are read up to the closing brace and added to those that were
read before: induction on the fields. -/
theorem readFields_joined (hlayout : layout.IsReadable)
    (h : ∀ f ∈ field :: fields, Text.Joined f.1 ∧ Reads layout f.2)
    (hkeys : (Object.keys (soFar ++ field :: fields)).Nodup)
    (hfuel : 2 * (Value.joined layout.itemSeparator
      ((field :: fields).map (fieldText layout))).toList.length < fuel)
    (hdepth : ∀ f ∈ field :: fields, nesting f.2 ≤ depth) (rest : List Char) :
    readFields fuel depth soFar ((Value.joined layout.itemSeparator
        ((field :: fields).map (fieldText layout))).toList ++ '\x7d' :: rest) =
      .ok (soFar ++ (field :: fields).map (fun f => (f.1, f.2.named)), rest) := by
  obtain ⟨blanks, hseparator, hblanks⟩ := hlayout.item
  induction fields generalizing field soFar fuel with
  | nil =>
      obtain ⟨fuel, rfl⟩ := Nat.exists_eq_succ_of_ne_zero (Nat.ne_zero_of_lt hfuel)
      obtain ⟨⟨hkey, hvalue⟩, -⟩ := List.forall_mem_cons.mp h
      have hless : 2 * (fieldText layout field).toList.length ≤ fuel := Nat.le_of_lt_succ hfuel
      obtain ⟨after, hread, hvalue⟩ := readField hlayout hkey hvalue hless
        (hdepth field List.mem_cons_self) (Closes.cons (.inr (.inr rfl)) rest)
      obtain ⟨cs, hcs⟩ := toList_fieldText_begins layout field
      have hhead : ((fieldText layout field).toList ++ '\x7d' :: rest).head? = some '"' := by
        rw [hcs]
        rfl
      rw [List.map_singleton (f := fun f : String × Value => (f.1, f.2.named)),
        ← Object.insert_fresh (fresh_of_nodup hkeys)]
      exact readFields_last hhead hread hvalue
  | cons next fields ih =>
      obtain ⟨fuel, rfl⟩ := Nat.exists_eq_succ_of_ne_zero (Nat.ne_zero_of_lt hfuel)
      obtain ⟨⟨hkey, hvalue⟩, hfields⟩ := List.forall_mem_cons.mp h
      obtain ⟨hnesting, hdepth⟩ := List.forall_mem_cons.mp hdepth
      obtain ⟨cs, hcs⟩ := toList_fieldText_begins layout field
      obtain ⟨ds, hds⟩ := toList_fieldText_begins layout next
      simp only [List.map_cons] at ih hfuel ⊢
      rw [toList_joined_cons, hseparator] at hfuel ⊢
      simp only [List.length_append, List.length_cons] at hfuel
      rw [List.append_assoc, List.cons_append, List.cons_append, List.append_assoc]
      have hless : 2 * (fieldText layout field).toList.length ≤ fuel := by omega
      obtain ⟨after, hread, hvalue⟩ := readField hlayout hkey hvalue hless hnesting
        (Closes.cons (.inl rfl) _)
      refine readFields_more (by rw [hcs]; rfl) hread hvalue ?_
      rw [skipBlanks_joined hblanks hds rfl, Object.insert_fresh (fresh_of_nodup hkeys)]
      have hkeys' :
          (Object.keys (soFar ++ [(field.1, field.2.named)] ++ next :: fields)).Nodup := by
        simpa [Object.keys] using hkeys
      rw [ih hfields hkeys' (by omega) hdepth, List.append_assoc, List.singleton_append]

theorem nestingOfFields_eq (fields : List (String × Value)) :
    nestingOfFields fields = nestingOfItems (fields.map Prod.snd) := by
  induction fields with
  | nil => rfl
  | cons field rest ih => rw [nestingOfFields, ih, List.map_cons, nestingOfItems]

theorem readValue_object (h : readFields fuel depth [] ('"' :: cs) = .ok (fields, rest)) :
    readValue (fuel + 1) (depth + 1) ('\x7b' :: '"' :: cs) = .ok (.object fields, rest) := by
  simp only [readValue, skipBlanks_cons (c := '"') rfl]
  show (readFields fuel depth [] ('"' :: cs) >>= _) = _
  rw [h]
  rfl

theorem reads_object (hlayout : layout.IsReadable) {fields : List (String × Value)}
    (hkeys : (Object.keys fields).Nodup)
    (h : ∀ f ∈ fields, Text.Joined f.1 ∧ Reads layout f.2) : Reads layout (.object fields) := by
  intro fuel depth rest hfuel hdepth hrest
  rw [toList_write_object hlayout.unsorted] at hfuel ⊢
  simp only [List.length_cons, List.length_append, List.length_nil] at hfuel
  obtain ⟨fuel, rfl⟩ : ∃ n, fuel = n + 1 := ⟨fuel - 1, by omega⟩
  obtain ⟨depth, rfl⟩ : ∃ n, depth = n + 1 := ⟨depth - 1, by rw [nesting] at hdepth; omega⟩
  rw [Value.named, Value.namedFields_eq_map]
  cases fields with
  | nil => rfl
  | cons field fields =>
      have hnesting : ∀ f ∈ field :: fields, nesting f.2 ≤ depth := fun f hf => by
        have := nesting_le_of_mem (List.mem_map_of_mem (f := Prod.snd) hf)
        rw [nesting, nestingOfFields_eq] at hdepth
        omega
      obtain ⟨cs, hfield⟩ := toList_fieldText_begins layout field
      obtain ⟨cs, hcs⟩ := joined_begins layout.itemSeparator (fields.map (fieldText layout)) hfield
      have hless : 2 * (Value.joined layout.itemSeparator
          ((field :: fields).map (fieldText layout))).toList.length < fuel := by omega
      have hkeys' : (Object.keys ([] ++ field :: fields)).Nodup := hkeys
      have hread := readFields_joined hlayout h hkeys' hless hnesting rest
      rw [List.map_cons, hcs, List.cons_append] at hread
      rw [List.cons_append, List.append_assoc, List.singleton_append, List.map_cons, hcs,
        List.cons_append]
      exact readValue_object hread

/-! ### Documents -/

mutual

/-- A document is read back from its text. -/
theorem reads (hlayout : layout.IsReadable) : ∀ v : Value, v.IsDocument → Reads layout v
  | .null, _ => reads_null
  | .bool b, _ => reads_bool b
  | .int _, h => reads_int h
  | .float x, _ => reads_float x
  | .text _, h => reads_text h
  | .list items, h => reads_list hlayout (readsItems hlayout items h)
  | .object fields, h => reads_object hlayout h.1 (readsFields hlayout fields h.2)

theorem readsItems (hlayout : layout.IsReadable) :
    ∀ items : List Value, Value.AreDocuments items → ∀ v ∈ items, Reads layout v
  | [], _, _, hmem => absurd hmem List.not_mem_nil
  | v :: rest, h, w, hmem => (List.mem_cons.mp hmem).elim (fun hw => hw ▸ reads hlayout v h.1)
      (readsItems hlayout rest h.2 w)

theorem readsFields (hlayout : layout.IsReadable) :
    ∀ fields : List (String × Value), Value.FieldsAreDocuments fields →
      ∀ f ∈ fields, Text.Joined f.1 ∧ Reads layout f.2
  | [], _, _, hmem => absurd hmem List.not_mem_nil
  | (_, v) :: rest, h, f, hmem => (List.mem_cons.mp hmem).elim
      (fun hf => hf ▸ ⟨h.1, reads hlayout v h.2.1⟩) (readsFields hlayout rest h.2.2 f)

end

/-- A whole document is read back from its text, unless it nests too deep. -/
theorem read_write (hlayout : layout.IsReadable) {v : Value} (h : v.IsDocument)
    (hnesting : nesting v ≤ depthLimit) : read (write layout v) = .ok v.named := by
  obtain ⟨c, cs, hcs, hc⟩ := write_begins layout v
  have hmark : c ≠ '\ufeff' := by
    rintro rfl
    cases hc
  have hread := reads hlayout v h (2 * (write layout v).toList.length + 2) depthLimit []
    (by omega) hnesting (by rintro _ ⟨⟩)
  rw [List.append_nil] at hread
  have hall : readAll (write layout v).toList = .ok v.named := by
    unfold readAll
    split
    next heq =>
        rw [hcs] at heq
        exact absurd (List.cons.inj heq).1 hmark
    next =>
        have hblanks : skipBlanks (write layout v).toList = (write layout v).toList := by
          rw [hcs]
          exact skipBlanks_cons (not_isBlankChar hc) cs
        rw [hblanks, hread]
        rfl
  rw [read, hall]
  rfl

end Json

end AlertRules
