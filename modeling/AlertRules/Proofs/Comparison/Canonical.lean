import AlertRules.Proofs.Comparison.Keys
import AlertRules.Proofs.Json.Strings
import AlertRules.Proofs.Number.Closest
import Mathlib.Data.List.Nodup

/-!
What a canonical text tells.

The canonical text of a list tells the texts of its items, and that of an object the text that
stands under each name: the entries of an object are sorted, so those of two objects have one
text exactly if they are one another's permutation (`sortOn_eq_iff`), and entries are told apart
by where the string of the name ends. So two values are the same exactly if they have one
canonical text (`canonical_eq_iff`), as long as their texts are those of documents and no
number is undefined in a way that documents cannot name.
-/

namespace AlertRules

namespace Text

/-- Joined texts of which none comes before the other are one text. -/
theorem eq_of_not_before {s t : String} (hs : Joined s) (ht : Joined t)
    (hst : before s t = false) (hts : before t s = false) : s = t := by
  rw [before, decide_eq_false_iff_not] at hst hts
  have hcodes : codes s.toList = codes t.toList :=
    List.le_antisymm (List.not_lt.mp hts) (List.not_lt.mp hst)
  rw [← String.toList_inj, hs.codes.2, ht.codes.2, hcodes]

end Text

namespace Json

open Text

variable {xs ys : List Value} {fields others : Object}

/-! ### Lists -/

theorem canonical_list (xs : List Value) :
    canonicalText (.list xs) = "[" ++ Value.joined "," (xs.map canonicalText) ++ "]" := by
  rw [canonicalText, write, writeList_eq_map]
  rfl

theorem canonical_list_iff :
    canonicalText (.list xs) = canonicalText (.list ys) ↔
      List.Forall₂ (fun x y => canonicalText x = canonicalText y) xs ys := by
  rw [← List.forall₂_map_right_iff (f := canonicalText),
    ← List.forall₂_map_left_iff (f := canonicalText), List.forall₂_eq_eq_eq]
  refine ⟨canonical_list_inj, fun h => ?_⟩
  rw [canonical_list, canonical_list, h]

/-! ### Objects -/

theorem entryText_inj {x y : String × String} (hx : Joined x.1) (hy : Joined y.1)
    (h : entryText x = entryText y) : x = y := by
  have hread : ∀ {entry : String × String}, Joined entry.1 →
      readString (entryText entry).toList = .ok (entry.1, ':' :: entry.2.toList) := by
    intro entry hentry
    rw [entryText, String.toList_append, String.toList_append, List.append_assoc]
    exact readString_quote hentry _
  have hboth := hread hy
  rw [← h, hread hx] at hboth
  simp only [Except.ok.injEq, Prod.mk.injEq, List.cons.injEq, true_and, String.toList_inj] at hboth
  exact Prod.ext hboth.1 hboth.2

def entries (fields : Object) : List (String × String) :=
  sortOn Prod.fst (writeFields .canonical fields)

theorem keys_writeFields (fields : Object) :
    (writeFields .canonical fields).map Prod.fst = fields.keys := by
  rw [writeFields_eq_map, List.map_map]
  rfl

theorem mem_writeFields (hnames : fields.keys.Nodup) {entry : String × String} :
    entry ∈ writeFields .canonical fields ↔
      (fields.get? entry.1).map canonicalText = some entry.2 := by
  rw [writeFields_eq_map, List.mem_map, Option.map_eq_some_iff]
  constructor
  · rintro ⟨⟨name, v⟩, hfield, rfl⟩
    exact ⟨v, Value.get?_of_mem hnames hfield, rfl⟩
  · rintro ⟨v, hv, htext⟩
    exact ⟨_, Value.mem_of_get? hv, Prod.ext rfl htext⟩

theorem canonical_object (fields : Object) :
    canonicalText (.object fields) =
      "\x7b" ++ Value.joined "," ((entries fields).map entryText) ++ "\x7d" := by
  rw [canonicalText, write]
  rfl

theorem joined_of_mem_entries (h : ∀ field ∈ fields, Joined field.1) :
    ∀ entry ∈ entries fields, Joined entry.1 := by
  intro entry hentry
  have hname := List.mem_map_of_mem (f := Prod.fst) ((perm_sortOn _ _).mem_iff.mp hentry)
  rw [keys_writeFields] at hname
  obtain ⟨field, hfield, hname⟩ := List.mem_map.mp hname
  exact hname ▸ h field hfield

theorem canonical_object_inj (hfields : ∀ field ∈ fields, Joined field.1)
    (hothers : ∀ field ∈ others, Joined field.1)
    (h : canonicalText (.object fields) = canonicalText (.object others)) :
    entries fields = entries others := by
  have hentries : ∀ (fields : Object), ∀ t ∈ (entries fields).map entryText,
      PassesFrom 0 t.toList ∧ t.toList ≠ [] := by
    intro fields t ht
    obtain ⟨entry, hentry, rfl⟩ := List.mem_map.mp ht
    refine ⟨passes_entryText (passes_writeFields fields entry ?_), ?_⟩
    · exact (perm_sortOn _ _).mem_iff.mp hentry
    · exact append_ne_nil (append_ne_nil (quote_ne_nil entry.1))
  have hjoined := congrArg String.toList h
  simp only [canonical_object, String.toList_append, List.append_assoc] at hjoined
  have htexts := joined_inj (hentries fields) (hentries others)
    (congrArg (· ++ [']']) (List.append_cancel_right (List.append_cancel_left hjoined)))
  rw [← List.forall₂_eq_eq_eq, List.forall₂_map_left_iff, List.forall₂_map_right_iff] at htexts
  rw [← List.forall₂_eq_eq_eq]
  exact Value.items_mono (fun x hx y hy => entryText_inj (joined_of_mem_entries hfields x hx)
    (joined_of_mem_entries hothers y hy)) htexts

/-- The entries of an object do not depend on the order of its fields. -/
theorem entries_eq_iff (hnames : fields.keys.Nodup) (hnames' : others.keys.Nodup)
    (hfields : ∀ field ∈ fields, Joined field.1) :
    entries fields = entries others ↔
      ∀ name, (fields.get? name).map canonicalText = (others.get? name).map canonicalText := by
  have hnodup : ∀ {fields : Object}, fields.keys.Nodup →
      ((writeFields .canonical fields).map Prod.fst).Nodup := fun h => by rwa [keys_writeFields]
  rw [entries, entries, sortOn_eq_iff,
    List.perm_ext_iff_of_nodup (.of_map _ (hnodup hnames)) (.of_map _ (hnodup hnames'))]
  · simp only [mem_writeFields hnames, mem_writeFields hnames']
    constructor
    · exact fun h name => Option.ext fun text => h (name, text)
    · exact fun h entry => by rw [h]
  · intro x hx y hy hxy hyx
    have hjoined : ∀ {entry}, entry ∈ writeFields .canonical fields → Joined entry.1 :=
      fun h => joined_of_mem_entries hfields _ ((perm_sortOn _ _).mem_iff.mpr h)
    exact List.inj_on_of_nodup_map (hnodup hnames) hx hy
      (eq_of_not_before (hjoined hx) (hjoined hy) hyx hxy)

/-- Objects have one text if under each name their values have, or there are none. -/
theorem canonical_object_iff (hnames : fields.keys.Nodup) (hnames' : others.keys.Nodup)
    (hfields : ∀ field ∈ fields, Joined field.1) (hothers : ∀ field ∈ others, Joined field.1) :
    canonicalText (.object fields) = canonicalText (.object others) ↔
      ∀ name, Option.Rel (fun x y => canonicalText x = canonicalText y) (fields.get? name)
        (others.get? name) := by
  have hrel : ∀ x y : Option Value,
      Option.Rel (fun x y => canonicalText x = canonicalText y) x y ↔
        x.map canonicalText = y.map canonicalText := by
    intro x y
    cases x <;> cases y <;> simp
  simp only [hrel]
  rw [← entries_eq_iff hnames hnames' hfields]
  refine ⟨canonical_object_inj hfields hothers, fun h => ?_⟩
  rw [canonical_object, canonical_object, h]

end Json

namespace Double

theorem eq_iff_eqv {x y : Double} (hx : ∀ named, x ≠ .nan named) :
    x = y ↔ x.eqv y = true ∧ x.isNegative = y.isNegative := by
  cases x with
  | nan named => exact absurd rfl (hx named)
  | inf a =>
      cases y with
      | nan | finite => cases a <;> simp [eqv, compare?]
      | inf b => cases a <;> cases b <;> simp [eqv, compare?, isNegative]
  | finite a mant shift h =>
      cases y with
      | nan => simp [eqv, compare?]
      | inf b => cases b <;> simp [eqv, compare?]
      | finite b mant' shift' h' =>
          constructor
          · intro hxy
            cases hxy
            simp [eqv, compare?]
          · rintro ⟨hequal, hsign⟩
            have hunits : (finite a mant shift h).units = (finite b mant' shift' h').units := by
              simpa [eqv, compare?] using hequal
            exact eq_of_units rfl rfl hunits hsign

end Double

namespace Value

open Json

variable {v w : Value}

/-! ### Documents -/

/-- A value that its canonical text tells: its texts and names are those of documents, each
object has a name once, and undefined numbers are those that documents name. -/
inductive IsPlain : Value → Prop
  | scalar {v : Value} : v.isScalar = true → v.IsKeyed → IsPlain v
  | items {v : Value} {xs : List Value} : v.items? = some xs → (∀ x ∈ xs, IsPlain x) → IsPlain v
  | object {fields : Object} : fields.keys.Nodup →
      (∀ field ∈ fields, Text.Joined field.1) → (∀ field ∈ fields, IsPlain field.2) →
        IsPlain (.object fields)

theorem IsPlain.isKeyed (hv : v.IsPlain) : v.IsKeyed := by
  cases hv with
  | scalar _ h => exact h
  | items h => cases v <;> first | exact trivial | cases h
  | object => exact trivial

theorem isScalar_eq_of_canonical (h : canonicalText v = canonicalText w) :
    v.isScalar = w.isScalar := by
  have hkind : ∀ u : Value,
      u.isScalar = decide (textKind (canonicalText u).toList ≠ .container) := by
    intro u
    rw [textKind_canonical]
    cases u <;> rfl
  rw [hkind, hkind, h]

theorem canonical_of_items {xs : List Value} (h : v.items? = some xs) :
    canonicalText v = canonicalText (.list xs) := by
  cases v with
  | list =>
      cases h
      rfl
  | tuple =>
      cases h
      simp only [canonicalText, write]
  | _ => cases h

theorem canonical_list_ne_object (xs : List Value) (fields : Object) :
    canonicalText (.list xs) ≠ canonicalText (.object fields) := by
  rw [canonical_list, canonical_object]
  intro h
  have hchars := congrArg String.toList h
  simp only [String.toList_append, List.append_assoc] at hchars
  exact absurd (List.cons.inj hchars).1 (by decide)

theorem canonical_eq_iff_of_isScalar (hv : v.IsPlain) (hw : w.IsPlain)
    (h : v.isScalar = true ∨ w.isScalar = true) : canonicalText v = canonicalText w ↔ v.Same w := by
  rw [same_iff_eq h]
  refine ⟨fun htext => ?_, congrArg canonicalText⟩
  rcases h with h | h
  · exact eq_of_canonical hv.isKeyed hw.isKeyed h htext
  · exact (eq_of_canonical hw.isKeyed hv.isKeyed h htext.symm).symm

/-- Two values are the same if they have one canonical text: induction on the first. -/
theorem canonical_eq_iff (hv : v.IsPlain) (hw : w.IsPlain) :
    canonicalText v = canonicalText w ↔ v.Same w := by
  induction hv generalizing w with
  | scalar hscalar h => exact canonical_eq_iff_of_isScalar (.scalar hscalar h) hw (.inl hscalar)
  | items hv h ih =>
      cases hw with
      | scalar hscalar h' =>
          exact canonical_eq_iff_of_isScalar (.items hv h) (.scalar hscalar h') (.inr hscalar)
      | items hw hys =>
          rw [same_items_iff hv hw, canonical_of_items hv, canonical_of_items hw,
            canonical_list_iff]
          exact items_congr fun x hx y hy => ih x hx (hys y hy)
      | object hnames hjoined hys =>
          rw [canonical_of_items hv]
          refine iff_of_false (canonical_list_ne_object _ _) fun hsame => ?_
          have hkind := hsame.isSome_items?
          rw [hv] at hkind
          cases hkind
  | object hnames hjoined h ih =>
      cases hw with
      | scalar hscalar h' =>
          exact canonical_eq_iff_of_isScalar (.object hnames hjoined h) (.scalar hscalar h')
            (.inr hscalar)
      | items hw hys =>
          rw [canonical_of_items hw]
          refine iff_of_false (canonical_list_ne_object _ _).symm fun hsame => ?_
          have hkind := hsame.isSome_items?
          rw [hw] at hkind
          cases hkind
      | object hnames' hjoined' hys =>
          rw [same_object_iff, canonical_object_iff hnames hnames' hjoined hjoined']
          exact fields_congr fun x hx y hy => ih x hx (hys y hy)

/-- Numbers are the same if they are equal and have one sign: equality alone takes the two
zeros for one. -/
theorem same_float_iff {x y : Double} (hx : ∀ named, x ≠ .nan named) :
    (float x).Same (float y) ↔ x.eqv y = true ∧ x.isNegative = y.isNegative := by
  rw [same_iff_eq (.inl rfl), float.injEq]
  exact Double.eq_iff_eqv hx

/-- The canonical text of a value tells the value and nothing more: at every place the kind and
what is there, but neither one kind of sequence from the other nor the order of an object's
fields. A number is told with its sign, so that the two zeros, which are equal, have two texts.
Lists that share a text in the cache therefore share their keys. -/
theorem canonical_identifies :
    (∀ v w : Value, v.IsPlain → w.IsPlain → (canonicalText v = canonicalText w ↔ v.Same w)) ∧
      (∀ x y : Double, (∀ named, x ≠ .nan named) →
        ((float x).Same (float y) ↔ x.eqv y = true ∧ x.isNegative = y.isNegative)) ∧
      ∀ xs ys : List Value, (∀ x ∈ xs, x.IsPlain) → (∀ y ∈ ys, y.IsPlain) →
        canonicalText (list xs) = canonicalText (list ys) →
          xs.map MemberKey.ofValue = ys.map MemberKey.ofValue :=
  ⟨fun _ _ => canonical_eq_iff, fun _ _ => same_float_iff, fun _ _ hxs hys =>
    map_ofValue_eq (fun x hx => (hxs x hx).isKeyed) fun y hy => (hys y hy).isKeyed⟩

/-- A list and a tuple, as parts of objects whose fields come in different orders. -/
theorem canonical_reordered :
    let ids : List Value := [.int 1, .float (.ofInt 1), .text "1"]
    let v : Value := .object [("open", .bool true), ("ids", .list ids)]
    let w : Value := .object [("ids", .tuple ids), ("open", .bool true)]
    (v.IsPlain ∧ w.IsPlain) ∧ v.Same w ∧ canonicalText (list [v]) = canonicalText (list [w]) ∧
      [v].map MemberKey.ofValue = [w].map MemberKey.ofValue := by
  intro ids v w
  have hnames : Text.Joined "open" ∧ Text.Joined "ids" ∧ Text.Joined "1" :=
    ⟨Text.joined_of_marked (by decide), Text.joined_of_marked (by decide),
      Text.joined_of_marked (by decide)⟩
  have hone : Double.ofInt 1 ≠ .nan false := by decide +kernel
  have hids : ∀ id ∈ ids, id.IsPlain := by
    simp only [ids, List.forall_mem_cons]
    exact ⟨.scalar rfl trivial, .scalar rfl hone, .scalar rfl hnames.2.2, nofun⟩
  have hopen : (bool true).IsPlain := .scalar rfl trivial
  have hv : v.IsPlain := .object (by decide)
    (List.forall_mem_cons.mpr ⟨hnames.1, List.forall_mem_singleton.mpr hnames.2.1⟩)
    (List.forall_mem_cons.mpr ⟨hopen, List.forall_mem_singleton.mpr (.items rfl hids)⟩)
  have hw : w.IsPlain := .object (by decide)
    (List.forall_mem_cons.mpr ⟨hnames.2.1, List.forall_mem_singleton.mpr hnames.1⟩)
    (List.forall_mem_cons.mpr ⟨.items rfl hids, List.forall_mem_singleton.mpr hopen⟩)
  have htext : canonicalText (list [v]) = canonicalText (list [w]) := by decide +kernel
  obtain ⟨hiff, -, hkeys⟩ := canonical_identifies
  exact ⟨⟨hv, hw⟩, (hiff v w hv hw).mp (by decide +kernel), htext,
    hkeys [v] [w] (List.forall_mem_singleton.mpr hv) (List.forall_mem_singleton.mpr hw) htext⟩

end Value

end AlertRules
