import AlertRules.Proofs.Comparison.Canonical
import AlertRules.Proofs.Comparison.Integers

/-!
Truth values and numbers apart.

Equality takes a truth value for the number that it counts as (`Value.counted`), and it does so
at every place. So values without floating-point and decimal numbers are equal if they are the
same once their truth values have been counted (`Value.equal_iff`). Strict equality tells truth
values from numbers at the top and goes on with equality below (`Value.strictEquals_iff`), and
what it takes for the same although it is not is `Value.Confused`.

The operators `=` and `!=` ask two containers for strict equality. A look into a list asks for
their canonical texts instead, which keep truth values and numbers apart at every place. So the
operators agree about two documents that have texts unless these are confused
(`Comparator.separates_iff`).
-/

namespace AlertRules

namespace Value

variable {v w : Value} {xs ys : List Value} {fields others : Object}

/-! ### Truth values that are counted -/

mutual

/-- A value with the number in the place of every truth value that it counts as. -/
def counted : Value → Value
  | .bool b => .int (if b then 1 else 0)
  | .list items => .list (countedItems items)
  | .tuple items => .tuple (countedItems items)
  | .object fields => .object (countedFields fields)
  | v => v

def countedItems : List Value → List Value
  | [] => []
  | v :: rest => counted v :: countedItems rest

def countedFields : List (String × Value) → List (String × Value)
  | [] => []
  | (k, v) :: rest => (k, counted v) :: countedFields rest

end

theorem countedItems_eq_map (items : List Value) : countedItems items = items.map counted := by
  induction items with
  | nil => rfl
  | cons v rest ih => rw [countedItems, ih, List.map_cons]

theorem get?_countedFields (fields : Object) (name : String) :
    Object.get? (countedFields fields) name = (fields.get? name).map counted := by
  induction fields with
  | nil => rfl
  | cons field rest ih =>
      obtain ⟨k, v⟩ := field
      rw [countedFields, Object.get?_cons, Object.get?_cons, ih]
      split
      · rfl
      · rfl

theorem same_counted_list : (Value.list xs).counted.Same (Value.list ys).counted ↔
    List.Forall₂ (fun x y => x.counted.Same y.counted) xs ys := by
  rw [counted, counted, same_items_iff rfl rfl, countedItems_eq_map, countedItems_eq_map,
    List.forall₂_map_left_iff, List.forall₂_map_right_iff]

theorem same_counted_object : (Value.object fields).counted.Same (Value.object others).counted ↔
    ∀ name, Option.Rel (fun x y => x.counted.Same y.counted) (fields.get? name)
      (others.get? name) := by
  simp only [counted, same_object_iff, get?_countedFields, rel_map_iff]

theorem isScalar_counted (v : Value) : v.counted.isScalar = v.isScalar := by
  cases v <;> rfl

/-! ### Equality -/

/-- A value without floating-point and decimal numbers, whose objects have each name once. -/
inductive IsExact : Value → Prop
  | null : IsExact .null
  | bool (b : Bool) : IsExact (.bool b)
  | int (i : Int) : IsExact (.int i)
  | text (s : String) : IsExact (.text s)
  | list {items : List Value} : (∀ v ∈ items, IsExact v) → IsExact (.list items)
  | object {fields : Object} : (Object.keys fields).Nodup →
      (∀ field ∈ fields, IsExact field.2) → IsExact (.object fields)

theorem IsExact.matches_iff (hv : v.IsExact) : v.Matches w ↔ equal v w = .ok true := by
  have hother : identical v w = false := by
    rw [← Bool.not_eq_true]
    intro h
    obtain ⟨rfl, -⟩ := eq_of_identical h
    cases hv
  simp [Matches, hother]

/-- Values of which one has no parts are equal if they are one value once they have been
counted. -/
theorem equal_iff_of_isScalar (hv : v.IsExact) (hw : w.IsExact)
    (hscalar : v.isScalar = true ∨ w.isScalar = true) :
    equal v w = .ok true ↔ v.counted.Same w.counted := by
  have hequal : equal v w = scalarEq v w := by
    unfold equal
    split <;> first | rfl | simp [isScalar] at hscalar
  have hsame : v.counted.Same w.counted ↔ v.counted = w.counted :=
    same_iff_eq (by rwa [isScalar_counted, isScalar_counted])
  rw [hequal, hsame, scalarEq_eq_ok]
  cases hv with
  | null => cases hw <;> simp [quantity?, counted]
  | text s => cases hw <;> simp [quantity?, counted, eq_comm]
  | bool b | int i => cases hw <;> simp [quantity?, counted, quantity_int]
  | list | object => cases hw <;> simp_all [quantity?, counted, isScalar]

theorem equalItems_eq_ok : equalItems xs ys = .ok true ↔ List.Forall₂ Matches xs ys := by
  induction xs generalizing ys with
  | nil => cases ys <;> simp [equalItems]
  | cons x xs ih =>
      cases ys with
      | nil => simp [equalItems]
      | cons y ys => rw [equalItems, bind_eq_ok, ih, List.forall₂_cons]

/-- Equality does not tell a truth value from the number that it counts as, and tells
everything else: induction on the first value. -/
theorem equal_iff (hv : v.IsExact) (hw : w.IsExact) :
    equal v w = .ok true ↔ v.counted.Same w.counted := by
  induction hv generalizing w with
  | null | bool | int | text => exact equal_iff_of_isScalar (by constructor) hw (.inl rfl)
  | list h ih =>
      cases hw with
      | list hys =>
          rw [same_counted_list, ← items_congr fun x hx y hy =>
            (h x hx).matches_iff.trans (ih x hx (hys y hy)), ← equalItems_eq_ok, equal]
          split
          · rfl
          next hlength =>
              refine iff_of_false nofun fun hitems => hlength ?_
              exact (equalItems_eq_ok.mp hitems).length_eq
      | object => exact iff_of_false nofun nofun
      | _ => exact equal_iff_of_isScalar (.list h) (by constructor) (.inr rfl)
  | object hnames h ih =>
      cases hw with
      | object hnames' hys =>
          rw [same_counted_object, ← fields_congr fun x hx y hy =>
            (h x hx).matches_iff.trans (ih x hx (hys y hy)), ← partners_iff hnames hnames',
            ← equalFields_eq_ok, equal]
          split
          next hlength => rw [and_iff_right hlength]
          next hlength => exact iff_of_false nofun fun hboth => hlength hboth.1
      | list => exact iff_of_false nofun nofun
      | _ => exact equal_iff_of_isScalar (.object hnames h) (by constructor) (.inr rfl)

/-- Values that are the same are so as well once they have been counted: induction on the
first value. -/
theorem Same.counted (hv : v.IsExact) (hw : w.IsExact) (h : v.Same w) :
    v.counted.Same w.counted := by
  induction hv generalizing w with
  | null | bool | int | text =>
      obtain rfl := (same_iff_eq (.inl rfl)).mp h
      exact .scalar (isScalar_counted _)
  | list hxs ih =>
      cases hw with
      | list hys =>
          exact same_counted_list.mpr
            (items_mono (fun x hx y hy => ih x hx (hys y hy)) ((same_items_iff rfl rfl).mp h))
      | object => cases h.isSome_items?
      | _ => cases (same_iff_eq (.inr rfl)).mp h
  | object hnames hxs ih =>
      cases hw with
      | object hnames' hys =>
          exact same_counted_object.mpr
            (fields_mono (fun x hx y hy => ih x hx (hys y hy)) (same_object_iff.mp h))
      | list => cases h.isSome_items?
      | _ => cases (same_iff_eq (.inr rfl)).mp h

theorem Same.isBool (h : v.Same w) : v.isBool = w.isBool := by
  cases h with
  | items hv hw =>
      have hnot : ∀ {u : Value} {zs : List Value}, u.items? = some zs → u.isBool = false := by
        intro u zs hu
        cases u with
        | list | tuple => rfl
        | _ => cases hu
      rw [hnot hv, hnot hw]
  | _ => rfl

/-! ### Strict equality -/

/-- Strict equality is equality, except that a truth value differs from everything else. -/
theorem strictEquals_iff (hv : v.IsExact) (hw : w.IsExact) :
    strictEquals v w = true ↔ v.isBool = w.isBool ∧ v.counted.Same w.counted := by
  rw [strictEquals_eq_true, equal_iff hv hw, and_comm]

/-- Values that differ only inside, and only in that one has a truth value where the other has
the number that it counts as. -/
structure Confused (v w : Value) : Prop where
  top : v.isBool = w.isBool
  counted : v.counted.Same w.counted
  not_same : ¬v.Same w

theorem strictEquals_iff_same_or_confused (hv : v.IsExact) (hw : w.IsExact) :
    strictEquals v w = true ↔ v.Same w ∨ v.Confused w := by
  rw [strictEquals_iff hv hw]
  constructor
  · rintro ⟨htop, hcounted⟩
    by_cases hsame : v.Same w
    · exact .inl hsame
    · exact .inr ⟨htop, hcounted, hsame⟩
  · rintro (hsame | hconfused)
    · exact ⟨hsame.isBool, hsame.counted hv hw⟩
    · exact ⟨hconfused.top, hconfused.counted⟩

theorem same_or_confused_iff : (v.Same w ∨ v.Confused w ↔ v.Same w) ↔ ¬v.Confused w := by
  rw [or_iff_left_iff_imp]
  constructor
  · exact fun h hconfused => hconfused.not_same (h hconfused)
  · exact fun h hconfused => absurd hconfused h

theorem not_confused_of_counted (hv : v.counted = v) (hw : w.counted = w) : ¬v.Confused w := by
  intro h
  have hsame := h.counted
  rw [hv, hw] at hsame
  exact h.not_same hsame

end Value

namespace Comparator

variable {c : Comparator} {v w : Value} {cache : SetCache}

/-! ### Operators on containers -/

theorem answer_of_not_isScalar (op : Operator) (hv : v.isScalar = false)
    (hw : w.isScalar = false) : answer op v w = valuesAnswer op v w := by
  have hnumber : ∀ {u : Value}, u.isScalar = false → u.toNumber = .ok none := by
    intro u hu
    cases u with
    | list | tuple | object => rfl
    | _ => cases hu
  rw [answer, hnumber hv, hnumber hw]
  rfl

theorem isAbsent_of_not_isScalar (hv : v.isScalar = false) : v.isAbsent = false := by
  cases v <;> first | rfl | cases hv

/-- Containers are compared as values, whatever sets there are. -/
theorem compare_containers {op : Operator} (hop : op.IsPairwise) (hv : v.isScalar = false)
    (hw : w.isScalar = false) :
    (c.compare op v w).Ends cache fun outcome _ => outcome = valuesAnswer op v w := by
  refine (compare_ends hop (isAbsent_of_not_isScalar hv)).mono fun _ _ h => ?_
  exact h.1.trans (answer_of_not_isScalar op hv hw)

theorem same_json_iff {u : Value} (hv : v.isScalar = false) :
    (MemberKey.ofValue u).same (MemberKey.ofValue v) = true ↔
      Json.canonicalText u = Json.canonicalText v := by
  rw [Value.ofValue_of_not_isScalar hv]
  cases hu : u.isScalar with
  | false => rw [Value.ofValue_of_not_isScalar hu, MemberKey.same, beq_iff_eq]
  | true =>
      refine iff_of_false ?_ fun htext => ?_
      · cases u <;> first | exact Bool.false_ne_true | cases hu
      · rw [Value.isScalar_eq_of_canonical htext, hv] at hu
        cases hu

/-- What going through a list says of a list or an object is whether it is there. -/
theorem memberOf_container {items : List Value} {b : Bool} (hv : v.IsPlain)
    (hv' : v.isScalar = false) (hitems : ∀ w ∈ items, w.IsPlain)
    (h : memberOf (MemberKey.ofValue v) items = .ok b) :
    b = true ↔ ∃ w ∈ items, v.Same w := by
  rw [answer_of_memberOf h, List.any_eq_true]
  refine exists_congr fun w => and_congr_right fun hw => ?_
  rw [same_json_iff hv', eq_comm, Value.canonical_eq_iff hv (hitems w hw)]

/-- A look for a list or an object finds it where it is, whatever sets there are, unless it
fails for want of a text. -/
theorem compare_in_container (threshold : Int) {items : List Value} (hv : v.IsPlain)
    (hv' : v.isScalar = false) (hitems : ∀ w ∈ items, w.IsPlain) (hcache : cache.IsReal) :
    ((⟨.int threshold⟩ : Comparator).compare .isIn v (.list items)).Ends cache
      fun outcome cache' =>
        ((∃ b, outcome = .ok b ∧ (b = true ↔ ∃ w ∈ items, v.Same w)) ∨
          outcome = .error .unwritable ∧ ¬(v.hasText = true ∧ ∀ w ∈ items, w.hasText = true)) ∧
          cache'.IsReal := by
  have habsent := isAbsent_of_not_isScalar hv'
  cases hkey : v.key with
  | error fault =>
      refine (compare_in_unkeyed rfl habsent hkey).mono ?_
      rintro _ _ ⟨rfl, rfl⟩
      refine ⟨.inr ⟨rfl, fun htext => ?_⟩, hcache⟩
      cases hkey.symm.trans (Value.key_of_hasText htext.1)
  | ok key =>
      obtain rfl := Value.eq_of_key hkey
      refine (compare_in_kept hcache trivial rfl habsent hkey (isShort_int threshold items)).mono ?_
      rintro outcome cache' ⟨hcache', hscan, hunwritten, hset⟩
      refine ⟨?_, hcache'⟩
      cases hshort : decide ((items.length : Int) < threshold) with
      | true =>
          rw [hscan hshort]
          cases hmember : memberOf (MemberKey.ofValue v) items with
          | ok b => exact .inl ⟨b, rfl, memberOf_container hv hv' hitems hmember⟩
          | error fault =>
              obtain ⟨rfl, w, hw, hunkeyed⟩ := fault_of_memberOf hmember
              exact .inr ⟨rfl, fun htext => by cases hunkeyed.2.symm.trans (htext.2 w hw)⟩
      | false =>
          cases htext : (Value.list items).hasText with
          | false =>
              refine .inr ⟨hunwritten hshort htext, fun htexts => ?_⟩
              cases htext.symm.trans (Value.hasText_list.mpr htexts.2)
          | true =>
              obtain ⟨kept, -, hwritten, hsame, rfl⟩ := hset hshort htext
              -- the members of lists of one text have the same texts, and that decides
              refine .inl ⟨_, memberOf_of_hasText hwritten, ?_⟩
              rw [← memberOf_container hv hv' hitems (memberOf_of_hasText htext)]
              simp only [List.any_eq_true, same_json_iff hv']
              rw [← List.mem_map, ← List.mem_map, Json.canonical_list_inj hsame]

/-- A look for one container in a list of another is answered only if both have texts. -/
theorem hasText_of_in {threshold : Int} {b : Bool} (hv : v.isScalar = false)
    (hw : w.isScalar = false)
    (h : (⟨.int threshold⟩ : Comparator).outcome .isIn v (.list [w]) = .ok b) :
    v.hasText = true ∧ w.hasText = true := by
  let c : Comparator := ⟨.int threshold⟩
  have habsent := isAbsent_of_not_isScalar hv
  have hkeyed : ∀ {u : Value} {key : MemberKey}, u.isScalar = false → u.key = .ok key →
      u.hasText = true := by
    intro u key hu hkey
    cases htext : u.hasText with
    | true => rfl
    | false => cases (Value.key_of_not_hasText hu htext).symm.trans hkey
  cases hkey : v.key with
  | error fault =>
      have hfault : c.outcome .isIn v (.list [w]) = .error .unwritable :=
        (compare_in_unkeyed rfl habsent hkey []).1
      cases hfault.symm.trans h
  | ok key =>
      refine ⟨hkeyed hv hkey, ?_⟩
      cases hw' : w.key with
      | ok key' => exact hkeyed hw hw'
      | error fault =>
          have hends : (c.compare .isIn v (.list [w])).Ends .empty _ :=
            compare_in_kept SetCache.isReal_empty trivial rfl habsent hkey
              (isShort_int threshold [w])
          obtain ⟨-, hscan, hunwritten, -⟩ := hends []
          have hlist : (Value.list [w]).hasText = false := by
            cases htext : (Value.list [w]).hasText with
            | false => rfl
            | true =>
                have hkey' := Value.key_of_hasText (Value.hasText_list.mp htext w (by simp))
                cases hw'.symm.trans hkey'
          cases hshort : decide (([w].length : Int) < threshold) with
          | false => cases (hunwritten hshort hlist).symm.trans h
          | true =>
              have hmember := (hscan hshort).symm.trans h
              rw [memberOf, hw'] at hmember
              cases hmember

/-- Strict equality takes two values for the same if they are, or if they are confused, and
values without truth values never are. The operators `=` and `!=` answer about two containers
as strict equality does, and a look into a list of documents, as long as they have texts, finds
nothing but what is there. So they agree about two documents exactly if these have texts and
are not confused. -/
theorem separates_iff (threshold : Int) {v w : Value} (hv : v.IsExact) (hw : w.IsExact) :
    let c : Comparator := ⟨.int threshold⟩
    (v.strictEquals w = true ↔ v.Same w ∨ v.Confused w) ∧
      ((v.strictEquals w = true ↔ v.Same w) ↔ ¬v.Confused w) ∧
      (v.counted = v → w.counted = w → ¬v.Confused w) ∧
      (v.isScalar = false → w.isScalar = false →
        (∀ cache, (c.compare .eq v w).Ends cache fun outcome _ =>
          outcome = .ok (v.strictEquals w)) ∧
        (∀ cache, (c.compare .ne v w).Ends cache fun outcome _ =>
          outcome = .ok !v.strictEquals w) ∧
        (v.IsPlain → w.IsPlain →
          (∀ (items : List Value) (cache : SetCache), (∀ u ∈ items, u.IsPlain) → cache.IsReal →
            (c.compare .isIn v (.list items)).Ends cache fun outcome cache' =>
              ((∃ b, outcome = .ok b ∧ (b = true ↔ ∃ u ∈ items, v.Same u)) ∨
                outcome = .error .unwritable ∧
                  ¬(v.hasText = true ∧ ∀ u ∈ items, u.hasText = true)) ∧ cache'.IsReal) ∧
          (c.outcome .eq v w = c.outcome .isIn v (.list [w]) ↔
            ¬v.Confused w ∧ v.hasText = true ∧ w.hasText = true))) := by
  intro c
  have heq : Operator.eq.IsPairwise := by decide
  have hne : Operator.ne.IsPairwise := by decide
  have hstrict := Value.strictEquals_iff_same_or_confused hv hw
  refine ⟨hstrict, by rw [hstrict, Value.same_or_confused_iff], Value.not_confused_of_counted,
    fun hv' hw' => ⟨fun cache => compare_containers heq hv' hw',
      fun cache => compare_containers hne hv' hw', fun hplain hplain' => ?_⟩⟩
  refine ⟨fun items cache => compare_in_container threshold hplain hv', ?_⟩
  have hequal : c.outcome .eq v w = .ok (v.strictEquals w) := compare_containers heq hv' hw' []
  by_cases htexts : v.hasText = true ∧ w.hasText = true
  · have hin := compare_in_container threshold hplain hv' (List.forall_mem_singleton.mpr hplain')
      SetCache.isReal_empty []
    obtain ⟨⟨b, hmember, hsame⟩ | ⟨-, hunwritten⟩, -⟩ := hin
    · have hmember : c.outcome .isIn v (.list [w]) = .ok b := hmember
      simp only [List.mem_singleton, exists_eq_left] at hsame
      rw [hequal, hmember, Except.ok.injEq, Bool.eq_iff_iff, hstrict, hsame,
        Value.same_or_confused_iff, and_iff_left htexts]
    · exact absurd ⟨htexts.1, List.forall_mem_singleton.mpr htexts.2⟩ hunwritten
  · refine iff_of_false (fun hagree => htexts ?_) fun h => htexts h.2
    exact hasText_of_in hv' hw' (hagree.symm.trans hequal)

/-- A document whose fields come in another order is the same to all operators. -/
theorem separates_reordered :
    let c : Comparator := ⟨.int 1⟩
    let v : Value := .object [("count", .int 1), ("flags", .list [.bool true, .null])]
    let w : Value := .object [("flags", .list [.bool true, .null]), ("count", .int 1)]
    (v.IsExact ∧ w.IsExact) ∧ (v.IsPlain ∧ w.IsPlain) ∧ v.strictEquals w = true ∧
      ((c.compare .ne v w).Ends .empty fun outcome _ => outcome = .ok false) ∧
      ((c.compare .isIn v (.list [w])).Ends .empty fun outcome _ => outcome = .ok true) ∧
      c.outcome .eq v w = c.outcome .isIn v (.list [w]) := by
  intro c v w
  have hflags : (Value.list [.bool true, .null]).IsExact :=
    .list (List.forall_mem_cons.mpr ⟨.bool true, List.forall_mem_singleton.mpr .null⟩)
  have hv : v.IsExact := .object (by decide)
    (List.forall_mem_cons.mpr ⟨.int 1, List.forall_mem_singleton.mpr hflags⟩)
  have hw : w.IsExact := .object (by decide)
    (List.forall_mem_cons.mpr ⟨hflags, List.forall_mem_singleton.mpr (.int 1)⟩)
  have hnames : Text.Joined "count" ∧ Text.Joined "flags" :=
    ⟨Text.joined_of_marked (by decide), Text.joined_of_marked (by decide)⟩
  have hone : (Value.int 1).IsPlain := .scalar rfl trivial
  have hlist : (Value.list [.bool true, .null]).IsPlain := .items rfl
    (List.forall_mem_cons.mpr ⟨.scalar rfl trivial,
      List.forall_mem_singleton.mpr (.scalar rfl trivial)⟩)
  have hplain : v.IsPlain := .object (by decide)
    (List.forall_mem_cons.mpr ⟨hnames.1, List.forall_mem_singleton.mpr hnames.2⟩)
    (List.forall_mem_cons.mpr ⟨hone, List.forall_mem_singleton.mpr hlist⟩)
  have hplain' : w.IsPlain := .object (by decide)
    (List.forall_mem_cons.mpr ⟨hnames.2, List.forall_mem_singleton.mpr hnames.1⟩)
    (List.forall_mem_cons.mpr ⟨hlist, List.forall_mem_singleton.mpr hone⟩)
  have hsame : v.Same w := (Value.canonical_eq_iff hplain hplain').mp (by decide +kernel)
  obtain ⟨hstrict, -, -, hcontainers⟩ := separates_iff 1 hv hw
  obtain ⟨-, hne, hdocuments⟩ := hcontainers rfl rfl
  obtain ⟨hin, hagree⟩ := hdocuments hplain hplain'
  have hequal := hstrict.mpr (.inl hsame)
  have htexts : v.hasText = true ∧ w.hasText = true := by decide +kernel
  refine ⟨⟨hv, hw⟩, ⟨hplain, hplain'⟩, hequal, (hne .empty).mono fun _ _ h => ?_, ?_,
    hagree.mpr ⟨fun hconfused => hconfused.not_same hsame, htexts⟩⟩
  · rw [h, hequal]
    rfl
  · refine (hin [w] .empty (List.forall_mem_singleton.mpr hplain') SetCache.isReal_empty).mono ?_
    rintro _ _ ⟨⟨b, rfl, hb⟩ | ⟨-, hunwritten⟩, -⟩
    · rw [hb.mpr ⟨w, List.mem_singleton.mpr rfl, hsame⟩]
    · exact absurd ⟨htexts.1, List.forall_mem_singleton.mpr htexts.2⟩ hunwritten

/-- A number and the truth value that counts as it are taken for one inside of a list and of an
object, where a look into a list tells them apart. -/
theorem flags_taken_for_counts :
    let c : Comparator := {}
    let count : Value := .list [.int 1]
    let flag : Value := .list [.bool true]
    let counts : Value := .object [("open", .int 0)]
    let flags : Value := .object [("open", .bool false)]
    count.strictEquals flag = true ∧ ¬count.Same flag ∧
      c.outcome .eq count flag = .ok true ∧ c.outcome .isIn count (.list [flag]) = .ok false ∧
      counts.strictEquals flags = true ∧ ¬counts.Same flags ∧
      c.outcome .ne counts flags = .ok false ∧
      c.outcome .isIn counts (.list [flags]) = .ok false := by
  intro c count flag counts flags
  refine ⟨by decide +kernel, fun h => ?_, by decide +kernel, by decide +kernel,
    by decide +kernel, fun h => ?_, by decide +kernel, by decide +kernel⟩
  · cases (Value.same_items_iff rfl rfl).mp h with
    | cons hfirst => cases (Value.same_iff_eq (.inl rfl)).mp hfirst
  · have hopen := Value.same_object_iff.mp h "open"
    rw [show Object.get? [("open", Value.int 0)] "open" = some (.int 0) from rfl] at hopen
    cases (Value.same_iff_eq (.inl rfl)).mp (Option.rel_some_some.mp hopen)

end Comparator

end AlertRules
