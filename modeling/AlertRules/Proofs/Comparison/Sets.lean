import AlertRules.Comparison.Comparator
import AlertRules.Proofs.Action
import AlertRules.Proofs.Comparison.Keys
import AlertRules.Proofs.Comparison.Scans

/-!
The cached sets and the scan of a list.

A long list is looked up in the set that is kept under its text. The set
is that of the list that was seen first with this text, so the answer is
the one that a scan gives exactly as long as lists of one text hold the
same members and a list without text is one that no scan gets through
(`transparent_iff`). Lists of keyed values that have texts are like that,
whatever else the cache has seen. A list of one integer that is too long to
be written is not (`not_transparent_of_overlong`), and neither are lists of
decimal numbers: such a number and the text that writes it are two members
with one text.
-/

namespace AlertRules

/-! ### The cache -/

namespace SetCache

/-- Every set of the cache is that of one of the lists, under its text. -/
def Holds (lists : List Value → Prop) (cache : SetCache) : Prop :=
  ∀ entry ∈ cache.sets, ∃ items, lists items ∧ (Value.list items).hasText = true ∧
    entry = (Json.canonicalText (.list items), items.map MemberKey.ofValue)

variable {lists : List Value → Prop} {cache : SetCache} {items : List Value}

theorem holds_empty : empty.Holds lists := fun _ h => absurd h List.not_mem_nil

theorem keysOf_of_not_hasText (h : (Value.list items).hasText = false) :
    cache.keysOf items = .error .unwritable := by
  rw [keysOf, Json.canonical, Value.written_of_not_hasText h]
  rfl

theorem keysOf_of_hasText (cache : SetCache) (h : (Value.list items).hasText = true) :
    cache.keysOf items =
      match cache.sets.lookup (Json.canonicalText (.list items)) with
      | some keys => .ok (keys, cache)
      | none => .ok (items.map MemberKey.ofValue,
          { sets := cache.sets ++ [(Json.canonicalText (.list items),
            items.map MemberKey.ofValue)] }) := by
  rw [keysOf, Json.canonical, Value.written_of_hasText h, Value.keys_of_hasText h]
  rfl

/-- The set of a list that has a text is that of a list with the same text. -/
theorem keysOf_holds (hcache : cache.Holds lists) (hitems : lists items)
    (h : (Value.list items).hasText = true) :
    ∃ kept cache', lists kept ∧ (Value.list kept).hasText = true ∧
      Json.canonicalText (.list kept) = Json.canonicalText (.list items) ∧
      cache.keysOf items = .ok (kept.map MemberKey.ofValue, cache') ∧ cache'.Holds lists := by
  rw [keysOf_of_hasText cache h]
  split
  next keys hkeys =>
      obtain ⟨before, after, hsets, -⟩ := List.lookup_eq_some_iff.mp hkeys
      have hmem : (Json.canonicalText (.list items), keys) ∈ cache.sets := by simp [hsets]
      obtain ⟨kept, hkept, hwritten, hentry⟩ := hcache _ hmem
      obtain ⟨htext, rfl⟩ := Prod.mk.inj hentry
      exact ⟨kept, cache, hkept, hwritten, htext.symm, rfl, hcache⟩
  next =>
      refine ⟨items, _, hitems, h, rfl, rfl, fun entry hentry => ?_⟩
      rcases List.mem_append.mp hentry with hentry | hentry
      · exact hcache entry hentry
      · exact ⟨items, hitems, h, List.mem_singleton.mp hentry⟩

end SetCache

/-- Lists of one text hold the same members. -/
def SharesMembers (lists : List Value → Prop) : Prop :=
  ∀ xs ys, lists xs → lists ys →
    (Value.list xs).hasText = true → (Value.list ys).hasText = true →
    Json.canonicalText (.list xs) = Json.canonicalText (.list ys) →
    ∀ actual : Value, actual.isAbsent = false → scan actual xs = scan actual ys

/-- What the answers from sets ask of the lists. -/
structure Coherent (lists : List Value → Prop) : Prop where
  members : SharesMembers lists
  /-- No scan gets through a list without text. -/
  unwritten : ∀ items, lists items → (Value.list items).hasText = false →
    ∀ actual : Value, actual.isAbsent = false → scan actual items = .error .unwritable

/-! ### Comparisons -/

namespace Comparator

variable {c : Comparator} {op : Operator} {actual expected : Value} {items : List Value}

theorem evaluateOrder_steady {good : SetCache → Prop} (left right : Value)
    (answer : Except OrderError Bool) : (evaluateOrder op left right answer).Steady good := by
  unfold evaluateOrder
  split
  · exact .pure _
  · exact .bind (.record _ _) fun _ => .pure _
  · exact .throw _

theorem evaluateBetween_steady {good : SetCache → Prop} :
    (evaluateBetween actual expected).Steady good := by
  unfold evaluateBetween
  split
  · refine .bind (.ofExcept _) fun number => .bind (.ofExcept _) fun lowest =>
      .bind (.ofExcept _) fun highest => ?_
    split
    · split
      · exact .bind (.ofExcept _) fun _ => .bind (.ofExcept _) fun _ =>
          .bind (.record _ _) fun _ => .pure _
      · exact .pure _
    · exact .pure _
  · exact .bind (.ofExcept _) fun _ => .bind (.record _ _) fun _ => .pure _

theorem compareValues_steady {good : SetCache → Prop} :
    (compareValues op actual expected).Steady good := by
  unfold compareValues
  split
  · exact .pure _
  · exact .pure _
  · exact evaluateOrder_steady _ _ _
  · exact evaluateOrder_steady _ _ _
  · exact .bind (.record _ _) fun _ => .pure _

theorem lookUp_ends (key : MemberKey) (items : List Value) (cache : SetCache) :
    (lookUp key items).Ends cache fun outcome cache' =>
      outcome = (cache.keysOf items).map (fun found => found.1.any (·.same key)) ∧
        cache' = ((cache.keysOf items).toOption.map Prod.snd).getD cache := by
  refine .bind_get (.bind_ofExcept ?_ ?_)
  · rintro ⟨keys, cache'⟩ h
    rw [h]
    exact .bind_set (.pure ⟨rfl, rfl⟩)
  · intro fault h
    rw [h]
    exact ⟨rfl, rfl⟩

theorem compare_in_unkeyed {cache : SetCache} {fault : Fault}
    (hexpected : expected.items? = some items) (hactual : actual.isAbsent = false)
    (hkey : actual.key = .error fault) :
    (c.compare .isIn actual expected).Ends cache fun outcome cache' =>
      outcome = .error .unwritable ∧ cache' = cache := by
  simp only [compare, hactual, Bool.false_eq_true, if_false, evaluateIn, hexpected, hkey]
  exact .throw ⟨congrArg Except.error (Value.fault_of_key hkey), rfl⟩

/-- A look into a list goes through it while it is short, and otherwise into the set that is
kept under its text, which may be that of another list. -/
theorem compare_in_kept {lists : List Value → Prop} {cache : SetCache} {key : MemberKey}
    {short : Bool} (hcache : cache.Holds lists) (hitems : lists items)
    (hexpected : expected.items? = some items) (hactual : actual.isAbsent = false)
    (hkey : actual.key = .ok key) (hshort : c.isShort items = .ok short) :
    (c.compare .isIn actual expected).Ends cache fun outcome cache' =>
      cache'.Holds lists ∧ (short = true → outcome = memberOf key items) ∧
        (short = false → (Value.list items).hasText = false → outcome = .error .unwritable) ∧
        (short = false → (Value.list items).hasText = true →
          ∃ kept, lists kept ∧ (Value.list kept).hasText = true ∧
            Json.canonicalText (.list kept) = Json.canonicalText (.list items) ∧
            outcome = memberOf key kept) := by
  simp only [compare, hactual, Bool.false_eq_true, if_false, evaluateIn, hexpected, hshort]
  refine .bind_ofExcept (fun _ h => ?_) fun fault h => by cases hkey.symm.trans h
  cases hkey.symm.trans h
  refine .bind_ofExcept (fun answer hanswer => ?_) fun fault hfault => by cases hfault
  cases hanswer
  cases short with
  | true => exact .ofExcept ⟨hcache, fun _ => rfl, nofun, nofun⟩
  | false =>
      refine (lookUp_ends key items cache).mono ?_
      rintro _ _ ⟨rfl, rfl⟩
      cases htext : (Value.list items).hasText with
      | false =>
          rw [SetCache.keysOf_of_not_hasText htext]
          exact ⟨hcache, nofun, fun _ _ => rfl, nofun⟩
      | true =>
          obtain ⟨kept, cache', hkept, hwritten, hsame, hkeys, hcache'⟩ :=
            SetCache.keysOf_holds hcache hitems htext
          rw [hkeys]
          refine ⟨hcache', nofun, nofun, fun _ _ => ⟨kept, hkept, hwritten, hsame, ?_⟩⟩
          rw [memberOf_of_hasText hwritten]
          simp only [Except.map, List.any_map]
          rfl

/-- A look into a list ends as a scan of it does, unless the list is to be looked up and has
no text. -/
theorem compare_in {lists : List Value → Prop} (hmembers : SharesMembers lists)
    {cache : SetCache} {short : Bool} (hcache : cache.Holds lists) (hitems : lists items)
    (hexpected : expected.items? = some items) (hactual : actual.isAbsent = false)
    (hshort : c.isShort items = .ok short) :
    (c.compare .isIn actual expected).Ends cache fun outcome cache' =>
      (outcome = if short || (Value.list items).hasText then scan actual items
        else .error .unwritable) ∧ cache'.Holds lists := by
  cases hkey : actual.key with
  | error fault =>
      refine (compare_in_unkeyed hexpected hactual hkey).mono ?_
      rintro _ _ ⟨rfl, rfl⟩
      rw [scan_of_no_key hkey, ite_self]
      exact ⟨rfl, hcache⟩
  | ok key =>
      refine (compare_in_kept hcache hitems hexpected hactual hkey hshort).mono ?_
      rintro outcome cache' ⟨hcache', hscan, hunwritten, hset⟩
      refine ⟨?_, hcache'⟩
      cases short with
      | true => exact (hscan rfl).trans (scan_of_key hkey).symm
      | false =>
          cases htext : (Value.list items).hasText with
          | false => exact hunwritten rfl htext
          | true =>
              obtain ⟨kept, hkept, hwritten, hsame, rfl⟩ := hset rfl htext
              exact (scan_of_key hkey).symm.trans
                (hmembers kept items hkept hitems hwritten htext hsame actual hactual)

/-- A look into one of coherent lists ends as a scan of it does. -/
theorem compare_in_coherent {lists : List Value → Prop} (h : Coherent lists) {cache : SetCache}
    {short : Bool} (hcache : cache.Holds lists) (hitems : lists items)
    (hexpected : expected.items? = some items) (hactual : actual.isAbsent = false)
    (hshort : c.isShort items = .ok short) :
    (c.compare .isIn actual expected).Ends cache fun outcome cache' =>
      outcome = scan actual items ∧ cache'.Holds lists := by
  refine (compare_in h.members hcache hitems hexpected hactual hshort).mono ?_
  rintro outcome cache' ⟨rfl, hcache'⟩
  refine ⟨?_, hcache'⟩
  split
  next => rfl
  next hunwritten =>
      have htext : (Value.list items).hasText = false := by
        rw [Bool.eq_false_iff]
        exact fun h => hunwritten (by rw [h, Bool.or_true])
      exact (h.unwritten items hitems htext actual hactual).symm

theorem compare_steady {lists : List Value → Prop} (hmembers : SharesMembers lists)
    (hlists : op = .isIn → actual.isAbsent = false → ∀ items, expected.items? = some items →
      lists items) :
    (c.compare op actual expected).Steady (SetCache.Holds lists) := by
  cases hactual : actual.isAbsent with
  | true =>
      simp only [compare, hactual, if_true]
      exact .pure _
  | false =>
      -- nothing but a look into a list asks the cache
      cases op with
      | isIn =>
          cases hexpected : expected.items? with
          | none =>
              simp only [compare, hactual, Bool.false_eq_true, if_false, evaluateIn, hexpected]
              exact .bind (.ofExcept _) fun _ => .bind (.record _ _) fun _ => .pure _
          | some items =>
              have hitems := hlists rfl hactual items hexpected
              cases hshort : c.isShort items with
              | ok short =>
                  exact ⟨_, fun _ hcache =>
                    compare_in hmembers hcache hitems hexpected hactual hshort⟩
              | error fault =>
                  simp only [compare, hactual, Bool.false_eq_true, if_false, evaluateIn, hexpected,
                    hshort]
                  refine .bind (.ofExcept _) fun key => .bind_ofExcept fun short h => ?_
                  cases h
      | between =>
          simp only [compare, hactual, Bool.false_eq_true, if_false]
          exact evaluateBetween_steady
      | gt | lt | ge | le | eq | ne =>
          simp only [compare, hactual, Bool.false_eq_true, if_false]
          refine .bind (.ofExcept _) fun x => .bind (.ofExcept _) fun y => ?_
          split
          · exact .pure _
          · exact compareValues_steady

theorem compare_alike (c : Comparator) (op : Operator) (actual expected : Value) :
    Action.Alike id (c.compare op actual expected) (c.compare op actual expected) := by
  unfold compare
  split
  · exact .pure _
  · split
    · exact Action.Steady.alike fun _ => evaluateBetween_steady
    · unfold evaluateIn
      split
      · refine .bind (.ofExcept _) fun key => .bind (.ofExcept _) fun short => ?_
        split
        · exact .ofExcept _
        · rintro cache _ rfl log log'
          exact ⟨(lookUp_ends key _ cache log).1.trans (lookUp_ends key _ cache log').1.symm,
            (lookUp_ends key _ cache log).2.trans (lookUp_ends key _ cache log').2.symm⟩
      · exact .bind (.ofExcept _) fun _ => .bind (.record _ _ _ _) fun _ => .pure _
    · refine .bind (.ofExcept _) fun x => .bind (.ofExcept _) fun y => ?_
      split
      · exact .pure _
      · exact Action.Steady.alike fun _ => compareValues_steady

/-- With a whole number for the length from which lists are looked up. -/
theorem isShort_int (threshold : Int) (items : List Value) :
    (⟨.int threshold⟩ : Comparator).isShort items =
      .ok (decide ((items.length : Int) < threshold)) := by
  rw [isShort, Value.less_int]

end Comparator

/-! ### Runs of comparisons -/

/-- What a comparator is used for. -/
inductive SetUse where
  | compare (operator actual expected : Value)
  | clear

namespace SetUse

/-- A use of a comparator; a comparison has an answer. -/
def perform (c : Comparator) : SetUse → Action SetCache (Option Bool)
  | .compare operator actual expected => do
    let answer ← c.compareBy operator actual expected
    pure (some answer)
  | .clear => do
    set SetCache.empty
    pure none

/-- Uses made one after the other, each with its outcome. One that fails
does not keep the next from being made. -/
def performAll (c : Comparator) :
    List SetUse → Action SetCache (List (SetUse × Except Fault (Option Bool)))
  | [] => pure []
  | use :: rest => do
    let outcome ← (use.perform c).attempt
    let outcomes ← performAll c rest
    pure ((use, outcome) :: outcomes)

/-- The value that a use looks for, if it looks for a value in a list, and
the list. -/
def search? : SetUse → Option (Value × List Value)
  | .compare operator actual expected =>
    match Operator.ofValue? operator, expected.items? with
    | some .isIn, some items => if actual.isAbsent then none else some (actual, items)
    | _, _ => none
  | .clear => none

/-- Whether a use that looks into a list ended as a scan of this list
does. -/
def IsScan (use : SetUse) (outcome : Except Fault (Option Bool)) : Prop :=
  ∀ actual items, use.search? = some (actual, items) → outcome = (scan actual items).map some

end SetUse

/-- Whatever the comparisons and however often the sets are cleared, as
long as only certain lists are looked into, each look ends as a scan of
its list does. -/
def Transparent (lists : List Value → Prop) : Prop :=
  ∀ (threshold : Int) (uses : List SetUse), 1 ≤ threshold →
    (∀ use ∈ uses, ∀ actual items, use.search? = some (actual, items) → lists items) →
    (SetUse.performAll ⟨.int threshold⟩ uses).Ends .empty fun outcome _ =>
      ∃ answers, outcome = .ok answers ∧ answers.map Prod.fst = uses ∧
        ∀ answer ∈ answers, answer.1.IsScan answer.2

namespace SetUse

variable {lists : List Value → Prop} {cache : SetCache} {threshold : Int}

theorem search?_compare {operator actual expected sought : Value} {items : List Value} :
    (SetUse.compare operator actual expected).search? = some (sought, items) ↔
      Operator.ofValue? operator = some .isIn ∧ expected.items? = some items ∧
        actual.isAbsent = false ∧ actual = sought := by
  rw [search?]
  split
  next hoperator hitems =>
      simp only [hoperator, hitems, Option.some.injEq, true_and]
      cases actual.isAbsent
      · simp only [Bool.false_eq_true, if_false, Option.some.injEq, Prod.mk.injEq, true_and]
        exact and_comm
      · simp
  next hother =>
      constructor
      · intro h
        cases h
      · rintro ⟨hoperator, hitems, -⟩
        exact absurd hitems (hother items hoperator)

/-- One use keeps every set the set of one of the lists, and a look into a
list ends with what a scan gives. -/
theorem perform_ends (hcoherent : Coherent lists) (hcache : cache.Holds lists) {use : SetUse}
    (huse : ∀ actual items, use.search? = some (actual, items) → lists items) :
    (use.perform ⟨.int threshold⟩).Ends cache fun outcome cache' =>
      cache'.Holds lists ∧ use.IsScan outcome := by
  cases use with
  | clear => exact .bind_set (.pure ⟨SetCache.holds_empty, fun _ _ h => by cases h⟩)
  | compare operator actual expected =>
      by_cases hsearch : ∃ items, (SetUse.compare operator actual expected).search? =
          some (actual, items)
      · obtain ⟨items, hsearch⟩ := hsearch
        obtain ⟨hoperator, hexpected, hactual, -⟩ := search?_compare.mp hsearch
        have hitems := huse actual items hsearch
        have hcompare := Comparator.compare_in_coherent hcoherent hcache hitems hexpected hactual
          (Comparator.isShort_int threshold items)
        have hscan : ∀ outcome, outcome = (scan actual items).map some →
            (SetUse.compare operator actual expected).IsScan outcome := by
          intro outcome houtcome sought items' hsearch'
          rw [hsearch] at hsearch'
          cases hsearch'
          exact houtcome
        rw [perform, Comparator.compareBy, hoperator]
        refine .bind hcompare ?_ ?_
        · rintro answer cache' ⟨hanswer, hcache'⟩
          exact .pure ⟨hcache', hscan _ (by rw [← hanswer]; rfl)⟩
        · rintro fault cache' ⟨hanswer, hcache'⟩
          exact ⟨hcache', hscan _ (by rw [← hanswer]; rfl)⟩
      · have hscan : ∀ outcome, (SetUse.compare operator actual expected).IsScan outcome := by
          intro outcome sought items h
          obtain ⟨hoperator, hexpected, hactual, rfl⟩ := search?_compare.mp h
          exact absurd ⟨items, h⟩ hsearch
        have hsteady : (Comparator.compareBy ⟨.int threshold⟩ operator actual expected).Steady
            (SetCache.Holds lists) := by
          unfold Comparator.compareBy
          split
          next op hoperator =>
              refine Comparator.compare_steady hcoherent.members fun hop hactual items hitems => ?_
              exact absurd ⟨items, search?_compare.mpr ⟨hop ▸ hoperator, hitems, hactual, rfl⟩⟩
                hsearch
          next => exact .bind (.ofExcept _) fun _ => .bind (.record _ _) fun _ => .pure _
        obtain ⟨o, hends⟩ := hsteady
        refine .bind (hends cache hcache) ?_ ?_
        · rintro answer cache' ⟨-, hcache'⟩
          exact .pure ⟨hcache', hscan _⟩
        · rintro fault cache' ⟨-, hcache'⟩
          exact ⟨hcache', hscan _⟩

/-- A run of uses: induction on the uses, the sets being those of the lists. -/
theorem performAll_ends (hcoherent : Coherent lists) (uses : List SetUse)
    (huses : ∀ use ∈ uses, ∀ actual items, use.search? = some (actual, items) → lists items)
    (hcache : cache.Holds lists) :
    (performAll ⟨.int threshold⟩ uses).Ends cache fun outcome _ =>
      ∃ answers, outcome = .ok answers ∧ answers.map Prod.fst = uses ∧
        ∀ answer ∈ answers, answer.1.IsScan answer.2 := by
  induction uses generalizing cache with
  | nil => exact .pure ⟨[], rfl, rfl, fun _ h => absurd h List.not_mem_nil⟩
  | cons use uses ih =>
      refine .bind_attempt (perform_ends hcoherent hcache (huses use (by simp))) ?_
      rintro outcome cache' ⟨hcache', hscan⟩
      refine .bind_returns (ih (fun u hu => huses u (List.mem_cons_of_mem use hu)) hcache') ?_
      rintro answers _ ⟨hanswers, hscans⟩
      refine .pure ⟨_, rfl, by rw [List.map_cons, hanswers], ?_⟩
      intro answer hanswer
      rcases List.mem_cons.mp hanswer with rfl | hanswer
      · exact hscan
      · exact hscans answer hanswer

end SetUse

theorem map_some_inj {x y : Except Fault Bool} (h : x.map some = y.map some) : x = y := by
  cases x <;> cases y <;> simp_all [Except.map]

theorem transparent_of_coherent {lists : List Value → Prop} (h : Coherent lists) :
    Transparent lists :=
  fun _ uses _ huses => SetUse.performAll_ends h uses huses SetCache.holds_empty

theorem sharesMembers_of_keyed {lists : List Value → Prop}
    (h : ∀ items, lists items → ∀ v ∈ items, v.IsKeyed) : SharesMembers lists := by
  intro xs ys hxs hys hxtext hytext htext actual _
  have hkeys := Value.map_ofValue_eq (h xs hxs) (h ys hys) htext
  have hany : ∀ (items : List Value) (key : MemberKey),
      (items.any fun v => (MemberKey.ofValue v).same key) =
        (items.map MemberKey.ofValue).any (·.same key) := fun _ _ => by
    rw [List.any_map]
    rfl
  simp only [scan_of_hasText hxtext, scan_of_hasText hytext, hany, hkeys]

theorem coherent_of_keyed {lists : List Value → Prop}
    (h : ∀ items, lists items →
      (Value.list items).hasText = true ∧ ∀ v ∈ items, v.IsKeyed) : Coherent lists where
  members := sharesMembers_of_keyed fun items hitems => (h items hitems).2
  unwritten items hitems htext := by
    rw [(h items hitems).1] at htext
    cases htext

/-- If every list that is not empty is long, a look into one answers from
its set. -/
theorem perform_long {items : List Value} {actual : Value} {key : MemberKey}
    (hactual : actual.isAbsent = false) (hkey : actual.key = .ok key) (hitems : items ≠ [])
    (cache : SetCache) :
    (SetUse.perform ⟨.int 1⟩ (.compare (.text "in") actual (.list items))).Ends cache
      fun outcome cache' =>
        outcome = (cache.keysOf items).map (fun found => some (found.1.any (·.same key))) ∧
          cache' = ((cache.keysOf items).toOption.map Prod.snd).getD cache := by
  have hlength := List.length_pos_iff.mpr hitems
  have hlong : ¬(items.length : Int) < 1 := by omega
  have hoperator : Operator.ofValue? (.text "in") = some .isIn := by decide
  simp only [SetUse.perform, Comparator.compareBy, hoperator, Comparator.compare, hactual,
    Bool.false_eq_true, if_false, Comparator.evaluateIn, Value.items?, Comparator.isShort_int,
    hlong, decide_false, hkey]
  refine .bind (.bind_eq (.ofExcept ⟨rfl, rfl⟩) (.bind_eq (.ofExcept ⟨rfl, rfl⟩)
    (Comparator.lookUp_ends key items cache))) ?_ ?_
  · rintro answer _ ⟨hanswer, rfl⟩
    refine .pure ⟨?_, rfl⟩
    cases hkeys : cache.keysOf items with
    | ok found => rw [hkeys] at hanswer; cases hanswer; rfl
    | error fault => rw [hkeys] at hanswer; cases hanswer
  · rintro fault _ ⟨hanswer, rfl⟩
    refine ⟨?_, rfl⟩
    cases hkeys : cache.keysOf items with
    | ok found => rw [hkeys] at hanswer; cases hanswer
    | error fault' => rw [hkeys] at hanswer; cases hanswer; rfl

theorem performAll_once {items : List Value} {actual : Value} {key : MemberKey}
    (hactual : actual.isAbsent = false) (hkey : actual.key = .ok key)
    (htext : (Value.list items).hasText = false) (hitems : items ≠ []) :
    (SetUse.performAll ⟨.int 1⟩ [.compare (.text "in") actual (.list items)]).Ends .empty
      fun outcome _ =>
        outcome = .ok [(.compare (.text "in") actual (.list items), .error .unwritable)] := by
  refine .bind_attempt (perform_long hactual hkey hitems .empty) ?_
  rintro outcome _ ⟨rfl, -⟩
  rw [SetCache.keysOf_of_not_hasText htext]
  exact .bind_eq (.pure ⟨rfl, rfl⟩) (.pure rfl)

/-- Of two looks into long lists of one text, the second has the answer that a
scan of the first list gives. -/
theorem performAll_twice {xs ys : List Value} {actual : Value} {key : MemberKey}
    (hactual : actual.isAbsent = false) (hkey : actual.key = .ok key)
    (hxtext : (Value.list xs).hasText = true) (hytext : (Value.list ys).hasText = true)
    (htext : Json.canonicalText (.list xs) = Json.canonicalText (.list ys)) (hxs : xs ≠ [])
    (hys : ys ≠ []) :
    (SetUse.performAll ⟨.int 1⟩ [.compare (.text "in") actual (.list xs),
        .compare (.text "in") actual (.list ys)]).Ends .empty fun outcome _ =>
      ∃ first, outcome = .ok [first, (.compare (.text "in") actual (.list ys),
        (scan actual xs).map some)] := by
  have hscan : (scan actual xs).map some =
      .ok (some ((xs.map MemberKey.ofValue).any (·.same key))) := by
    rw [scan_of_hasText hxtext, hkey, List.any_map]
    rfl
  have hfirst := SetCache.keysOf_of_hasText .empty hxtext
  simp only [SetCache.empty, List.lookup_nil, List.nil_append] at hfirst
  refine .bind_attempt (perform_long hactual hkey hxs .empty) ?_
  rintro first cache' ⟨-, hcache'⟩
  rw [SetCache.empty, hfirst] at hcache'
  have hsecond := SetCache.keysOf_of_hasText cache' hytext
  rw [hcache'] at hsecond
  simp only [Except.toOption, Option.map_some, Option.getD_some, ← htext, List.lookup_cons,
    BEq.rfl] at hsecond
  rw [hcache']
  refine .bind_ok (?_ : Action.Ends _ _ fun outcome _ => outcome =
    .ok [(SetUse.compare (.text "in") actual (.list ys), (scan actual xs).map some)] ∧ True)
    fun _ _ => .pure ⟨_, rfl⟩
  refine .bind_attempt (perform_long hactual hkey hys _) ?_
  rintro second _ ⟨rfl, -⟩
  rw [hscan]
  refine .bind_eq (.pure ⟨rfl, rfl⟩) (.pure ⟨?_, trivial⟩)
  simp only [Except.toOption, Option.map_some, Option.getD_some, hsecond]
  rfl

theorem coherent_of_transparent {lists : List Value → Prop} (h : Transparent lists) :
    Coherent lists := by
  have hsearch : ∀ (items : List Value) (actual : Value), actual.isAbsent = false →
      (SetUse.compare (.text "in") actual (.list items)).search? = some (actual, items) :=
    fun items actual hactual => SetUse.search?_compare.mpr ⟨by decide, rfl, hactual, rfl⟩
  constructor
  · intro xs ys hxs hys hxtext hytext htext actual hactual
    cases hkey : actual.key with
    | error fault => rw [scan_of_no_key hkey, scan_of_no_key hkey]
    | ok key =>
        have hlength : xs.length = ys.length := by
          have := congrArg List.length (Json.canonical_list_inj htext)
          simpa using this
        rcases eq_or_ne xs [] with rfl | hne
        · rw [List.eq_nil_of_length_eq_zero hlength.symm]
        have hne' : ys ≠ [] := by
          rintro rfl
          exact hne (List.eq_nil_of_length_eq_zero hlength)
        -- the first look makes the set from which the second is answered
        obtain ⟨answers, hanswers, -, hscans⟩ := h 1
          [.compare (.text "in") actual (.list xs), .compare (.text "in") actual (.list ys)]
          (by decide)
          (by
            intro use huse sought items hitems
            simp only [List.mem_cons, List.not_mem_nil, or_false] at huse
            rcases huse with rfl | rfl
            · rw [hsearch _ _ hactual] at hitems
              cases hitems
              exact hxs
            · rw [hsearch _ _ hactual] at hitems
              cases hitems
              exact hys) []
        obtain ⟨first, htwice⟩ := performAll_twice hactual hkey hxtext hytext htext hne hne' []
        rw [hanswers, Except.ok.injEq] at htwice
        subst htwice
        have hscan := hscans _ (List.mem_cons_of_mem _ (List.mem_singleton.mpr rfl)) actual ys
          (hsearch ys actual hactual)
        exact map_some_inj hscan
  · intro items hitems htext actual hactual
    cases hkey : actual.key with
    | error fault => exact scan_of_no_key hkey
    | ok key =>
        have hne : items ≠ [] := by
          rintro rfl
          cases htext
        obtain ⟨answers, hanswers, -, hscans⟩ := h 1 [.compare (.text "in") actual (.list items)]
          (by decide)
          (by
            intro use huse sought items' hitems'
            rw [List.mem_singleton.mp huse, hsearch _ _ hactual] at hitems'
            cases hitems'
            exact hitems) []
        have honce := performAll_once hactual hkey htext hne []
        rw [hanswers, Except.ok.injEq] at honce
        subst honce
        have hscan := hscans _ (List.mem_singleton.mpr rfl) actual items
          (hsearch items actual hactual)
        cases hitems' : scan actual items with
        | ok answer => rw [hitems'] at hscan; cases hscan
        | error fault => rw [hitems'] at hscan; cases hscan; rfl

/-- A single integer that is too long to be written is found by a scan and not by
way of a set. -/
theorem not_transparent_of_overlong {lists : List Value → Prop} {i : Int}
    (hi : (Value.int i).hasText = false) (hlists : lists [.int i]) : ¬Transparent lists := by
  intro h
  have htext : (Value.list [.int i]).hasText = false := by
    rw [Bool.eq_false_iff, ne_eq, Value.hasText_list]
    simp [hi]
  have hscan := (coherent_of_transparent h).unwritten [.int i] hlists htext (.int i) rfl
  simp [scan, Value.key, Value.isScalar, memberOf, MemberKey.ofValue, MemberKey.same,
    NumberKey.same, bind, Except.bind, pure, Except.pure] at hscan

/-- The lists whose looks end as a scan does are those of which lists of one
text hold the same members and no scan gets through one without text, such
as lists of keyed values that have texts. -/
theorem transparent_iff (lists : List Value → Prop) :
    (Transparent lists ↔ Coherent lists) ∧
      ((∀ items, lists items → (Value.list items).hasText = true ∧ ∀ v ∈ items, v.IsKeyed) →
        Transparent lists) :=
  ⟨⟨coherent_of_transparent, transparent_of_coherent⟩,
    fun h => transparent_of_coherent (coherent_of_keyed h)⟩

/-- A list of decimal numbers stands in the way of the texts that write
them: the text `1` is not found among texts after a look among numbers. -/
theorem texts_hidden_by_decimals :
    let numbers : List Value := [.decimal (.finite false 1 0), .decimal (.finite false 2 0)]
    let texts : List Value := [.text "1", .text "2"]
    ((SetUse.performAll ⟨.int 2⟩
      [.compare (.text "in") (.text "1") (.list numbers),
        .compare (.text "in") (.text "1") (.list texts)]).runFrom .empty []).outcome.map
          (·.map Prod.snd) = .ok [.ok (some false), .ok (some false)] ∧
      scan (.text "1") texts = .ok true := by
  decide +kernel

end AlertRules
