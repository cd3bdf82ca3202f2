import AlertRules.Proofs.Comparison.Coherence
import AlertRules.Proofs.Number.Monotone

/-!
Comparisons of integers.

Two integers are compared as floating-point numbers while both have one, and as
integers otherwise. In the first case rounding may have made two integers one number,
and an operator that asks for the difference between them answers wrongly; in the
second nothing is at least or at most anything. These are all the wrong answers there
are (`Comparator.integers_exact_iff`). Membership in a list is exact for integers of
any size, whatever has been looked up before, unless the list is looked up by a text that
it does not have (`Comparator.Unlisted`).
-/

namespace AlertRules

/-- Whether an integer has a floating-point number near it. -/
def InRange (i : Int) : Prop := (Double.ofInt i).isFinite = true

/-- Two integers that are rounded to one number. -/
def Meet (i j : Int) : Prop := (Double.ofInt i).units = (Double.ofInt j).units

instance (i : Int) : Decidable (InRange i) := inferInstanceAs (Decidable (_ = _))

instance (i j : Int) : Decidable (Meet i j) := inferInstanceAs (Decidable (_ = _))

namespace Operator

/-- The integers that an operator tells apart. -/
def Separates : Operator → Int → Int → Prop
  | .gt, i, j | .le, i, j => j < i
  | .lt, i, j | .ge, i, j => i < j
  | _, i, j => i ≠ j

/-- The integers of which an operator that has no answer would have to affirm itself. -/
def Fails : Operator → Int → Int → Prop
  | .ge, i, j => j ≤ i
  | .le, i, j => i ≤ j
  | _, _, _ => False

/-- Whether an operator answers wrongly about two integers: it would have to separate two
that have met, or has no answer for want of a floating-point number. -/
def Misses (op : Operator) (i j : Int) : Prop :=
  (InRange i ∧ InRange j) ∧ Meet i j ∧ op.Separates i j ∨
    ¬(InRange i ∧ InRange j) ∧ op.Fails i j

end Operator

/-- Every set of a cache is that of some list, under its text, as it is after any
comparisons. -/
def SetCache.IsReal (cache : SetCache) : Prop := cache.Holds fun _ => True

theorem SetCache.isReal_empty : SetCache.empty.IsReal := holds_empty

namespace Value

theorem toNumber_int (i : Int) :
    toNumber (.int i) = .ok (if InRange i then some (.ofInt i) else none) := rfl

theorem quantity_int (i j : Int) :
    (Quantity.ratio i 1 0).compare? (.ratio j 1 0) = some (compare i j) :=
  Double.compare?_ratio Nat.one_pos i j

theorem strictEquals_int (i j : Int) : strictEquals (.int i) (.int j) = decide (i = j) := by
  rw [Bool.eq_iff_iff, strictEquals_eq_true, decide_eq_true_iff]
  simp only [equal, scalarEq_eq_ok]
  constructor
  · rintro ⟨⟨a, b, ha, hb, h⟩ | ⟨h, -⟩ | ⟨h, -⟩ | ⟨s, h, -⟩, -⟩
    · cases ha
      cases hb
      rw [quantity_int] at h
      exact Int.compare_eq_eq.mp (Option.some.inj h)
    · cases h
    · cases h
    · cases h
  · rintro rfl
    refine ⟨.inl ⟨_, _, rfl, rfl, ?_⟩, rfl⟩
    rw [quantity_int, Int.compare_eq_eq.mpr rfl]

theorem eq_int_of_canonical {v : Value} {i : Int}
    (h : Json.canonicalText v = Json.canonicalText (.int i)) : v = .int i := by
  have hkind : v.writtenKind = (Value.int i).writtenKind := by
    rw [← textKind_canonical, h, textKind_canonical]
  cases v with
  | int j => rw [Json.intText_inj h]
  | _ => cases hkind

end Value

namespace Comparator

variable {c : Comparator} {op : Operator} {a b : Int}

/-- An operator answers about two integers what holds of them. -/
def Exact (c : Comparator) (op : Operator) (a b : Int) : Prop :=
  ∀ cache, (c.compare op (.int a) (.int b)).Ends cache fun outcome _ =>
    outcome = .ok (op.holds a b)

theorem exact_iff (hop : op.IsPairwise) :
    c.Exact op a b ↔ answer op (.int a) (.int b) = .ok (op.holds a b) := by
  constructor
  · intro h
    rw [← outcome_eq_answer (c := c) hop rfl]
    exact h .empty []
  · intro h cache
    exact (compare_ends hop rfl).mono fun _ _ hend => hend.1.trans h

theorem answer_inRange (ha : InRange a) (hb : InRange b) :
    answer op (.int a) (.int b) =
      .ok (op.holds (Double.ofInt a).units (Double.ofInt b).units) := by
  have hx : (Value.int a).toNumber = .ok (some (.ofInt a)) := by rw [Value.toNumber_int, if_pos ha]
  have hy : (Value.int b).toNumber = .ok (some (.ofInt b)) := by rw [Value.toNumber_int, if_pos hb]
  exact answer_eq_ok.mpr ⟨_, _, hx, hy, numbersAnswer_eq hx hy⟩

theorem answer_outOfRange (h : ¬(InRange a ∧ InRange b)) :
    answer op (.int a) (.int b) = valuesAnswer op (.int a) (.int b) := by
  rw [answer, Value.toNumber_int, Value.toNumber_int]
  by_cases ha : InRange a
  · rw [if_pos ha, if_neg fun hb => h ⟨ha, hb⟩]
    rfl
  · rw [if_neg ha]
    rfl

/-- An operator that asks about rounded numbers is wrong where it would tell apart two
that have become one. -/
theorem holds_iff {x y : Int} (hle : a ≤ b → x ≤ y) (hge : b ≤ a → y ≤ x) (hop : op.IsPairwise) :
    op.holds x y = op.holds a b ↔ ¬(x = y ∧ op.Separates a b) := by
  cases op with
  | between => exact absurd rfl hop.1
  | isIn => exact absurd rfl hop.2
  | gt | lt | ge | le | eq | ne =>
      simp only [Operator.holds, Operator.Separates, decide_eq_decide]
      omega

/-- The answers of the operators about integers of which one has no floating-point
number near it. -/
theorem valuesAnswer_int (hop : op.IsPairwise) :
    valuesAnswer op (.int a) (.int b) = .ok (op.holds a b) ↔ ¬op.Fails a b := by
  cases op with
  | between => exact absurd rfl hop.1
  | isIn => exact absurd rfl hop.2
  | eq | ne => simp [valuesAnswer, Value.strictEquals_int, Operator.holds, Operator.Fails]
  | lt =>
      simp [valuesAnswer, Operator.order, Value.less_int, orderAnswer, Operator.holds,
        Operator.Fails]
  | gt =>
      have habove : (Value.int a).greater (.int b) = (Value.int b).less (.int a) := rfl
      simp [valuesAnswer, Operator.order, habove, Value.less_int, orderAnswer, Operator.holds,
        Operator.Fails]
  | ge | le => simp [valuesAnswer, Operator.order, orderAnswer, Operator.holds, Operator.Fails]

/-- An operator is wrong about two integers in these cases and no others. -/
theorem exact_iff_not_misses (c : Comparator) (hop : op.IsPairwise) (a b : Int) :
    c.Exact op a b ↔ ¬op.Misses a b := by
  rw [exact_iff hop, Operator.Misses]
  by_cases hrange : InRange a ∧ InRange b
  · rw [answer_inRange hrange.1 hrange.2, Except.ok.injEq]
    have hle : a ≤ b → (Double.ofInt a).units ≤ (Double.ofInt b).units :=
      fun h => Double.units_ofInt_mono hrange.1 hrange.2 h
    have hge : b ≤ a → (Double.ofInt b).units ≤ (Double.ofInt a).units :=
      fun h => Double.units_ofInt_mono hrange.2 hrange.1 h
    rw [holds_iff hle hge hop]
    simp [hrange, Meet]
  · rw [answer_outOfRange hrange, valuesAnswer_int hop]
    simp [hrange]

/-- Integers up to `2 ^ 53` are not rounded, and no operator is wrong about them. -/
theorem not_misses_small (ha : a.natAbs ≤ 2 ^ 53) (hb : b.natAbs ≤ 2 ^ 53) : ¬op.Misses a b := by
  obtain ⟨hfinite, hunits⟩ := Double.units_ofInt_small ha
  obtain ⟨hfinite', hunits'⟩ := Double.units_ofInt_small hb
  rintro (⟨-, hmeet, hseparates⟩ | ⟨hrange, -⟩)
  · rw [Meet, hunits, hunits'] at hmeet
    have hone : (Double.unitsOfOne : Int) ≠ 0 :=
      Int.natCast_ne_zero.mpr (Nat.ne_of_gt Double.unitsOfOne_pos)
    cases Int.eq_of_mul_eq_mul_right hone hmeet
    cases op with
    | gt | lt | ge | le => exact Int.lt_irrefl a hseparates
    | eq | ne | between | isIn => exact hseparates rfl
  · exact hrange ⟨hfinite, hfinite'⟩

/-- A list of one integer is looked up as a set that has to be kept under a text which the
integer does not have. -/
def Unlisted (threshold b : Int) : Prop := threshold ≤ 1 ∧ (Value.int b).hasText = false

instance (threshold b : Int) : Decidable (Unlisted threshold b) :=
  inferInstanceAs (Decidable (_ ∧ _))

theorem memberOf_int (a b : Int) :
    memberOf (MemberKey.ofValue (.int a)) [.int b] = .ok (decide (a = b)) := by
  have hsame : (MemberKey.ofValue (.int b)).same (.ofValue (.int a)) = (b == a) := rfl
  rw [memberOf_cons (Value.key_of_isScalar rfl), hsame, memberOf]
  by_cases h : a = b
  · simp [h]
  · simp [h, Ne.symm h]

/-- A look for an integer in a list of one, whatever sets there are. -/
theorem compare_in_int (threshold a b : Int) {cache : SetCache} (hcache : cache.IsReal) :
    ((⟨.int threshold⟩ : Comparator).compare .isIn (.int a) (.list [.int b])).Ends cache
      fun outcome cache' =>
        outcome = (if Unlisted threshold b then .error .unwritable else .ok (decide (a = b))) ∧
          cache'.IsReal := by
  have hkey : (Value.int a).key = .ok (.ofValue (.int a)) := Value.key_of_isScalar rfl
  have hlist : (Value.list [.int b]).hasText = (Value.int b).hasText := Bool.and_true _
  refine (compare_in_kept hcache trivial rfl rfl hkey (isShort_int threshold [.int b])).mono ?_
  rintro outcome cache' ⟨hcache', hscan, hunwritten, hset⟩
  rw [hlist] at hunwritten hset
  refine ⟨?_, hcache'⟩
  by_cases hshort : (1 : Int) < threshold
  · rw [if_neg fun h => absurd h.1 (Int.not_le.mpr hshort)]
    exact (hscan (decide_eq_true hshort)).trans (memberOf_int a b)
  · cases htext : (Value.int b).hasText with
    | false =>
        rw [if_pos ⟨Int.not_lt.mp hshort, htext⟩]
        exact hunwritten (decide_eq_false hshort) htext
    | true =>
        rw [if_neg fun h => by cases htext.symm.trans h.2]
        obtain ⟨kept, -, -, hsame, rfl⟩ := hset (decide_eq_false hshort) htext
        -- the set under the text of a list of one integer is that of this list
        have hkept : kept = [.int b] := by
          have htexts := Json.canonical_list_inj hsame
          match kept, htexts with
          | [v], htexts => rw [Value.eq_int_of_canonical (List.cons.inj htexts).1]
          | _ :: _ :: _, htexts => cases (List.cons.inj htexts).2
        rw [hkept, memberOf_int]

theorem outcome_eq_int (c : Comparator) (a b : Int) :
    ∃ answer, c.outcome .eq (.int a) (.int b) = .ok answer := by
  rw [outcome_eq_answer (by decide) rfl]
  by_cases hrange : InRange a ∧ InRange b
  · exact ⟨_, answer_inRange hrange.1 hrange.2⟩
  · exact ⟨_, answer_outOfRange hrange⟩

theorem hasText_of_inRange (h : InRange b) : (Value.int b).hasText = true := by
  refine Value.hasText_of_toNumber (x := .ofInt b) ?_
  rw [Value.toNumber_int, if_pos h]

/-- The operators are exact about two integers unless they miss, and a look into a list is
unless the list has no text to be looked up by. So the two agree on equality unless rounding
makes different integers meet, or there is no such text. Nothing is missed up to `2 ^ 53`. -/
theorem integers_exact_iff (threshold a b : Int) :
    let c : Comparator := ⟨.int threshold⟩
    (∀ op : Operator, op.IsPairwise → (c.Exact op a b ↔ ¬op.Misses a b)) ∧
      (∀ cache : SetCache, cache.IsReal →
        (c.compare .isIn (.int a) (.list [.int b])).Ends cache fun outcome cache' =>
          outcome = (if Unlisted threshold b then .error .unwritable else .ok (decide (a = b))) ∧
            cache'.IsReal) ∧
      (c.outcome .eq (.int a) (.int b) = c.outcome .isIn (.int a) (.list [.int b]) ↔
        ¬((InRange a ∧ InRange b) ∧ Meet a b ∧ a ≠ b) ∧ ¬Unlisted threshold b) ∧
      (a.natAbs ≤ 2 ^ 53 → b.natAbs ≤ 2 ^ 53 → (∀ op : Operator, op.IsPairwise →
        c.Exact op a b) ∧ ¬Unlisted threshold b) := by
  intro c
  have heq : Operator.eq.IsPairwise := by decide
  refine ⟨fun op hop => c.exact_iff_not_misses hop a b,
    fun cache hcache => compare_in_int threshold a b hcache, ?_,
    fun ha hb => ⟨fun op hop => ?_, ?_⟩⟩
  · have hin : c.outcome .isIn (.int a) (.list [.int b]) =
        if Unlisted threshold b then .error .unwritable else .ok (decide (a = b)) :=
      (compare_in_int threshold a b SetCache.isReal_empty []).1
    have hexact : c.outcome .eq (.int a) (.int b) = .ok (decide (a = b)) ↔ c.Exact .eq a b := by
      rw [exact_iff heq, outcome_eq_answer heq rfl]
      rfl
    rw [hin]
    split
    next hunlisted =>
        -- the operator answers also about an integer that has no text
        refine iff_of_false (fun hfault => ?_) fun h => h.2 hunlisted
        obtain ⟨answer, hanswer⟩ := outcome_eq_int c a b
        cases hanswer.symm.trans hfault
    next hlisted =>
        rw [hexact, c.exact_iff_not_misses heq, and_iff_left hlisted]
        simp [Operator.Misses, Operator.Separates, Operator.Fails]
  · exact (c.exact_iff_not_misses hop a b).mpr (not_misses_small ha hb)
  · rintro ⟨-, htext⟩
    cases htext.symm.trans (hasText_of_inRange (Double.units_ofInt_small hb).1)

/-- Two integers about one hundred, and a look for one of them among the sets that a
look for the other has left. -/
theorem integers_exact_small :
    let c : Comparator := ⟨.int 1⟩
    (∀ op : Operator, op.IsPairwise → c.Exact op 100 (-99)) ∧
      (c.compare .isIn (.int 100) (.list [.int (-99)])).Ends .empty fun outcome _ =>
        outcome = .ok false := by
  intro c
  obtain ⟨-, hin, -, hsmall⟩ := integers_exact_iff 1 100 (-99)
  obtain ⟨hexact, hlisted⟩ := hsmall (by decide) (by decide)
  refine ⟨hexact, (hin .empty SetCache.isReal_empty).mono fun _ _ h => ?_⟩
  rw [h.1, if_neg hlisted]
  rfl

/-- The integers next to `2 ^ 53` are taken for one by equality and told apart by
membership, and an integer out of range is not at least itself. -/
theorem neighbours_confused :
    let c : Comparator := {}
    let n : Int := 9007199254740992
    let huge : Int := 10 ^ 400
    c.outcome .eq (.int n) (.int (n + 1)) = .ok true ∧
      c.outcome .isIn (.int n) (.list [.int (n + 1)]) = .ok false ∧
      c.outcome .ge (.int huge) (.int huge) = .ok false ∧
      ¬c.Exact .eq n (n + 1) ∧ ¬c.Exact .ge huge huge := by
  intro c n huge
  have hequal : c.outcome .eq (.int n) (.int (n + 1)) = .ok true := by decide +kernel
  have hmember : c.outcome .isIn (.int n) (.list [.int (n + 1)]) = .ok false := by decide +kernel
  have hself : c.outcome .ge (.int huge) (.int huge) = .ok false := by decide +kernel
  refine ⟨hequal, hmember, hself, fun h => ?_, fun h => ?_⟩
  · have hexact : c.outcome .eq (.int n) (.int (n + 1)) = .ok false := h .empty []
    cases hequal.symm.trans hexact
  · have hexact : c.outcome .ge (.int huge) (.int huge) = .ok true := by
      refine (h .empty []).trans ?_
      simp [Operator.holds]
    cases hself.symm.trans hexact

end Comparator

end AlertRules
