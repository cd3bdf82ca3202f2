import AlertRules.Proofs.Comparison.Answers
import AlertRules.Proofs.Number.Ages
import AlertRules.Proofs.Value.Order

/-!
The operators among themselves.

Which way a comparison is decided depends on both values: by their numbers, by
strict equality, by the order of their kind, or not at all. Whichever way it is,
the operators do not contradict one another (`Comparator.Consistent`). Values that
stand for numbers are ordered by a rank, the exact value of the number in units of
the least one (`Comparator.Ranked`), and a range is the two comparisons with its
bounds.
-/

namespace AlertRules

namespace Operator

/-- What an operator asks of two whole numbers. -/
def holds : Operator → Int → Int → Bool
  | .gt, i, j => decide (j < i)
  | .lt, i, j => decide (i < j)
  | .ge, i, j => decide (j ≤ i)
  | .le, i, j => decide (i ≤ j)
  | .eq, i, j => decide (i = j)
  | _, i, j => decide (i ≠ j)

theorem existsUnique_holds (i j : Int) :
    ∃! op, op ∈ [Operator.gt, .lt, .eq] ∧ op.holds i j = true := by
  rcases Int.lt_trichotomy i j with h | h | h
  · refine ⟨.lt, ⟨by simp, decide_eq_true h⟩, ?_⟩
    rintro op ⟨hop, hholds⟩
    cases op with
    | lt => rfl
    | gt | eq =>
        simp only [holds, decide_eq_true_eq] at hholds
        omega
    | _ => simp at hop
  · refine ⟨.eq, ⟨by simp, decide_eq_true h⟩, ?_⟩
    rintro op ⟨hop, hholds⟩
    cases op with
    | eq => rfl
    | gt | lt =>
        simp only [holds, decide_eq_true_eq] at hholds
        omega
    | _ => simp at hop
  · refine ⟨.gt, ⟨by simp, decide_eq_true h⟩, ?_⟩
    rintro op ⟨hop, hholds⟩
    cases op with
    | gt => rfl
    | lt | eq =>
        simp only [holds, decide_eq_true_eq] at hholds
        omega
    | _ => simp at hop

end Operator

/-! ### Numbers -/

namespace Double

theorem compare?_finite {x y : Double} (hx : x.isFinite = true) (hy : y.isFinite = true) :
    x.compare? y = some (compare x.units y.units) := by
  cases x with
  | finite a ma ka ha =>
      cases y with
      | finite b mb kb hb => rfl
      | nan named => cases hy
      | inf negative => cases hy
  | nan named => cases hx
  | inf negative => cases hx

end Double

/-- Finite numbers are compared as the whole numbers of units that they are. -/
theorem Comparator.compareNumbers_eq (op : Operator) {x y : Double} (hx : x.isFinite = true)
    (hy : y.isFinite = true) : compareNumbers op x y = op.holds x.units y.units := by
  have hxy := Double.compare?_finite hx hy
  have hyx := Double.compare?_finite hy hx
  rw [Bool.eq_iff_iff]
  cases op with
  | gt => simp [compareNumbers, Operator.holds, Double.lt, hyx, Int.compare_eq_lt]
  | lt => simp [compareNumbers, Operator.holds, Double.lt, hxy, Int.compare_eq_lt]
  | ge =>
      simp only [compareNumbers, Operator.holds, Double.le, hyx, Bool.or_eq_true, beq_iff_eq,
        Option.some.injEq, Int.compare_eq_lt, Int.compare_eq_eq, decide_eq_true_eq]
      omega
  | le =>
      simp only [compareNumbers, Operator.holds, Double.le, hxy, Bool.or_eq_true, beq_iff_eq,
        Option.some.injEq, Int.compare_eq_lt, Int.compare_eq_eq, decide_eq_true_eq]
      omega
  | eq => simp [compareNumbers, Operator.holds, Double.eqv, hxy]
  | ne | between | isIn =>
      simp [compareNumbers, Operator.holds, Double.eqv, hxy]

namespace Value

/-- A value that stands for a number. -/
def IsNumeric (v : Value) : Prop := ∃ x, v.toNumber = .ok (some x)

/-- The number that a value stands for, in units of the least one. -/
def rank (v : Value) : Int :=
  match v.toNumber with
  | .ok (some x) => x.units
  | _ => 0

theorem rank_eq {v : Value} {x : Double} (h : v.toNumber = .ok (some x)) : v.rank = x.units := by
  rw [rank, h]

theorem finite?_eq_some {x y : Double} : finite? x = some y ↔ x.isFinite = true ∧ x = y := by
  unfold finite?
  split
  next h => simp [h]
  next h => simp [h]

theorem isFinite_of_toNumber {v : Value} {x : Double} (h : v.toNumber = .ok (some x)) :
    x.isFinite = true := by
  have hfinite : ∀ {y : Double}, finite? y = some x → x.isFinite = true := by
    intro y hy
    obtain ⟨hfinite, rfl⟩ := finite?_eq_some.mp hy
    exact hfinite
  cases v with
  | int i => exact hfinite (Except.ok.inj h)
  | float y => exact hfinite (Except.ok.inj h)
  | decimal d =>
      obtain ⟨y, -, hy⟩ := Option.bind_eq_some_iff.mp (Except.ok.inj h)
      exact hfinite hy
  | text s =>
      unfold toNumber textNumber at h
      dsimp only at h
      split at h
      · cases h
      · split at h
        · cases h
        · exact hfinite (Except.ok.inj h)
  | _ => cases h

theorem isAbsent_of_numeric {v : Value} (h : v.IsNumeric) : v.isAbsent = false := by
  obtain ⟨x, hx⟩ := h
  cases v with
  | null | missing => cases hx
  | _ => rfl

/-! ### Strict equality -/

def isBool : Value → Bool
  | .bool _ => true
  | _ => false

theorem isBool_iff {v : Value} : v.isBool = true ↔ ∃ b, v = .bool b := by
  cases v <;> simp [isBool]

theorem missing_of_equal {v w : Value} (h : equal v w = .ok true) :
    v = .missing ↔ w = .missing := by
  have hmissing : ∀ u : Value, equal .missing u = .ok true → u = .missing := by
    intro u hu
    simp only [equal] at hu
    rcases scalarEq_eq_ok.mp hu with ⟨a, b, hv, -⟩ | ⟨hv, -⟩ | ⟨-, hu⟩ | ⟨s, hv, -⟩
    · cases hv
    · cases hv
    · exact hu
    · cases hv
  have hreverse : ∀ u : Value, equal u .missing = .ok true → u = .missing := by
    intro u hu
    simp only [equal] at hu
    refine hmissing u ?_
    simp only [equal]
    exact scalarEq_symm hu
  constructor
  · rintro rfl
    exact hmissing w h
  · rintro rfl
    exact hreverse v h

/-- Strict equality is equality between truth values and between others. -/
theorem strictEquals_eq_true {v w : Value} :
    strictEquals v w = true ↔ equal v w = .ok true ∧ v.isBool = w.isBool := by
  unfold strictEquals
  split
  next a b =>
      simp only [equal]
      cases a <;> cases b <;> decide
  next b hw =>
      refine ⟨nofun, fun ⟨_, hkind⟩ => ?_⟩
      obtain ⟨b', rfl⟩ := isBool_iff.mp hkind.symm
      exact absurd rfl (hw b')
  next b hv =>
      refine ⟨nofun, fun ⟨_, hkind⟩ => ?_⟩
      obtain ⟨b', rfl⟩ := isBool_iff.mp hkind
      exact absurd rfl (hv b')
  next =>
      simp only [equal]
      decide
  next hw =>
      refine ⟨nofun, fun ⟨hequal, _⟩ => ?_⟩
      exact absurd ((missing_of_equal hequal).mp rfl) hw
  next hv =>
      refine ⟨nofun, fun ⟨hequal, _⟩ => ?_⟩
      exact absurd ((missing_of_equal hequal).mpr rfl) hv
  next hv _ hw _ _ _ =>
      have hkind : v.isBool = w.isBool := by
        have hv' : v.isBool = false := by
          rw [← Bool.not_eq_true, isBool_iff]
          rintro ⟨b, rfl⟩
          exact hv b rfl
        have hw' : w.isBool = false := by
          rw [← Bool.not_eq_true, isBool_iff]
          rintro ⟨b, rfl⟩
          exact hw b rfl
        rw [hv', hw']
      rw [and_iff_left hkind]
      cases equal v w with
      | ok answer => simp
      | error e => simp

theorem strictEquals_comm {v w : Value} (hv : v.IsProper) (hw : w.IsProper) :
    strictEquals v w = strictEquals w v := by
  rw [Bool.eq_iff_iff, strictEquals_eq_true, strictEquals_eq_true]
  constructor
  · rintro ⟨hequal, hkind⟩
    exact ⟨equal_symm v w hv hw hequal, hkind.symm⟩
  · rintro ⟨hequal, hkind⟩
    exact ⟨equal_symm w v hw hv hequal, hkind.symm⟩

end Value

/-! ### One pair of values -/

namespace Comparator

variable {c : Comparator} {op : Operator} {v w : Value}

theorem answer_eq_ok {b : Bool} :
    answer op v w = .ok b ↔ ∃ x y, v.toNumber = .ok x ∧ w.toNumber = .ok y ∧
      numbersAnswer op v w x y = .ok b := by
  unfold answer
  cases v.toNumber with
  | error fault => simp [bind, Except.bind]
  | ok x =>
      cases w.toNumber with
      | error fault => simp [bind, Except.bind]
      | ok y => simp [bind, Except.bind]

/-- Two values are compared as numbers, or else as values, whichever comes first. -/
theorem numbers_or_values (x y : Option Double) :
    (∃ a b, x = some a ∧ y = some b) ∨
      ∀ op v w, numbersAnswer op v w x y = valuesAnswer op v w ∧
        numbersAnswer op w v y x = valuesAnswer op w v := by
  cases x with
  | none => exact .inr fun op v w => ⟨rfl, by cases y <;> rfl⟩
  | some a =>
      cases y with
      | none => exact .inr fun op v w => ⟨rfl, rfl⟩
      | some b => exact .inl ⟨a, b, rfl, rfl⟩

theorem orderAnswer_eq_ok {question : Except OrderError Bool} {b : Bool} :
    orderAnswer question = .ok b ↔
      question ≠ .error .undefined ∧ (b = true ↔ question = .ok true) := by
  cases question with
  | ok answer => cases answer <;> cases b <;> simp [orderAnswer]
  | error e => cases e <;> cases b <;> simp [orderAnswer]

/-- Values that stand for numbers are compared as the numbers are. -/
theorem numbersAnswer_eq {x y : Double} (hx : v.toNumber = .ok (some x))
    (hy : w.toNumber = .ok (some y)) :
    numbersAnswer op v w (some x) (some y) = .ok (op.holds x.units y.units) := by
  rw [numbersAnswer, compareNumbers_eq op (Value.isFinite_of_toNumber hx)
    (Value.isFinite_of_toNumber hy)]

theorem values_converse (hv : v.IsProper) (hw : w.IsProper) {above below : Bool}
    (habove : valuesAnswer .gt v w = .ok above) (hbelow : valuesAnswer .lt w v = .ok below) :
    above = below := by
  obtain ⟨hasked, habove⟩ := orderAnswer_eq_ok.mp habove
  obtain ⟨hasked', hbelow⟩ := orderAnswer_eq_ok.mp hbelow
  rw [Bool.eq_iff_iff, habove, hbelow]
  exact ⟨fun h => Value.ordered_swap v w hv hw h hasked',
    fun h => Value.ordered_swap w v hw hv h hasked⟩

/-- What the operators that compare two values say of one pair of them. -/
structure Consistent (c : Comparator) (v w : Value) : Prop where
  steady : ∀ op : Operator, op.IsPairwise → ∀ cache,
    (c.compare op v w).Ends cache fun outcome _ => outcome = c.outcome op v w
  symmetric : ∀ b, c.outcome .eq v w = .ok b ↔ c.outcome .eq w v = .ok b
  negated : c.outcome .ne v w = (!·) <$> c.outcome .eq v w
  converse : ∀ above below, c.outcome .gt v w = .ok above → c.outcome .lt w v = .ok below →
    above = below
  not_above_below : ¬(c.outcome .gt v w = .ok true ∧ c.outcome .lt v w = .ok true)
  not_above_equal : ¬(c.outcome .gt v w = .ok true ∧ c.outcome .eq v w = .ok true)
  not_below_equal : ¬(c.outcome .lt v w = .ok true ∧ c.outcome .eq v w = .ok true)

/-- Of what two operators ask of two values, at most one is the case. -/
theorem not_both {op op' : Operator} {v w : Value}
    (hnumbers : ∀ i j : Int, ¬(op.holds i j = true ∧ op'.holds i j = true))
    (hvalues : ¬(valuesAnswer op v w = .ok true ∧ valuesAnswer op' v w = .ok true)) :
    ¬(answer op v w = .ok true ∧ answer op' v w = .ok true) := by
  rintro ⟨hop, hop'⟩
  obtain ⟨x, y, hx, hy, hop⟩ := answer_eq_ok.mp hop
  obtain ⟨x', y', hx', hy', hop'⟩ := answer_eq_ok.mp hop'
  cases hx.symm.trans hx'
  cases hy.symm.trans hy'
  rcases numbers_or_values x y with ⟨a, b, rfl, rfl⟩ | hboth
  · rw [numbersAnswer_eq hx hy, Except.ok.injEq] at hop hop'
    exact hnumbers a.units b.units ⟨hop, hop'⟩
  · rw [(hboth _ v w).1] at hop hop'
    exact hvalues ⟨hop, hop'⟩

theorem ordered_of_valuesAnswer {question : Except OrderError Bool}
    (h : orderAnswer question = .ok true) : question = .ok true :=
  (orderAnswer_eq_ok.mp h).2.mp rfl

theorem equal_of_valuesAnswer (h : valuesAnswer .eq v w = .ok true) : v.equal w = .ok true :=
  (Value.strictEquals_eq_true.mp (Except.ok.inj h)).1

theorem consistent (c : Comparator) (hv : v.isAbsent = false) (hw : w.isAbsent = false)
    (hproper : v.IsProper) (hproper' : w.IsProper) : c.Consistent v w := by
  have hgt : Operator.gt.IsPairwise := by decide
  have hlt : Operator.lt.IsPairwise := by decide
  have heq : Operator.eq.IsPairwise := by decide
  have hne : Operator.ne.IsPairwise := by decide
  have hsymmetric : ∀ {v w : Value} {b : Bool}, v.IsProper → w.IsProper →
      answer .eq v w = .ok b → answer .eq w v = .ok b := by
    intro v w b hv hw h
    obtain ⟨x, y, hx, hy, hb⟩ := answer_eq_ok.mp h
    refine answer_eq_ok.mpr ⟨y, x, hy, hx, ?_⟩
    rcases numbers_or_values x y with ⟨a, b, rfl, rfl⟩ | hboth
    · rw [numbersAnswer_eq hy hx, ← hb, numbersAnswer_eq hx hy]
      simp only [Operator.holds, eq_comm]
    · rw [(hboth _ v w).1] at hb
      rw [(hboth _ v w).2, ← hb, valuesAnswer, valuesAnswer, Value.strictEquals_comm hw hv]
  constructor
  · intro op hop cache
    rw [outcome_eq_answer hop hv]
    exact (compare_ends hop hv).mono fun _ _ h => h.1
  · intro b
    rw [outcome_eq_answer heq hv, outcome_eq_answer heq hw]
    exact ⟨hsymmetric hproper hproper', hsymmetric hproper' hproper⟩
  · rw [outcome_eq_answer hne hv, outcome_eq_answer heq hv]
    unfold answer
    cases v.toNumber with
    | error fault => rfl
    | ok x =>
        cases w.toNumber with
        | error fault => rfl
        | ok y => cases x <;> cases y <;> rfl
  · intro above below habove hbelow
    rw [outcome_eq_answer hgt hv] at habove
    rw [outcome_eq_answer hlt hw] at hbelow
    obtain ⟨x, y, hx, hy, habove⟩ := answer_eq_ok.mp habove
    obtain ⟨y', x', hy', hx', hbelow⟩ := answer_eq_ok.mp hbelow
    cases hx.symm.trans hx'
    cases hy.symm.trans hy'
    rcases numbers_or_values x y with ⟨a, b, rfl, rfl⟩ | hboth
    · rw [numbersAnswer_eq hx hy] at habove
      rw [numbersAnswer_eq hy hx] at hbelow
      exact Except.ok.inj (habove.symm.trans hbelow)
    · rw [(hboth _ v w).1] at habove
      rw [(hboth _ v w).2] at hbelow
      exact values_converse hproper hproper' habove hbelow
  · rw [outcome_eq_answer hgt hv, outcome_eq_answer hlt hv]
    refine not_both ?_ fun ⟨habove, hbelow⟩ => ?_
    · simp only [Operator.holds, decide_eq_true_eq]
      omega
    · exact Value.ordered_asymm v w (ordered_of_valuesAnswer habove)
        (ordered_of_valuesAnswer hbelow)
  · rw [outcome_eq_answer hgt hv, outcome_eq_answer heq hv]
    refine not_both ?_ fun ⟨habove, hequal⟩ => ?_
    · simp only [Operator.holds, decide_eq_true_eq]
      omega
    · exact Value.not_ordered (equal_of_valuesAnswer hequal) (ordered_of_valuesAnswer habove)
  · rw [outcome_eq_answer hlt hv, outcome_eq_answer heq hv]
    refine not_both ?_ fun ⟨hbelow, hequal⟩ => ?_
    · simp only [Operator.holds, decide_eq_true_eq]
      omega
    · exact Value.not_ordered (equal_of_valuesAnswer hequal) (ordered_of_valuesAnswer hbelow)

/-! ### Numbers and ranges -/

/-- Two values are ordered by their ranks, in one of three ways. -/
structure Ranked (c : Comparator) (v w : Value) : Prop where
  holds : ∀ op : Operator, op.IsPairwise → c.outcome op v w = .ok (op.holds v.rank w.rank)
  one : ∃! op, op ∈ [Operator.gt, .lt, .eq] ∧ c.outcome op v w = .ok true
  atLeast : c.outcome .ge v w = (!·) <$> c.outcome .lt v w
  atMost : c.outcome .le v w = (!·) <$> c.outcome .gt v w

theorem outcome_of_numeric (c : Comparator) (hv : v.IsNumeric) (hw : w.IsNumeric)
    (hop : op.IsPairwise) : c.outcome op v w = .ok (op.holds v.rank w.rank) := by
  obtain ⟨x, hx⟩ := hv
  obtain ⟨y, hy⟩ := hw
  rw [outcome_eq_answer hop (Value.isAbsent_of_numeric ⟨x, hx⟩), Value.rank_eq hx,
    Value.rank_eq hy]
  exact answer_eq_ok.mpr ⟨_, _, hx, hy, numbersAnswer_eq hx hy⟩

theorem ranked (c : Comparator) (hv : v.IsNumeric) (hw : w.IsNumeric) : c.Ranked v w := by
  have hranked : ∀ op : Operator, op.IsPairwise →
      c.outcome op v w = .ok (op.holds v.rank w.rank) :=
    fun op hop => outcome_of_numeric c hv hw hop
  refine ⟨hranked, ?_, ?_, ?_⟩
  · refine (existsUnique_congr fun op => and_congr_right fun hop => ?_).mpr
      (Operator.existsUnique_holds v.rank w.rank)
    have hpairwise : op.IsPairwise := by
      revert op
      decide
    rw [hranked op hpairwise, Except.ok.injEq]
  · rw [hranked .ge (by decide), hranked .lt (by decide)]
    exact congrArg Except.ok (by simp [Operator.holds, ← decide_not])
  · rw [hranked .le (by decide), hranked .gt (by decide)]
    exact congrArg Except.ok (by simp [Operator.holds, ← decide_not])

def AtMost (c : Comparator) (v w : Value) : Prop := c.outcome .le v w = .ok true

theorem atMost_iff (c : Comparator) (hv : v.IsNumeric) (hw : w.IsNumeric) :
    c.AtMost v w ↔ v.rank ≤ w.rank := by
  rw [AtMost, outcome_of_numeric c hv hw (by decide), Except.ok.injEq, Operator.holds,
    decide_eq_true_eq]

/-- Whether a value is at least the one bound and at most the other. -/
def within (c : Comparator) (v low high : Value) : Except Fault Bool := do
  let atLeast ← c.outcome .ge v low
  let atMost ← c.outcome .le v high
  pure (atLeast && atMost)

/-- Two numbers in order, if there are two. -/
def numbersInOrder : Option Double → Option Double → Bool
  | some x, some y => x.le y
  | _, _ => false

theorem answer_ge {x y : Option Double} (hx : v.toNumber = .ok x) (hy : w.toNumber = .ok y) :
    answer .ge v w = .ok (numbersInOrder y x) := by
  refine answer_eq_ok.mpr ⟨x, y, hx, hy, ?_⟩
  cases x <;> cases y <;> rfl

theorem answer_le {x y : Option Double} (hx : v.toNumber = .ok x) (hy : w.toNumber = .ok y) :
    answer .le v w = .ok (numbersInOrder x y) := by
  refine answer_eq_ok.mpr ⟨x, y, hx, hy, ?_⟩
  cases x <;> cases y <;> rfl

theorem not_within {x a b : Double} (hx : x.isFinite = true) (ha : a.isFinite = true)
    (hb : b.isFinite = true) (h : b.lt a = true) : (a.le x && x.le b) = false := by
  have hba : b.lt a = decide (b.units < a.units) := compareNumbers_eq .gt ha hb
  have hax : a.le x = decide (a.units ≤ x.units) := compareNumbers_eq .le ha hx
  have hxb : x.le b = decide (x.units ≤ b.units) := compareNumbers_eq .le hx hb
  rw [hba, decide_eq_true_eq] at h
  rw [hax, hxb, Bool.and_eq_false_iff, decide_eq_false_iff_not, decide_eq_false_iff_not]
  omega

variable {low high bounds : Value} {cache : SetCache}

theorem evaluateBetween_numbers {x a b : Option Double} (hbounds : bounds.items? = some [low, high])
    (hv : v.toNumber = .ok x) (hlow : low.toNumber = .ok a) (hhigh : high.toNumber = .ok b) :
    (evaluateBetween v bounds).Ends cache fun outcome cache' =>
      outcome = .ok (numbersInOrder a x && numbersInOrder x b) ∧ cache' = cache := by
  simp only [evaluateBetween, hbounds, hv, hlow, hhigh]
  cases x with
  | none =>
      refine .pure ⟨congrArg Except.ok ?_, rfl⟩
      cases a <;> rfl
  | some x =>
      cases a with
      | none => exact .pure ⟨rfl, rfl⟩
      | some a =>
          cases b with
          | none => exact .pure ⟨congrArg Except.ok (Bool.and_false _).symm, rfl⟩
          | some b =>
              intro log
              simp only [Action.ofExcept, pure_bind]
              split
              next hinverted =>
                  have hempty := not_within (Value.isFinite_of_toNumber hv)
                    (Value.isFinite_of_toNumber hlow) (Value.isFinite_of_toNumber hhigh) hinverted
                  -- a bound that is a number has a text, so the warning can be written
                  rw [Value.inspect, Value.inspect,
                    Value.written_of_hasText (Value.hasText_of_toNumber hlow),
                    Value.written_of_hasText (Value.hasText_of_toNumber hhigh)]
                  exact ⟨congrArg Except.ok hempty.symm, rfl⟩
              next => exact ⟨rfl, rfl⟩

/-- A range asks of a value to be at least its one bound and at most its other. Bounds
that are no numbers, or are in the wrong order, have nothing between them. -/
theorem compare_between (c : Comparator) (hv : v.isAbsent = false)
    (hbounds : bounds.items? = some [low, high]) :
    (c.compare .between v bounds).Ends cache fun outcome cache' =>
      outcome = c.within v low high ∧ cache' = cache := by
  rw [within, outcome_eq_answer (by decide) hv, outcome_eq_answer (by decide) hv]
  simp only [compare, hv, Bool.false_eq_true, if_false]
  cases hx : v.toNumber with
  | error fault =>
      simp only [evaluateBetween, hbounds, hx, answer]
      exact .throw ⟨rfl, rfl⟩
  | ok x =>
      cases ha : low.toNumber with
      | error fault =>
          simp only [evaluateBetween, hbounds, hx, ha, answer]
          exact .throw ⟨rfl, rfl⟩
      | ok a =>
          cases hb : high.toNumber with
          | error fault =>
              rw [answer_ge hx ha]
              simp only [evaluateBetween, hbounds, hx, ha, hb, answer]
              exact .throw ⟨rfl, rfl⟩
          | ok b =>
              rw [answer_ge hx ha, answer_le hx hb]
              exact evaluateBetween_numbers hbounds hx ha hb

/-- Comparisons do not contradict one another. Of any two values that are there, the
answers agree from both sides and at most one of above, below and equal holds; of two
that stand for numbers exactly one holds, as their ranks have it, so that being at most
another is a total order up to equality; and a value is within a range if it is at least
the one bound and at most the other. -/
theorem coherent (c : Comparator) :
    (∀ v w : Value, v.isAbsent = false → w.isAbsent = false → v.IsProper → w.IsProper →
      c.Consistent v w) ∧
    (∀ v w : Value, v.IsNumeric → w.IsNumeric →
      c.Ranked v w ∧ (c.AtMost v w ∨ c.AtMost w v) ∧
        ∀ u : Value, u.IsNumeric → c.AtMost u v → c.AtMost v w → c.AtMost u w) ∧
    ∀ v low high bounds : Value, v.isAbsent = false → bounds.items? = some [low, high] →
      ∀ cache, (c.compare .between v bounds).Ends cache fun outcome _ =>
        outcome = c.within v low high := by
  refine ⟨fun v w hv hw hv' hw' => c.consistent hv hw hv' hw', fun v w hv hw => ?_, ?_⟩
  · refine ⟨c.ranked hv hw, ?_, fun u hu huv hvw => ?_⟩
    · rw [c.atMost_iff hv hw, c.atMost_iff hw hv]
      exact Int.le_total v.rank w.rank
    · rw [c.atMost_iff hu hv] at huv
      rw [c.atMost_iff hv hw] at hvw
      exact (c.atMost_iff hu hw).mpr (Int.le_trans huv hvw)
  · intro v low high bounds hv hbounds cache
    exact (c.compare_between hv hbounds).mono fun _ _ h => h.1

/-- A list before another, the texts `10` and `9.5` by their numbers, and a range. -/
theorem coherent_samples :
    let c : Comparator := {}
    let v : Value := .list [.int 1, .object [("a", .text "x"), ("b", .null)]]
    let w : Value := .list [.int 1, .bool true]
    c.Consistent v w ∧ c.Ranked (.text "10") (.text "9.5") ∧
      (c.compare .between (.int 3) (.list [.int 5, .null])).Ends .empty fun outcome _ =>
        outcome = .ok false := by
  intro c v w
  have hten : (Value.text "10").IsNumeric := ⟨.ofInt 10, by decide +kernel⟩
  have hnine : (Value.text "9.5").IsNumeric := ⟨.ofRatio false 19 2, by decide +kernel⟩
  refine ⟨(coherent c).1 v w rfl rfl ?_ ?_, ((coherent c).2.1 _ _ hten hnine).1, ?_⟩
  · simp [v, Value.IsProper, Value.AreProper, Value.FieldsProper, Object.keys]
  · simp [w, Value.IsProper, Value.AreProper]
  · refine ((coherent c).2.2 (.int 3) (.int 5) .null _ rfl rfl .empty).mono fun outcome _ h => ?_
    rw [h]
    decide +kernel

end Comparator

end AlertRules
