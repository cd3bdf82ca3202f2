import AlertRules.Proofs.Comparison.Sets
import AlertRules.Proofs.Number.Closest

/-!
Comparisons that give no answer.

Few questions about values have no answer. A text can have the form of a
number and not be read as one, a number that is undefined can refuse to
be ordered, and an integer can be too long to be written where a warning
shows it or a key is made of its text. Nothing else stands in the way of
a comparison, and whatever does is a part of one of the two values
(`Comparator.returns_iff`).
-/

namespace AlertRules

open AlertRules.Action

/-- An integer whose nearest number is finite is below two to the 1024th. -/
theorem Double.natAbs_lt_of_isFinite {i : Int} (h : (ofInt i).isFinite = true) :
    i.natAbs < 2 ^ 1024 := by
  have hpower : 2 ^ 53 * 2 ^ 2045 = 2 ^ 1024 * unitsOfOne := by decide +kernel
  rw [ofInt_eq, isFinite_ofUnits_iff Nat.one_pos, Nat.one_mul, hpower, unitsOf] at h
  refine Nat.lt_of_mul_lt_mul_right (a := unitsOfOne) ?_
  omega

namespace Value

/-! ### Numbers by form or by kind that are none -/

/-- Whether a text has the form of a number and is not read as one. -/
def isMisread : Value → Bool
  | .text s =>
    (Numeral.read? Text.digitValue? (Text.strip Text.isBlank s.toList)).isSome &&
      s.toList.any Text.isSeparator
  | _ => false

/-- Whether a value is an undefined number or a text that is misread. -/
def isNonNumber : Value → Bool
  | .float (.nan _) => true
  | .decimal (.nan ..) => true
  | v => v.isMisread

mutual

/-- Whether a value is or holds what a test finds. -/
def someIn (p : Value → Bool) : Value → Bool
  | .list items => p (.list items) || someInItems p items
  | .tuple items => p (.tuple items) || someInItems p items
  | .object fields => p (.object fields) || someInFields p fields
  | v => p v

def someInItems (p : Value → Bool) : List Value → Bool
  | [] => false
  | v :: rest => someIn p v || someInItems p rest

def someInFields (p : Value → Bool) : List (String × Value) → Bool
  | [] => false
  | (_, v) :: rest => someIn p v || someInFields p rest

end

/-- Whether a value is or holds an undefined number or a text that is misread. -/
def holdsNonNumber (v : Value) : Bool := v.someIn isNonNumber

@[simp] theorem holdsNonNumber_list (items : List Value) :
    (list items).holdsNonNumber = someInItems isNonNumber items := Bool.false_or _

@[simp] theorem holdsNonNumber_tuple (items : List Value) :
    (tuple items).holdsNonNumber = someInItems isNonNumber items := Bool.false_or _

@[simp] theorem holdsNonNumber_object (fields : Object) :
    (object fields).holdsNonNumber = someInFields isNonNumber fields := Bool.false_or _

theorem someIn_of {p : Value → Bool} {v : Value} (h : p v = true) : v.someIn p = true := by
  cases v <;> simp [someIn, h]

theorem someInItems_of_mem {p : Value → Bool} {v : Value} {items : List Value} (hv : v ∈ items)
    (h : v.someIn p = true) : someInItems p items = true := by
  induction items with
  | nil => cases hv
  | cons w rest ih =>
      rw [someInItems, Bool.or_eq_true]
      rcases List.mem_cons.mp hv with rfl | hv
      · exact .inl h
      · exact .inr (ih hv)

theorem someInFields_of_get? {p : Value → Bool} {key : String} {v : Value} {fields : Object}
    (hv : fields.get? key = some v) (h : v.someIn p = true) : someInFields p fields = true := by
  induction fields with
  | nil => cases hv
  | cons field rest ih =>
      obtain ⟨k, w⟩ := field
      rw [Object.get?_cons] at hv
      rw [someInFields, Bool.or_eq_true]
      split at hv
      · cases hv
        exact .inl h
      · exact .inr (ih hv)

theorem nonNumber_of_misread {v : Value} (h : v.isMisread = true) : v.holdsNonNumber = true := by
  cases v with
  | text s => exact h
  | _ => cases h

theorem nonNumber_of_item {v item : Value} {items : List Value} (h : v.items? = some items)
    (hmem : item ∈ items) (hitem : item.holdsNonNumber = true) : v.holdsNonNumber = true := by
  cases v with
  | list items' =>
      cases h
      exact (holdsNonNumber_list items).trans (someInItems_of_mem hmem hitem)
  | tuple items' =>
      cases h
      exact (holdsNonNumber_tuple items).trans (someInItems_of_mem hmem hitem)
  | _ => cases h

/-- The number of a value is known unless it is a text that is misread. -/
theorem exists_toNumber {v : Value} : (∃ x, v.toNumber = .ok x) ↔ v.isMisread = false := by
  cases v with
  | text s =>
      simp only [toNumber, textNumber, isMisread]
      split
      next hform => simp [hform]
      next numeral hform =>
          rw [hform]
          cases s.toList.any Text.isSeparator <;> simp
  | _ => simp [toNumber, isMisread]

theorem misread_of_toNumber {v : Value} {fault : Fault} (h : v.toNumber = .error fault) :
    v.isMisread = true := by
  rw [← Bool.not_eq_false, ← exists_toNumber, h]
  exact nofun

theorem holdsNonNumber_of_toNumber {v : Value} {x : Double} (h : v.toNumber = .ok (some x)) :
    v.holdsNonNumber = false := by
  have hread := exists_toNumber.mp ⟨_, h⟩
  cases v with
  | float y =>
      cases y with
      | nan named => simp [toNumber, finite?, Double.isFinite] at h
      | _ => rfl
  | decimal d =>
      cases d with
      | nan negative signalling payload =>
          cases signalling <;>
            simp [toNumber, Decimal.toDouble?, finite?, Double.isFinite] at h
      | _ => rfl
  | int i => rfl
  | text s => exact hread
  | _ => cases h

/-! ### Questions of equality and of order -/

theorem nonNumber_of_quantity {v : Value} {signalling : Bool}
    (h : v.quantity? = some (.undefined signalling)) : v.isNonNumber = true := by
  cases v with
  | float x => cases x <;> simp_all [quantity?, Double.quantity, isNonNumber]
  | decimal d => cases d <;> simp_all [quantity?, Decimal.quantity, isNonNumber]
  | _ => simp [quantity?] at h

theorem exists_undefined_of_isSignalling {a : Quantity} (h : a.isSignalling = true) :
    ∃ signalling, a = .undefined signalling := by
  cases a <;> simp_all [Quantity.isSignalling]

theorem exists_undefined_of_compare? {a b : Quantity} (h : a.compare? b = none) :
    (∃ signalling, a = .undefined signalling) ∨ ∃ signalling, b = .undefined signalling := by
  cases a <;> cases b <;> simp_all [Quantity.compare?]

/-- Only an undefined number refuses to be compared for equality. -/
theorem nonNumber_of_scalarEq {v w : Value} {e : OrderError} (h : scalarEq v w = .error e) :
    v.isNonNumber = true ∨ w.isNonNumber = true := by
  unfold scalarEq at h
  split at h
  next a b hv hw =>
      split at h
      next hsignal =>
          rcases Bool.or_eq_true _ _ ▸ hsignal with hsignal | hsignal
          · obtain ⟨signalling, rfl⟩ := exists_undefined_of_isSignalling hsignal
            exact .inl (nonNumber_of_quantity hv)
          · obtain ⟨signalling, rfl⟩ := exists_undefined_of_isSignalling hsignal
            exact .inr (nonNumber_of_quantity hw)
      · cases h
  · split at h <;> cases h

/-- Only an undefined number refuses to be ordered among what has an order. -/
theorem nonNumber_of_scalarLess {v w : Value} (h : scalarLess v w = .error .undefined) :
    v.isNonNumber = true ∨ w.isNonNumber = true := by
  unfold scalarLess at h
  split at h
  next a b hv hw =>
      split at h
      · cases h
      next hnone =>
          rcases exists_undefined_of_compare? hnone with ⟨signalling, rfl⟩ | ⟨signalling, rfl⟩
          · exact .inl (nonNumber_of_quantity hv)
          · exact .inr (nonNumber_of_quantity hw)
  · split at h <;> cases h

theorem nonNumber_of_scalarOrder {above : Bool} {v w : Value}
    (h : (if above then scalarLess w v else scalarLess v w) = .error .undefined) :
    v.holdsNonNumber = true ∨ w.holdsNonNumber = true := by
  cases above with
  | true => exact (nonNumber_of_scalarLess h).symm.imp someIn_of someIn_of
  | false => exact (nonNumber_of_scalarLess h).imp someIn_of someIn_of

/-- A question that is put about two items before the rest is looked at. -/
theorem error_of_items {question rest otherwise : Except OrderError Bool} {same : Bool}
    {e : OrderError}
    (h : (do if same || (← question) then rest else otherwise) = .error e) :
    question = .error e ∨ rest = .error e ∨ otherwise = .error e := by
  cases question with
  | error e' => exact .inl h
  | ok answer =>
      simp only [bind, Except.bind] at h
      split at h
      · exact .inr (.inl h)
      · exact .inr (.inr h)

mutual

/-- Where two values refuse to be compared for equality, one of them holds an
undefined number: induction on the first. -/
theorem nonNumber_of_equal : ∀ (v w : Value) {e : OrderError}, equal v w = .error e →
    v.holdsNonNumber = true ∨ w.holdsNonNumber = true
  | .list xs, w, e, h => by
      cases w with
      | list ys =>
          rw [equal] at h
          rw [holdsNonNumber_list, holdsNonNumber_list]
          split at h
          · exact nonNumber_of_equalItems xs ys h
          · cases h
      | _ =>
          simp only [equal] at h
          exact (nonNumber_of_scalarEq h).imp someIn_of someIn_of
  | .tuple xs, w, e, h => by
      cases w with
      | tuple ys =>
          rw [equal] at h
          rw [holdsNonNumber_tuple, holdsNonNumber_tuple]
          exact nonNumber_of_equalItems xs ys h
      | _ =>
          simp only [equal] at h
          exact (nonNumber_of_scalarEq h).imp someIn_of someIn_of
  | .object xs, w, e, h => by
      cases w with
      | object ys =>
          rw [equal] at h
          rw [holdsNonNumber_object, holdsNonNumber_object]
          split at h
          · exact nonNumber_of_equalFields xs ys h
          · cases h
      | _ =>
          simp only [equal] at h
          exact (nonNumber_of_scalarEq h).imp someIn_of someIn_of
  | .null, w, e, h | .bool _, w, e, h | .int _, w, e, h | .float _, w, e, h
  | .decimal _, w, e, h | .text _, w, e, h | .missing, w, e, h => by
      simp only [equal] at h
      exact (nonNumber_of_scalarEq h).imp someIn_of someIn_of

theorem nonNumber_of_equalItems : ∀ (xs ys : List Value) {e : OrderError},
    equalItems xs ys = .error e →
      someInItems isNonNumber xs = true ∨ someInItems isNonNumber ys = true
  | x :: xs, y :: ys, e, h => by
      rw [equalItems] at h
      rw [someInItems, someInItems, Bool.or_eq_true, Bool.or_eq_true]
      rcases error_of_items h with hfirst | hrest | hnone
      · exact (nonNumber_of_equal x y hfirst).imp .inl .inl
      · exact (nonNumber_of_equalItems xs ys hrest).imp .inr .inr
      · cases hnone
  | [], [], _, h | [], _ :: _, _, h | _ :: _, [], _, h => by cases h

theorem nonNumber_of_equalFields : ∀ (xs ys : List (String × Value)) {e : OrderError},
    equalFields xs ys = .error e →
      someInFields isNonNumber xs = true ∨ someInFields isNonNumber ys = true
  | [], _, _, h => by cases h
  | (k, x) :: xs, ys, e, h => by
      rw [equalFields] at h
      rw [someInFields, Bool.or_eq_true]
      split at h
      next y hy =>
          rcases error_of_items h with hfirst | hrest | hnone
          · exact (nonNumber_of_equal x y hfirst).imp .inl (someInFields_of_get? hy)
          · exact (nonNumber_of_equalFields xs ys hrest).imp .inr id
          · cases hnone
      next => cases h

end

mutual

/-- Where two values refuse to be ordered although they could be, one of them
holds an undefined number: induction on the first. -/
theorem nonNumber_of_ordered (above : Bool) : ∀ v w : Value,
    ordered above v w = .error .undefined →
      v.holdsNonNumber = true ∨ w.holdsNonNumber = true
  | .list xs, w, h => by
      cases w with
      | list ys =>
          rw [holdsNonNumber_list, holdsNonNumber_list]
          exact nonNumber_of_orderedItems above xs ys h
      | _ => exact nonNumber_of_scalarOrder h
  | .tuple xs, w, h => by
      cases w with
      | tuple ys =>
          rw [holdsNonNumber_tuple, holdsNonNumber_tuple]
          exact nonNumber_of_orderedItems above xs ys h
      | _ => exact nonNumber_of_scalarOrder h
  | .null, w, h | .bool _, w, h | .int _, w, h | .float _, w, h | .decimal _, w, h
  | .text _, w, h | .object _, w, h | .missing, w, h => nonNumber_of_scalarOrder h

theorem nonNumber_of_orderedItems (above : Bool) : ∀ xs ys : List Value,
    orderedItems above xs ys = .error .undefined →
      someInItems isNonNumber xs = true ∨ someInItems isNonNumber ys = true
  | x :: xs, y :: ys, h => by
      rw [orderedItems] at h
      rw [someInItems, someInItems, Bool.or_eq_true, Bool.or_eq_true]
      rcases error_of_items h with hfirst | hrest | horder
      · exact (nonNumber_of_equal x y hfirst).imp .inl .inl
      · exact (nonNumber_of_orderedItems above xs ys hrest).imp .inr .inr
      · exact (nonNumber_of_ordered above x y horder).imp .inl .inl
  | [], [], h | [], _ :: _, h | _ :: _, [], h => by cases h

end

end Value

/-! ### Comparisons -/

namespace Value

/-- Whether a value holds an undefined number, a text that is misread or an integer that is
too long to be written. -/
def IsTroubled (v : Value) : Prop := v.holdsNonNumber = true ∨ v.hasText = false

variable {v : Value} {items : List Value}

theorem hasText_of_items? (h : v.items? = some items) : v.hasText = (Value.list items).hasText := by
  cases v with
  | list | tuple => cases h; rfl
  | _ => cases h

theorem not_hasText_of_item (h : v.items? = some items) {item : Value} (hmem : item ∈ items)
    (hitem : item.hasText = false) : v.hasText = false := by
  rw [hasText_of_items? h, Bool.eq_false_iff, ne_eq, hasText_list]
  intro hall
  cases (hall item hmem).symm.trans hitem

/-- An integer that has a nearest finite number is short enough to be written. -/
theorem hasText_of_toNumber {x : Double} (h : v.toNumber = .ok (some x)) : v.hasText = true := by
  cases v with
  | int i =>
      have hfinite : (Double.ofInt i).isFinite = true := by
        by_contra hinfinite
        simp [toNumber, finite?, hinfinite] at h
      rw [hasText_int]
      calc i.natAbs < 2 ^ 1024 := Double.natAbs_lt_of_isFinite hfinite
        _ ≤ 10 ^ Numeral.digitLimit := by decide +kernel
  | list | tuple | object => cases h
  | _ => rfl

end Value

namespace Operator

/-- What an operator asks of the order of two values that are not both numbers. -/
def order : Operator → Value → Value → Except OrderError Bool
  | .gt, v, w => v.greater w
  | .lt, v, w => v.less w
  | _, _, _ => .ok false

/-- Whether a comparison has no answer. It has to read a text that is misread, or to order
what refuses to be ordered; or it has to show an operand that is no range or no list, or
to take the key of a container, and finds an integer in it that is too long to be
written. A list that is not below the threshold is written as a whole, of a shorter one the
containers before the member that is found. -/
def Refuses (threshold : Int) (op : Operator) (actual expected : Value) : Prop :=
  actual.isAbsent = false ∧
    match op, expected.items? with
    | .between, some [low, high] =>
        actual.isMisread = true ∨ low.isMisread = true ∨ high.isMisread = true
    | .between, _ => expected.hasText = false
    | .isIn, some items =>
        actual.IsUnkeyed ∨
          if (items.length : Int) < threshold then
            ∃ before v after, items = before ++ v :: after ∧
              memberOf (.ofValue actual) before = .ok false ∧ v.IsUnkeyed
          else expected.hasText = false
    | .isIn, none => expected.hasText = false
    | op, _ => actual.isMisread = true ∨ expected.isMisread = true ∨
        op.order actual expected = .error .undefined

variable {op : Operator} {actual expected : Value}

theorem nonNumber_of_order (h : op.order actual expected = .error .undefined) :
    actual.holdsNonNumber = true ∨ expected.holdsNonNumber = true := by
  cases op with
  | gt => exact Value.nonNumber_of_ordered true actual expected h
  | lt => exact Value.nonNumber_of_ordered false actual expected h
  | _ => cases h

/-- What refuses to be compared holds an undefined number, a text that is misread or an
integer that is too long to be written. -/
theorem Refuses.troubled {threshold : Int} (h : op.Refuses threshold actual expected) :
    actual.IsTroubled ∨ expected.IsTroubled := by
  obtain ⟨-, h⟩ := h
  split at h
  next low high hitems =>
      obtain hactual | hlow | hhigh := h
      · exact .inl (.inl (Value.nonNumber_of_misread hactual))
      · exact .inr (.inl (Value.nonNumber_of_item hitems (by simp)
          (Value.nonNumber_of_misread hlow)))
      · exact .inr (.inl (Value.nonNumber_of_item hitems (by simp)
          (Value.nonNumber_of_misread hhigh)))
  next => exact .inr (.inr h)
  next items hitems =>
      obtain hactual | hitem := h
      · exact .inl (.inr hactual.2)
      split at hitem
      · obtain ⟨before, v, after, rfl, -, hv⟩ := hitem
        exact .inr (.inr (Value.not_hasText_of_item hitems (by simp) hv.2))
      · exact .inr (.inr hitem)
  next => exact .inr (.inr h)
  next =>
      obtain hactual | hexpected | horder := h
      · exact .inl (.inl (Value.nonNumber_of_misread hactual))
      · exact .inr (.inl (Value.nonNumber_of_misread hexpected))
      · exact (nonNumber_of_order horder).imp .inl .inl

end Operator

namespace Comparator

variable {op : Operator} {actual expected : Value} {cache : SetCache}

/-- Whether an outcome is an answer, as it is unless the question was refused. -/
def ReturnsUnless (refused : Prop) (outcome : Except Fault Bool) : Prop :=
  (∃ answer, outcome = .ok answer) ↔ ¬refused

theorem returnsUnless_ok {refused : Prop} (h : ¬refused) (answer : Bool) :
    ReturnsUnless refused (.ok answer) :=
  ⟨fun _ => h, fun _ => ⟨answer, rfl⟩⟩

theorem returnsUnless_error {refused : Prop} (h : refused) (fault : Fault) :
    ReturnsUnless refused (.error fault) :=
  ⟨nofun, fun hnot => absurd h hnot⟩

theorem ReturnsUnless.congr {refused refused' : Prop} {outcome : Except Fault Bool}
    (h : ReturnsUnless refused outcome) (hiff : refused' ↔ refused) :
    ReturnsUnless refused' outcome :=
  h.trans (not_congr hiff.symm)

theorem evaluateOrder_returns (left right : Value) (answer : Except OrderError Bool) :
    (evaluateOrder op left right answer).Ends cache fun outcome _ =>
      ReturnsUnless (answer = .error .undefined) outcome := by
  unfold evaluateOrder
  split
  · exact .pure (returnsUnless_ok nofun _)
  · exact .bind_record (.pure (returnsUnless_ok nofun _))
  · exact .throw (returnsUnless_error rfl _)

theorem compareValues_returns :
    (compareValues op actual expected).Ends cache fun outcome _ =>
      ReturnsUnless (op.order actual expected = .error .undefined) outcome := by
  cases op with
  | gt | lt => exact evaluateOrder_returns _ _ _
  | eq | ne => exact .pure (returnsUnless_ok nofun _)
  | _ => exact .bind_record (.pure (returnsUnless_ok nofun _))

/-- A message that shows a value is written unless the value has no text. -/
theorem warn_returns (v : Value) (words : String → String) :
    (do Action.warn (words (← Action.ofExcept v.inspect)); pure false :
      Action SetCache Bool).Ends cache fun outcome _ =>
        ReturnsUnless (v.hasText = false) outcome := by
  refine .bind_ofExcept (fun shown hshown => ?_) fun fault h =>
    returnsUnless_error (Value.fault_of_written h).1 fault
  refine .bind_record (.pure (returnsUnless_ok ?_ _))
  simp [(Value.written_eq_ok_iff.mp hshown).1]

theorem evaluateIn_returns (threshold : Int) (hactual : actual.isAbsent = false) :
    (evaluateIn ⟨.int threshold⟩ actual expected).Ends cache fun outcome _ =>
      ReturnsUnless (Operator.Refuses threshold .isIn actual expected) outcome := by
  unfold evaluateIn
  split
  next items hitems =>
      simp only [Operator.Refuses, hactual, hitems, true_and]
      obtain ⟨hkey, hkeyed⟩ | ⟨hkey, hunkeyed⟩ := actual.key_cases
      swap
      · rw [hkey]
        exact .bind_ofExcept nofun fun fault _ => returnsUnless_error (.inl hunkeyed) fault
      rw [hkey, isShort_int]
      refine .bind_ofExcept (fun key h => ?_) nofun
      cases h
      refine .bind_ofExcept (fun short h => ?_) nofun
      cases h
      by_cases hshort : (items.length : Int) < threshold
      · simp only [hshort, decide_true, if_true, hkeyed, false_or]
        exact .ofExcept exists_memberOf_iff
      · simp only [hshort, decide_false, if_false, hkeyed, false_or, Bool.false_eq_true]
        refine (lookUp_ends _ items cache).mono fun outcome _ h => ?_
        rw [h.1, Value.hasText_of_items? hitems]
        cases htext : (Value.list items).hasText with
        | false =>
            rw [SetCache.keysOf_of_not_hasText htext]
            exact returnsUnless_error rfl _
        | true =>
            rw [SetCache.keysOf_of_hasText _ htext]
            split <;> exact returnsUnless_ok nofun _
  next hitems =>
      simp only [Operator.Refuses, hactual, hitems, true_and]
      exact warn_returns expected _

theorem evaluateBetween_returns (threshold : Int) (hactual : actual.isAbsent = false) :
    (evaluateBetween actual expected).Ends cache fun outcome _ =>
      ReturnsUnless (Operator.Refuses threshold .between actual expected) outcome := by
  unfold evaluateBetween
  split
  next low high hitems =>
      simp only [Operator.Refuses, hactual, hitems, true_and]
      refine .bind_ofExcept (fun number hnumber => ?_) fun fault h =>
        returnsUnless_error (.inl (Value.misread_of_toNumber h)) fault
      refine .bind_ofExcept (fun lowest hlowest => ?_) fun fault h =>
        returnsUnless_error (.inr (.inl (Value.misread_of_toNumber h))) fault
      refine .bind_ofExcept (fun highest hhighest => ?_) fun fault h =>
        returnsUnless_error (.inr (.inr (Value.misread_of_toNumber h))) fault
      have hread : ¬(actual.isMisread = true ∨ low.isMisread = true ∨ high.isMisread = true) := by
        simp [Value.exists_toNumber.mp ⟨_, hnumber⟩, Value.exists_toNumber.mp ⟨_, hlowest⟩,
          Value.exists_toNumber.mp ⟨_, hhighest⟩]
      split
      · split
        · -- the bounds are numbers, which have texts
          rw [Value.inspect, Value.written_of_hasText (Value.hasText_of_toNumber hlowest),
            Value.inspect, Value.written_of_hasText (Value.hasText_of_toNumber hhighest)]
          exact .bind_eq (.ofExcept ⟨rfl, rfl⟩) (.bind_eq (.ofExcept ⟨rfl, rfl⟩)
            (.bind_record (.pure (returnsUnless_ok hread _))))
        · exact .pure (returnsUnless_ok hread _)
      · exact .pure (returnsUnless_ok hread _)
  next hother =>
      have hrefuses : Operator.Refuses threshold .between actual expected ↔
          expected.hasText = false := by
        simp only [Operator.Refuses, hactual, true_and]
      exact (warn_returns expected _).mono fun _ _ h => h.congr hrefuses

theorem not_refused_of_numbers {x y : Double} (hx : actual.toNumber = .ok (some x))
    (hy : expected.toNumber = .ok (some y)) :
    ¬(actual.isMisread = true ∨ expected.isMisread = true ∨
      op.order actual expected = .error .undefined) := by
  rintro (hactual | hexpected | horder)
  · simp [Value.exists_toNumber.mp ⟨_, hx⟩] at hactual
  · simp [Value.exists_toNumber.mp ⟨_, hy⟩] at hexpected
  · simpa [Value.holdsNonNumber_of_toNumber hx, Value.holdsNonNumber_of_toNumber hy] using
      Operator.nonNumber_of_order horder

theorem compare_returns (threshold : Int) :
    ((⟨.int threshold⟩ : Comparator).compare op actual expected).Ends cache fun outcome _ =>
      ReturnsUnless (op.Refuses threshold actual expected) outcome := by
  cases hactual : actual.isAbsent with
  | true =>
      simp only [compare, hactual, if_true]
      exact .pure (returnsUnless_ok (fun h => by cases hactual.symm.trans h.1) _)
  | false =>
      cases op with
      | between =>
          simp only [compare, hactual, Bool.false_eq_true, if_false]
          exact evaluateBetween_returns threshold hactual
      | isIn =>
          simp only [compare, hactual, Bool.false_eq_true, if_false]
          exact evaluateIn_returns threshold hactual
      | gt | lt | ge | le | eq | ne =>
          simp only [compare, hactual, Bool.false_eq_true, if_false]
          refine .bind_ofExcept (fun x hx => ?_) fun fault h =>
            returnsUnless_error ⟨hactual, .inl (Value.misread_of_toNumber h)⟩ fault
          refine .bind_ofExcept (fun y hy => ?_) fun fault h =>
            returnsUnless_error ⟨hactual, .inr (.inl (Value.misread_of_toNumber h))⟩ fault
          split
          · exact .pure (returnsUnless_ok (fun h => not_refused_of_numbers hx hy h.2) _)
          · refine compareValues_returns.mono fun _ _ h => h.congr ?_
            have hx := Value.exists_toNumber.mp ⟨_, hx⟩
            have hy := Value.exists_toNumber.mp ⟨_, hy⟩
            simp [Operator.Refuses, hactual, hx, hy]

/-- Whether a question has no answer under an operator that is given by a value. -/
def Refuses (threshold : Int) (operator actual expected : Value) : Prop :=
  match Operator.ofValue? operator with
  | some op => op.Refuses threshold actual expected
  | none => operator.hasText = false

/-- Every comparison returns an answer unless it is refused, whatever the sets of
the cache are; a name that is no operator is never refused, and an operator refuses only
what holds an undefined number, a text that is misread or an integer that is too long to
be written. -/
theorem returns_iff (threshold : Int) (operator actual expected : Value) (cache : SetCache) :
    ((⟨.int threshold⟩ : Comparator).compareBy operator actual expected).Ends cache
        (fun outcome _ => (∃ answer, outcome = .ok answer) ↔
          ¬Refuses threshold operator actual expected) ∧
      (∀ name, Operator.ofSymbol? name = none →
        ¬Refuses threshold (.text name) actual expected) ∧
      ∀ op : Operator, op.Refuses threshold actual expected →
        actual.IsTroubled ∨ expected.IsTroubled := by
  refine ⟨?_, fun name hname => ?_, fun op h => h.troubled⟩
  · unfold compareBy Refuses
    cases hop : Operator.ofValue? operator with
    | none =>
        refine .bind_ofExcept (fun shown hshown => ?_) fun fault h =>
          returnsUnless_error (Value.fault_of_written h).1 fault
        refine .bind_record (.pure (returnsUnless_ok ?_ _))
        simp [(Value.written_eq_ok_iff.mp hshown).1]
    | some op => exact compare_returns threshold
  · have hunknown : Operator.ofValue? (.text name) = none := hname
    rw [Refuses, hunknown]
    nofun

/-- An undefined number has no order, and a number that is padded with a separator
cannot be read: two comparisons that end with a fault. -/
theorem undefined_and_padded_refused :
    let outcomeOf := fun actual : Value =>
      (((⟨.int 100⟩ : Comparator).compareBy (.text ">") actual (.int 1)).runFrom .empty []).outcome
    let padded := String.ofList [Char.ofNat 0x1c, '5']
    outcomeOf (.decimal (.nan false false 0)) = .error .unsupported ∧
      outcomeOf (.text padded) = .error (.notANumber padded) := by
  decide +kernel

end Comparator

end AlertRules
