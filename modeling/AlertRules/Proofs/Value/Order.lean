import AlertRules.Proofs.Action
import AlertRules.Proofs.Text.Sorted
import AlertRules.Value.Order
import Mathlib.Data.List.Perm.Subperm

/-!
Equality and order from both sides.

Equality is symmetric (`equal_symm`), a value above another has the other below
it as long as neither question is refused (`ordered_swap`), and of below, above
and equal at most one is the case (`ordered_asymm`, `not_ordered`).
All this comes down to two facts, that numbers are compared alike from both
sides (`Quantity.compare?_swap`) and that texts are ordered strictly; sequences
and objects inherit it by induction.

Equality of objects goes through the fields on the left, so it is symmetric
only for objects that have each name once, which `Value.IsProper` asks of a
value in all its parts.
-/

namespace AlertRules

/-! ### Numbers -/

theorem Quantity.compare?_swap (a b : Quantity) :
    b.compare? a = (a.compare? b).map Ordering.swap := by
  cases a with
  | undefined signalling => cases b <;> rfl
  | infinite negative =>
      cases b with
      | undefined signalling => rfl
      | infinite negative' => cases negative <;> cases negative' <;> rfl
      | ratio num den power => cases negative <;> rfl
  | ratio num den power =>
      cases b with
      | undefined signalling => rfl
      | infinite negative => cases negative <;> rfl
      | ratio num' den' power' =>
          simp only [compare?, Option.map_some, Option.some.injEq]
          exact Std.OrientedCmp.eq_swap

theorem Quantity.compare?_eq_comm (a b : Quantity) :
    a.compare? b = some .eq ↔ b.compare? a = some .eq := by
  rw [Quantity.compare?_swap a b]
  cases a.compare? b with
  | none => simp
  | some order => cases order <;> simp

namespace Value

/-! ### Proper values -/

mutual

def IsProper : Value → Prop
  | .list items => AreProper items
  | .tuple items => AreProper items
  | .object fields => (Object.keys fields).Nodup ∧ FieldsProper fields
  | _ => True

def AreProper : List Value → Prop
  | [] => True
  | v :: rest => IsProper v ∧ AreProper rest

def FieldsProper : List (String × Value) → Prop
  | [] => True
  | (_, v) :: rest => IsProper v ∧ FieldsProper rest

end

theorem fieldsProper_iff {fields : List (String × Value)} :
    FieldsProper fields ↔ ∀ field ∈ fields, field.2.IsProper := by
  induction fields with
  | nil => simp [FieldsProper]
  | cons field rest ih =>
      obtain ⟨k, v⟩ := field
      rw [FieldsProper, ih, List.forall_mem_cons]

/-! ### Equality -/

/-- Only the undefined number of documents is one and the same. -/
theorem eq_of_identical {v w : Value} (h : identical v w = true) :
    v = .float (.nan true) ∧ w = .float (.nan true) := by
  unfold identical at h
  split at h
  next x y =>
      unfold Double.bothNamed at h
      split at h
      · exact ⟨rfl, rfl⟩
      · cases h
  next => cases h

/-- Values that are no containers are equal as numbers, or they are one text or both
nothing. -/
theorem scalarEq_eq_ok {v w : Value} :
    scalarEq v w = .ok true ↔
      (∃ a b, v.quantity? = some a ∧ w.quantity? = some b ∧ a.compare? b = some .eq) ∨
        (v = .null ∧ w = .null) ∨ (v = .missing ∧ w = .missing) ∨
          ∃ s, v = .text s ∧ w = .text s := by
  unfold scalarEq
  split
  next a b hv hw =>
      have hdefined : a.compare? b = some .eq → (a.isSignalling || b.isSignalling) = false := by
        cases a <;> cases b <;> first | exact fun _ => rfl | exact nofun
      constructor
      · intro h
        split at h
        · cases h
        · exact .inl ⟨a, b, hv, hw, by simpa using h⟩
      · rintro (⟨a', b', ha, hb, h⟩ | ⟨rfl, rfl⟩ | ⟨rfl, rfl⟩ | ⟨s, rfl, rfl⟩)
        · cases hv.symm.trans ha
          cases hw.symm.trans hb
          rw [hdefined h, h]
          rfl
        · cases hv
        · cases hv
        · cases hv
  next hnumbers =>
      have hnone : ¬∃ a b, v.quantity? = some a ∧ w.quantity? = some b ∧
          a.compare? b = some .eq := by
        rintro ⟨a, b, hv, hw, -⟩
        exact hnumbers a b hv hw
      rw [or_iff_right hnone]
      split
      · simp
      · simp
      · simpa using eq_comm
      next hnull hmissing htext =>
          refine ⟨nofun, ?_⟩
          rintro (⟨rfl, rfl⟩ | ⟨rfl, rfl⟩ | ⟨s, rfl, rfl⟩)
          · exact absurd rfl (hnull rfl)
          · exact absurd rfl (hmissing rfl)
          · exact absurd rfl (htext s s rfl)

theorem scalarEq_symm {v w : Value} (h : scalarEq v w = .ok true) : scalarEq w v = .ok true := by
  rw [scalarEq_eq_ok] at h ⊢
  rcases h with ⟨a, b, hv, hw, heq⟩ | ⟨hv, hw⟩ | ⟨hv, hw⟩ | ⟨s, hv, hw⟩
  · exact .inl ⟨b, a, hw, hv, (Quantity.compare?_eq_comm a b).mp heq⟩
  · exact .inr (.inl ⟨hw, hv⟩)
  · exact .inr (.inr (.inl ⟨hw, hv⟩))
  · exact .inr (.inr (.inr ⟨s, hw, hv⟩))

def Matches (v w : Value) : Prop :=
  ∃ answer, equal v w = .ok answer ∧ (identical v w || answer) = true

theorem Matches.symm {v w : Value} (h : v.Matches w)
    (hequal : equal v w = .ok true → equal w v = .ok true) : w.Matches v := by
  obtain ⟨answer, hanswer, hsame⟩ := h
  rcases Bool.or_eq_true_iff.mp hsame with hidentical | rfl
  · obtain ⟨rfl, rfl⟩ := eq_of_identical hidentical
    exact ⟨answer, hanswer, hsame⟩
  · exact ⟨true, hequal hanswer, Bool.or_true _⟩

/-- What goes on while parts match goes on to the end where all do. -/
theorem bind_eq_ok {v w : Value} {rest : Except OrderError Bool} :
    (do if identical v w || (← equal v w) then rest else pure false) = .ok true ↔
      v.Matches w ∧ rest = .ok true := by
  unfold Matches
  cases equal v w with
  | error e =>
      refine ⟨nofun, ?_⟩
      rintro ⟨⟨answer, h, -⟩, -⟩
      cases h
  | ok answer =>
      simp only [bind, Except.bind, Except.ok.injEq, exists_eq_left']
      split
      next hmatch => simp [hmatch]
      next hdiffer => simp [hdiffer, pure, Except.pure]

theorem equalFields_eq_ok {xs ys : List (String × Value)} :
    equalFields xs ys = .ok true ↔
      ∀ field ∈ xs, ∃ y, Object.get? ys field.1 = some y ∧ field.2.Matches y := by
  induction xs with
  | nil => simp [equalFields]
  | cons field rest ih =>
      obtain ⟨k, x⟩ := field
      rw [equalFields, List.forall_mem_cons, ← ih]
      cases hget : Object.get? ys k with
      | none => simp
      | some y => simpa using bind_eq_ok

/-- A field of an object that has each name once is found by its name. -/
theorem get?_of_mem {fields : Object} (hnames : (Object.keys fields).Nodup) {k : String} {v : Value}
    (h : (k, v) ∈ fields) : Object.get? fields k = some v := by
  induction fields with
  | nil => cases h
  | cons field rest ih =>
      obtain ⟨k', w⟩ := field
      obtain ⟨hfresh, hrest⟩ := List.nodup_cons.mp hnames
      rw [Object.get?_cons]
      rcases List.mem_cons.mp h with hfirst | hlater
      · cases hfirst
        rw [if_pos rfl]
      · have hne : k ≠ k' := by
          rintro rfl
          exact hfresh (List.mem_map.mpr ⟨_, hlater, rfl⟩)
        rw [if_neg hne]
        exact ih hrest hlater

theorem mem_of_get? {fields : Object} {k : String} {v : Value}
    (h : Object.get? fields k = some v) : (k, v) ∈ fields := by
  obtain ⟨before, after, hfields, -⟩ := List.lookup_eq_some_iff.mp h
  simp [hfields]

/-- Of two objects of one size that have each name once, if one has the names of the
other then the other has the names of the one. -/
theorem names_subset {xs ys : Object} (hxs : (Object.keys xs).Nodup)
    (hlength : xs.length = ys.length) (h : Object.keys xs ⊆ Object.keys ys) :
    Object.keys ys ⊆ Object.keys xs := by
  have hsubperm := List.subperm_of_subset hxs h
  refine (hsubperm.perm_of_length_le ?_).symm.subset
  simp [Object.keys, hlength]

mutual

/-- Equality is symmetric: induction on the first value. -/
theorem equal_symm : ∀ v w : Value, v.IsProper → w.IsProper → equal v w = .ok true →
    equal w v = .ok true
  | .list xs, w, hv, hw, h => by
      cases w with
      | list ys =>
          rw [equal] at h ⊢
          split at h
          next hlength =>
              rw [if_pos hlength.symm]
              exact equalItems_symm xs ys hv hw h
          next => cases h
      | _ =>
          simp only [equal] at h ⊢
          exact scalarEq_symm h
  | .tuple xs, w, hv, hw, h => by
      cases w with
      | tuple ys => exact equalItems_symm xs ys hv hw h
      | _ =>
          simp only [equal] at h ⊢
          exact scalarEq_symm h
  | .object xs, w, hv, hw, h => by
      cases w with
      | object ys =>
          rw [equal] at h ⊢
          split at h
          next hlength =>
              rw [if_pos hlength.symm]
              rw [equalFields_eq_ok] at h ⊢
              have hnames : Object.keys xs ⊆ Object.keys ys := by
                intro name hname
                obtain ⟨field, hfield, rfl⟩ := List.mem_map.mp hname
                obtain ⟨y, hy, -⟩ := h field hfield
                exact List.mem_map.mpr ⟨_, mem_of_get? hy, rfl⟩
              rintro ⟨k, y⟩ hfield
              have hk := names_subset hv.1 hlength hnames (List.mem_map.mpr ⟨_, hfield, rfl⟩)
              obtain ⟨⟨k', x⟩, hx, rfl⟩ := List.mem_map.mp hk
              obtain ⟨y', hy', hmatch⟩ := h _ hx
              cases (get?_of_mem hw.1 hfield).symm.trans hy'
              exact ⟨x, get?_of_mem hv.1 hx, fields_symm xs hv.2 _ hx y
                (fieldsProper_iff.mp hw.2 _ hfield) hmatch⟩
          next => cases h
      | _ =>
          simp only [equal] at h ⊢
          exact scalarEq_symm h
  | .null, w, _, _, h | .bool _, w, _, _, h | .int _, w, _, _, h | .float _, w, _, _, h
  | .decimal _, w, _, _, h | .text _, w, _, _, h | .missing, w, _, _, h => by
      simp only [equal] at h ⊢
      exact scalarEq_symm h

theorem equalItems_symm : ∀ xs ys : List Value, AreProper xs → AreProper ys →
    equalItems xs ys = .ok true → equalItems ys xs = .ok true
  | [], [], _, _, h => h
  | [], _ :: _, _, _, h => by cases h
  | _ :: _, [], _, _, h => by cases h
  | x :: xs, y :: ys, hxs, hys, h => by
      rw [equalItems, bind_eq_ok] at h ⊢
      exact ⟨h.1.symm (equal_symm x y hxs.1 hys.1), equalItems_symm xs ys hxs.2 hys.2 h.2⟩

theorem fields_symm : ∀ xs : List (String × Value), FieldsProper xs → ∀ field ∈ xs, ∀ y : Value,
    y.IsProper → field.2.Matches y → y.Matches field.2
  | (k, x) :: rest, hxs, field, hfield, y, hy, h => by
      rcases List.mem_cons.mp hfield with rfl | hlater
      · exact h.symm (equal_symm x y hxs.1 hy)
      · exact fields_symm rest hxs.2 field hlater y hy h

end

/-! ### Order -/

/-- A value that is no sequence is below another as a number or as a text. -/
theorem scalarLess_eq_ok {v w : Value} :
    scalarLess v w = .ok true ↔
      (∃ a b, v.quantity? = some a ∧ w.quantity? = some b ∧ a.compare? b = some .lt) ∨
        ∃ s t, v = .text s ∧ w = .text t ∧ Text.before s t = true := by
  unfold scalarLess
  split
  next a b hv hw =>
      constructor
      · intro h
        refine .inl ⟨a, b, hv, hw, ?_⟩
        split at h
        next order horder => simpa [horder] using h
        next =>
            split at h
            · cases h
            · cases h
      · rintro (⟨a', b', ha, hb, h⟩ | ⟨s, t, rfl, rfl, -⟩)
        · cases hv.symm.trans ha
          cases hw.symm.trans hb
          rw [h]
          rfl
        · cases hv
  next hnumbers =>
      have hnone : ¬∃ a b, v.quantity? = some a ∧ w.quantity? = some b ∧
          a.compare? b = some .lt := by
        rintro ⟨a, b, hv, hw, -⟩
        exact hnumbers a b hv hw
      rw [or_iff_right hnone]
      split
      · simp
      next htext =>
          refine ⟨nofun, ?_⟩
          rintro ⟨s, t, rfl, rfl, -⟩
          exact absurd rfl (htext s t rfl)

theorem scalarLess_asymm {v w : Value} (h : scalarLess v w = .ok true) :
    scalarLess w v ≠ .ok true := by
  intro h'
  rw [scalarLess_eq_ok] at h h'
  rcases h with ⟨a, b, hv, hw, hlt⟩ | ⟨s, t, rfl, rfl, hbefore⟩
  · rcases h' with ⟨b', a', hw', hv', hlt'⟩ | ⟨t, s, rfl, -, -⟩
    · cases hv.symm.trans hv'
      cases hw.symm.trans hw'
      rw [Quantity.compare?_swap a b, hlt] at hlt'
      cases hlt'
    · cases hw
  · rcases h' with ⟨b', a', hw', -, -⟩ | ⟨t', s', ht, hs, hafter⟩
    · cases hw'
    · cases ht
      cases hs
      rw [Text.before_asymm hbefore] at hafter
      cases hafter

theorem not_scalarLess {v w : Value} (h : scalarEq v w = .ok true) :
    scalarLess v w ≠ .ok true := by
  intro hless
  rw [scalarEq_eq_ok] at h
  rw [scalarLess_eq_ok] at hless
  rcases hless with ⟨a, b, hv, hw, hlt⟩ | ⟨s, t, rfl, rfl, hbefore⟩
  · rcases h with ⟨a', b', hv', hw', heq⟩ | ⟨rfl, -⟩ | ⟨rfl, -⟩ | ⟨s, rfl, -⟩
    · cases hv.symm.trans hv'
      cases hw.symm.trans hw'
      cases hlt.symm.trans heq
    · cases hv
    · cases hv
    · cases hv
  · rcases h with ⟨a, b, hv, -, -⟩ | ⟨hv, -⟩ | ⟨hv, -⟩ | ⟨s', hs, ht⟩
    · cases hv
    · cases hv
    · cases hv
    · cases hs
      cases ht
      cases hbefore.symm.trans (Text.before_asymm hbefore)

/-- The order of two values that are not sequences of one kind. -/
def scalarOrdered (above : Bool) (v w : Value) : Except OrderError Bool :=
  if above then scalarLess w v else scalarLess v w

theorem scalarOrdered_swap (above : Bool) (v w : Value) :
    scalarOrdered (!above) w v = scalarOrdered above v w := by
  cases above <;> rfl

theorem scalarOrdered_asymm {above : Bool} {v w : Value} (h : scalarOrdered above v w = .ok true) :
    scalarOrdered (!above) v w ≠ .ok true := by
  cases above with
  | true => exact scalarLess_asymm h
  | false => exact scalarLess_asymm h

theorem not_scalarOrdered {above : Bool} {v w : Value} (h : scalarEq v w = .ok true) :
    scalarOrdered above v w ≠ .ok true := by
  cases above with
  | true => exact not_scalarLess (scalarEq_symm h)
  | false => exact not_scalarLess h

/-- Sequences are ordered by the rest where their first items match, and by these where
they do not. -/
theorem orderedItems_cons {above : Bool} {x y : Value} {xs ys : List Value} :
    orderedItems above (x :: xs) (y :: ys) = .ok true ↔
      (x.Matches y ∧ orderedItems above xs ys = .ok true) ∨
        (equal x y = .ok false ∧ identical x y = false ∧ ordered above x y = .ok true) := by
  rw [orderedItems]
  unfold Matches
  cases equal x y with
  | error e => simp [bind, Except.bind]
  | ok answer => cases answer <;> cases identical x y <;> simp [bind, Except.bind]

theorem Matches.not_differ {x y : Value} (h : x.Matches y) :
    ¬(equal x y = .ok false ∧ identical x y = false) := by
  rintro ⟨hdiffer, hother⟩
  obtain ⟨answer, hanswer, hmatch⟩ := h
  cases hdiffer.symm.trans hanswer
  rw [hother] at hmatch
  cases hmatch

theorem not_orderedItems {above : Bool} : ∀ xs ys : List Value, equalItems xs ys = .ok true →
    orderedItems above xs ys ≠ .ok true
  | [], [], _, hordered => by cases hordered
  | [], _ :: _, h, _ => by cases h
  | _ :: _, [], h, _ => by cases h
  | _ :: xs, _ :: ys, h, hordered => by
      rw [equalItems, bind_eq_ok] at h
      rcases orderedItems_cons.mp hordered with ⟨-, hrest⟩ | ⟨hdiffer, hother, -⟩
      · exact not_orderedItems xs ys h.2 hrest
      · exact h.1.not_differ ⟨hdiffer, hother⟩

theorem not_ordered {above : Bool} {v w : Value} (h : equal v w = .ok true) :
    ordered above v w ≠ .ok true := by
  unfold ordered
  split
  next xs ys =>
      rw [equal] at h
      split at h
      · exact not_orderedItems xs ys h
      · cases h
  next xs ys => exact not_orderedItems xs ys h
  next hlists htuples =>
      unfold equal at h
      split at h
      next xs ys => exact absurd rfl (hlists xs ys rfl)
      next xs ys => exact absurd rfl (htuples xs ys rfl)
      next xs ys => cases above <;> exact nofun
      next => exact not_scalarOrdered h

mutual

/-- A value is not both below and above another: induction on the first. -/
theorem ordered_asymm {above : Bool} : ∀ v w : Value, ordered above v w = .ok true →
    ordered (!above) v w ≠ .ok true
  | .list xs, w, h => by
      cases w with
      | list ys => exact orderedItems_asymm xs ys h
      | _ => exact scalarOrdered_asymm h
  | .tuple xs, w, h => by
      cases w with
      | tuple ys => exact orderedItems_asymm xs ys h
      | _ => exact scalarOrdered_asymm h
  | .null, w, h | .bool _, w, h | .int _, w, h | .float _, w, h | .decimal _, w, h
  | .text _, w, h | .object _, w, h | .missing, w, h => scalarOrdered_asymm h

theorem orderedItems_asymm {above : Bool} : ∀ xs ys : List Value,
    orderedItems above xs ys = .ok true → orderedItems (!above) xs ys ≠ .ok true
  | [], [], h, _ => by cases h
  | [], _ :: _, h, h' => by cases above with
      | true => cases h
      | false => cases h'
  | _ :: _, [], h, h' => by cases above with
      | true => cases h'
      | false => cases h
  | x :: xs, y :: ys, h, h' => by
      rcases orderedItems_cons.mp h with ⟨hmatch, hrest⟩ | ⟨hdiffer, hother, hfirst⟩
      · rcases orderedItems_cons.mp h' with ⟨-, hrest'⟩ | ⟨hdiffer, hother, -⟩
        · exact orderedItems_asymm xs ys hrest hrest'
        · exact hmatch.not_differ ⟨hdiffer, hother⟩
      · rcases orderedItems_cons.mp h' with ⟨hmatch, -⟩ | ⟨-, -, hfirst'⟩
        · exact hmatch.not_differ ⟨hdiffer, hother⟩
        · exact ordered_asymm x y hfirst hfirst'

end

/-! ### Refusals -/

theorem refused_of_bind {v w : Value} {rest : Except OrderError Bool} {e : OrderError}
    (hfirst : equal v w = .error e → e = .undefined) (hrest : rest = .error e → e = .undefined)
    (h : (do if identical v w || (← equal v w) then rest else pure false) = .error e) :
    e = .undefined := by
  cases hequal : equal v w with
  | error e' =>
      rw [hequal] at h
      cases h
      exact hfirst hequal
  | ok answer =>
      rw [hequal] at h
      simp only [bind, Except.bind] at h
      split at h
      · exact hrest h
      · cases h

theorem refused_of_scalarEq {v w : Value} {e : OrderError} (h : scalarEq v w = .error e) :
    e = .undefined := by
  unfold scalarEq at h
  split at h
  · split at h
    · cases h
      rfl
    · cases h
  · split at h <;> cases h

mutual

/-- A question of equality may be refused, but no two values are beyond comparison. -/
theorem refused_of_equal : ∀ (v w : Value) {e : OrderError}, equal v w = .error e → e = .undefined
  | .list xs, w, e, h => by
      cases w with
      | list ys =>
          rw [equal] at h
          split at h
          · exact refused_of_equalItems xs ys h
          · cases h
      | _ =>
          simp only [equal] at h
          exact refused_of_scalarEq h
  | .tuple xs, w, e, h => by
      cases w with
      | tuple ys => exact refused_of_equalItems xs ys h
      | _ =>
          simp only [equal] at h
          exact refused_of_scalarEq h
  | .object xs, w, e, h => by
      cases w with
      | object ys =>
          rw [equal] at h
          split at h
          · exact refused_of_equalFields xs ys h
          · cases h
      | _ =>
          simp only [equal] at h
          exact refused_of_scalarEq h
  | .null, w, e, h | .bool _, w, e, h | .int _, w, e, h | .float _, w, e, h
  | .decimal _, w, e, h | .text _, w, e, h | .missing, w, e, h => by
      simp only [equal] at h
      exact refused_of_scalarEq h

theorem refused_of_equalItems : ∀ (xs ys : List Value) {e : OrderError},
    equalItems xs ys = .error e → e = .undefined
  | x :: xs, y :: ys, e, h => by
      rw [equalItems] at h
      exact refused_of_bind (refused_of_equal x y) (refused_of_equalItems xs ys) h
  | [], [], _, h | [], _ :: _, _, h | _ :: _, [], _, h => by cases h

theorem refused_of_equalFields : ∀ (xs ys : List (String × Value)) {e : OrderError},
    equalFields xs ys = .error e → e = .undefined
  | [], _, _, h => by cases h
  | (k, x) :: xs, ys, e, h => by
      rw [equalFields] at h
      split at h
      next y _ => exact refused_of_bind (refused_of_equal x y) (refused_of_equalFields xs ys) h
      next => cases h

end

/-! ### Order from the other side -/

theorem orderedItems_of_matches {above : Bool} {x y : Value} {xs ys : List Value}
    (h : x.Matches y) : orderedItems above (x :: xs) (y :: ys) = orderedItems above xs ys := by
  obtain ⟨answer, hanswer, hmatch⟩ := h
  rw [orderedItems, hanswer]
  exact if_pos hmatch

/-- Two items that differ, seen from the other side: a refusal is left out. -/
theorem orderedItems_of_differ {above : Bool} {x y : Value} {xs ys : List Value}
    (hx : x.IsProper) (hy : y.IsProper) (hdiffer : equal x y = .ok false)
    (hother : identical x y = false)
    (hanswered : orderedItems above (y :: ys) (x :: xs) ≠ .error .undefined) :
    orderedItems above (y :: ys) (x :: xs) = ordered above y x := by
  rw [orderedItems] at hanswered ⊢
  cases hequal : equal y x with
  | error e =>
      rw [hequal] at hanswered
      exact absurd (congrArg Except.error (refused_of_equal y x hequal)) hanswered
  | ok answer =>
      have hnot : (identical y x || answer) = false := by
        rw [Bool.or_eq_false_iff]
        constructor
        · rw [← Bool.not_eq_true]
          intro h
          obtain ⟨rfl, rfl⟩ := eq_of_identical h
          cases hother
        · rw [← Bool.not_eq_true]
          rintro rfl
          cases hdiffer.symm.trans (equal_symm y x hy hx hequal)
      exact if_neg (Bool.not_eq_true _ ▸ hnot)

mutual

/-- What is above another value has it below, unless the question is refused on that
side: induction on the first value. -/
theorem ordered_swap {above : Bool} : ∀ v w : Value, v.IsProper → w.IsProper →
    ordered above v w = .ok true → ordered (!above) w v ≠ .error .undefined →
      ordered (!above) w v = .ok true
  | .list xs, w, hv, hw, h, hanswered => by
      cases w with
      | list ys => exact orderedItems_swap xs ys hv hw h hanswered
      | _ => exact (scalarOrdered_swap above _ _).trans h
  | .tuple xs, w, hv, hw, h, hanswered => by
      cases w with
      | tuple ys => exact orderedItems_swap xs ys hv hw h hanswered
      | _ => exact (scalarOrdered_swap above _ _).trans h
  | .null, w, _, _, h, _ | .bool _, w, _, _, h, _ | .int _, w, _, _, h, _
  | .float _, w, _, _, h, _ | .decimal _, w, _, _, h, _ | .text _, w, _, _, h, _
  | .object _, w, _, _, h, _ | .missing, w, _, _, h, _ => by
      cases w <;> exact (scalarOrdered_swap above _ _).trans h

theorem orderedItems_swap {above : Bool} : ∀ xs ys : List Value, AreProper xs → AreProper ys →
    orderedItems above xs ys = .ok true → orderedItems (!above) ys xs ≠ .error .undefined →
      orderedItems (!above) ys xs = .ok true
  | [], [], _, _, h, _ => by cases h
  | [], _ :: _, _, _, h, _ => h
  | _ :: _, [], _, _, h, _ => by
      cases above with
      | true => rfl
      | false => cases h
  | x :: xs, y :: ys, hxs, hys, h, hanswered => by
      rcases orderedItems_cons.mp h with ⟨hmatch, hrest⟩ | ⟨hdiffer, hother, hfirst⟩
      · rw [orderedItems_of_matches (hmatch.symm (equal_symm x y hxs.1 hys.1))] at hanswered ⊢
        exact orderedItems_swap xs ys hxs.2 hys.2 hrest hanswered
      · have hordered := orderedItems_of_differ hxs.1 hys.1 hdiffer hother hanswered
        rw [hordered] at hanswered ⊢
        exact ordered_swap x y hxs.1 hys.1 hfirst hanswered

end

end Value

end AlertRules
