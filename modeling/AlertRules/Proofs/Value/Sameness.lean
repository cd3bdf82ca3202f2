import AlertRules.Comparison.Membership
import AlertRules.Proofs.Value.Order
import Mathlib.Data.List.Forall2

/-!
One and the same document.

Two values are the same (`Value.Same`) if they have the same kind and value at every place, the
order of an object's fields left aside. What holds of two objects field by field is said of all
names at once: under each name both have a field, and the two are related, or neither has one.
For objects that have each name once this is what a walk through the fields of one of them finds
(`partners_iff`).
-/

namespace AlertRules

namespace Value

/-! ### Sameness -/

/-- Two values have the same kind and value at every place. Documents know one kind of
sequence only, and their objects have no order. -/
inductive Same : Value → Value → Prop
  | scalar {v : Value} : v.isScalar = true → Same v v
  | items {v w : Value} {xs ys : List Value} : v.items? = some xs → w.items? = some ys →
      List.Forall₂ Same xs ys → Same v w
  | object {xs ys : Object} : (∀ name, Option.Rel Same (xs.get? name) (ys.get? name)) →
      Same (.object xs) (.object ys)

variable {v w : Value} {xs ys : List Value} {fields others : Object}

theorem not_isScalar_of_items? (h : v.items? = some xs) : v.isScalar = false := by
  cases v <;> first | rfl | cases h

theorem same_iff_eq (h : v.isScalar = true ∨ w.isScalar = true) : v.Same w ↔ v = w := by
  constructor
  · intro hsame
    cases hsame with
    | scalar => rfl
    | items hv hw => simp [not_isScalar_of_items? hv, not_isScalar_of_items? hw] at h
    | object => simp [isScalar] at h
  · rintro rfl
    exact .scalar (or_self_iff.mp h)

theorem Same.isSome_items? (h : v.Same w) : v.items?.isSome = w.items?.isSome := by
  cases h with
  | items hv hw => rw [hv, hw, Option.isSome_some, Option.isSome_some]
  | _ => rfl

theorem same_items_iff (hv : v.items? = some xs) (hw : w.items? = some ys) :
    v.Same w ↔ List.Forall₂ Same xs ys := by
  constructor
  · intro h
    cases h with
    | scalar h => cases (not_isScalar_of_items? hv).symm.trans h
    | items hv' hw' h =>
        cases hv.symm.trans hv'
        cases hw.symm.trans hw'
        exact h
    | object => cases hv
  · exact .items hv hw

theorem same_object_iff :
    (Value.object fields).Same (.object others) ↔
      ∀ name, Option.Rel Same (fields.get? name) (others.get? name) := by
  constructor
  · intro h
    cases h with
    | scalar h => cases h
    | items hv => cases hv
    | object h => exact h
  · exact .object

/-! ### Objects by their fields -/

theorem get?_eq_none_iff {name : String} : fields.get? name = none ↔ name ∉ Object.keys fields := by
  rw [Object.get?, List.lookup_eq_none_iff, Object.keys, List.mem_map, not_exists]
  refine forall_congr' fun field => ?_
  rw [bne_iff_ne, not_and, ne_comm]

/-- Objects of one size that have each name once, of which every field of the one has a
partner in the other, have partners for the fields of both. -/
theorem partners_iff {R : Value → Value → Prop} (hfields : (Object.keys fields).Nodup)
    (hothers : (Object.keys others).Nodup) :
    (fields.length = others.length ∧
        ∀ field ∈ fields, ∃ y, others.get? field.1 = some y ∧ R field.2 y) ↔
      ∀ name, Option.Rel R (fields.get? name) (others.get? name) := by
  constructor
  · rintro ⟨hlength, h⟩ name
    have hnames : Object.keys fields ⊆ Object.keys others := by
      intro k hk
      obtain ⟨field, hfield, rfl⟩ := List.mem_map.mp hk
      obtain ⟨y, hy, -⟩ := h field hfield
      exact List.mem_map.mpr ⟨_, mem_of_get? hy, rfl⟩
    cases hname : fields.get? name with
    | none =>
        have hfresh := get?_eq_none_iff.mp hname
        rw [get?_eq_none_iff.mpr fun hmem => hfresh (names_subset hfields hlength hnames hmem)]
        exact .none
    | some x =>
        obtain ⟨y, hy, hxy⟩ := h _ (mem_of_get? hname)
        rw [hy]
        exact .some hxy
  · intro h
    have hnames : ∀ name, name ∈ Object.keys fields ↔ name ∈ Object.keys others := by
      intro name
      rw [← not_iff_not, ← get?_eq_none_iff, ← get?_eq_none_iff]
      have hname := h name
      cases hx : fields.get? name <;> cases hy : others.get? name <;> simp_all
    have hperm := (List.perm_ext_iff_of_nodup hfields hothers).mpr hnames
    refine ⟨by simpa [Object.keys] using hperm.length_eq, fun field hmem => ?_⟩
    have hfield := h field.1
    rw [get?_of_mem hfields hmem] at hfield
    cases hy : others.get? field.1 with
    | none => simp [hy] at hfield
    | some y => exact ⟨y, rfl, by simpa [hy] using hfield⟩

/-! ### Relations on parts -/

section Items

variable {α β : Type} {R S : α → β → Prop} {xs : List α} {ys : List β}

theorem items_mono (h : ∀ x ∈ xs, ∀ y ∈ ys, R x y → S x y) (hitems : List.Forall₂ R xs ys) :
    List.Forall₂ S xs ys := by
  rw [List.forall₂_iff_zip] at hitems ⊢
  refine ⟨hitems.1, fun hxy => ?_⟩
  exact h _ (List.of_mem_zip hxy).1 _ (List.of_mem_zip hxy).2 (hitems.2 hxy)

/-- Lists have the same related items under relations that agree on their items. -/
theorem items_congr (h : ∀ x ∈ xs, ∀ y ∈ ys, (R x y ↔ S x y)) :
    List.Forall₂ R xs ys ↔ List.Forall₂ S xs ys :=
  ⟨items_mono fun x hx y hy => (h x hx y hy).mp, items_mono fun x hx y hy => (h x hx y hy).mpr⟩

end Items

section Fields

variable {R S : Value → Value → Prop}

theorem fields_mono (h : ∀ x ∈ fields, ∀ y ∈ others, R x.2 y.2 → S x.2 y.2)
    (hfields : ∀ name, Option.Rel R (fields.get? name) (others.get? name)) (name : String) :
    Option.Rel S (fields.get? name) (others.get? name) := by
  have hname := hfields name
  cases hx : fields.get? name with
  | none => cases hy : others.get? name <;> simp_all
  | some x =>
      cases hy : others.get? name with
      | none => simp_all
      | some y =>
          rw [hx, hy, Option.rel_some_some] at hname
          exact .some (h _ (mem_of_get? hx) _ (mem_of_get? hy) hname)

/-- Objects have the same related fields under relations that agree on their fields. -/
theorem fields_congr (h : ∀ x ∈ fields, ∀ y ∈ others, (R x.2 y.2 ↔ S x.2 y.2)) :
    (∀ name, Option.Rel R (fields.get? name) (others.get? name)) ↔
      ∀ name, Option.Rel S (fields.get? name) (others.get? name) :=
  ⟨fields_mono fun x hx y hy => (h x hx y hy).mp, fields_mono fun x hx y hy => (h x hx y hy).mpr⟩

theorem rel_map_iff {f : Value → Value} (x y : Option Value) :
    Option.Rel R (x.map f) (y.map f) ↔ Option.Rel (fun a b => R (f a) (f b)) x y := by
  cases x <;> cases y <;> simp

end Fields

end Value

end AlertRules
