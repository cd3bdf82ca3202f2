import AlertRules.Text.Sorted
import Mathlib.Data.List.Perm.Basic

/-!
Entries sorted by name.

Sorting changes nothing but the order (`perm_sortOn`), and it leaves no entry in front of one
that comes before it (`pairwise_sortOn`). So the sorted entries do not depend on the order they
had, as long as no two entries may change places (`sortOn_eq_iff`).
-/

namespace AlertRules.Text

theorem before_asymm {s t : String} (h : before s t = true) : before t s = false := by
  rw [before, decide_eq_true_eq] at h
  rw [before, decide_eq_false_iff_not]
  exact List.lt_asymm h

theorem before_trans {s t u : String} (hst : before s t = true) (htu : before t u = true) :
    before s u = true := by
  rw [before, decide_eq_true_eq] at hst htu ⊢
  exact List.lt_trans hst htu

variable {α : Type} {name : α → String}

/-! ### The same entries -/

theorem perm_insertOn (name : α → String) (x : α) (ys : List α) :
    (insertOn name x ys).Perm (x :: ys) := by
  induction ys with
  | nil => exact .refl _
  | cons y ys ih =>
      rw [insertOn]
      split
      · exact .refl _
      · exact (ih.cons y).trans (.swap x y ys)

theorem perm_foldl_insertOn (name : α → String) (xs acc : List α) :
    (xs.foldl (fun acc x => insertOn name x acc) acc).Perm (xs ++ acc) := by
  induction xs generalizing acc with
  | nil => exact .refl _
  | cons x xs ih =>
      exact (ih (insertOn name x acc)).trans
        (((perm_insertOn name x acc).append_left xs).trans List.perm_middle)

theorem perm_sortOn (name : α → String) (xs : List α) :
    (sortOn name xs).Perm xs := by
  simpa [sortOn] using perm_foldl_insertOn name xs []

/-! ### Their order -/

def InOrder (name : α → String) (x y : α) : Prop := before (name y) (name x) = false

theorem pairwise_insertOn (x : α) {ys : List α} (h : ys.Pairwise (InOrder name)) :
    (insertOn name x ys).Pairwise (InOrder name) := by
  induction ys with
  | nil => exact List.pairwise_singleton _ x
  | cons y ys ih =>
      obtain ⟨hy, hys⟩ := List.pairwise_cons.mp h
      rw [insertOn]
      split
      next hbefore =>
          refine List.pairwise_cons.mpr ⟨List.forall_mem_cons.mpr ⟨before_asymm hbefore, ?_⟩, h⟩
          intro z hz
          rw [InOrder, ← Bool.not_eq_true]
          intro hzx
          cases (hy z hz).symm.trans (before_trans hzx hbefore)
      next hbefore =>
          refine List.pairwise_cons.mpr ⟨fun z hz => ?_, ih hys⟩
          rcases List.mem_cons.mp ((perm_insertOn name x ys).mem_iff.mp hz) with rfl | hz
          · exact eq_false_of_ne_true hbefore
          · exact hy z hz

theorem pairwise_sortOn (name : α → String) (xs : List α) :
    (sortOn name xs).Pairwise (InOrder name) := by
  have hfold : ∀ acc : List α, acc.Pairwise (InOrder name) →
      (xs.foldl (fun acc x => insertOn name x acc) acc).Pairwise (InOrder name) := by
    induction xs with
    | nil => exact fun acc h => h
    | cons x xs ih => exact fun acc h => ih _ (pairwise_insertOn x h)
  exact hfold [] .nil

/-- Entries of which no two may change places are sorted into one list in whatever order
they come. -/
theorem sortOn_eq_iff {xs ys : List α}
    (h : ∀ x ∈ xs, ∀ y ∈ xs, InOrder name x y → InOrder name y x → x = y) :
    sortOn name xs = sortOn name ys ↔ xs.Perm ys := by
  constructor
  · intro hsorted
    exact (perm_sortOn name xs).symm.trans (hsorted ▸ perm_sortOn name ys)
  · intro hperm
    have hsorted : (sortOn name xs).Perm (sortOn name ys) :=
      (perm_sortOn name xs).trans (hperm.trans (perm_sortOn name ys).symm)
    refine hsorted.eq_of_pairwise (fun x y hx hy => ?_) (pairwise_sortOn name xs)
      (pairwise_sortOn name ys)
    exact h x ((perm_sortOn name xs).mem_iff.mp hx) y
      (hperm.mem_iff.mpr ((perm_sortOn name ys).mem_iff.mp hy))

end AlertRules.Text
