import AlertRules.Proofs.Schema.Checked

/-!
Checks that say what is wrong.

A check gives a list of issues if it does not pass, and nothing in its type
keeps the list from being empty. The checks here never give an empty one
(`Checked.Explained`): a check of a single value names its flaw, and a check
of several parts fails only if that of a part does. So who asks for the first
issue of a failed check is given one.
-/

namespace AlertRules.Schema

variable {α β : Type}

namespace Checked

/-- A check that does not pass says what is wrong. -/
def Explained (c : Checked α) : Prop := c ≠ .bad []

theorem explained_ok (a : α) : (Checked.ok a).Explained := nofun

theorem explained_flaw (f : Flaw) : (flaw f : Checked α).Explained := nofun

theorem Explained.map {c : Checked α} (h : c.Explained) (f : α → β) : (f <$> c).Explained := by
  cases c with
  | ok a => exact explained_ok (f a)
  | bad issues => exact fun hbad => h (congrArg _ (Checked.bad.inj hbad))

theorem Explained.seq {f : Checked (α → β)} {a : Checked α} (hf : f.Explained)
    (ha : a.Explained) : (f <*> a).Explained := by
  cases f with
  | ok g =>
      cases a with
      | ok x => exact explained_ok (g x)
      | bad issues => exact fun hbad => ha (congrArg _ (Checked.bad.inj hbad))
  | bad first =>
      have hfirst : first ≠ [] := fun hnil => hf (congrArg _ hnil)
      cases a with
      | ok x => exact fun hbad => hfirst (Checked.bad.inj hbad)
      | bad second =>
          exact fun hbad => hfirst (List.append_eq_nil_iff.mp (Checked.bad.inj hbad)).1

theorem Explained.under {c : Checked α} (h : c.Explained) (step : Step) :
    (c.under step).Explained := by
  cases c with
  | ok a => exact explained_ok a
  | bad issues =>
      have hissues : issues ≠ [] := fun hnil => h (congrArg _ hnil)
      exact fun hbad => hissues (List.map_eq_nil_iff.mp (Checked.bad.inj hbad))

end Checked

open Checked

theorem legible_explained {read : String → Checked α} (h : ∀ s, (read s).Explained) (s : String) :
    (legible read s).Explained := by
  unfold legible
  split
  · exact explained_flaw _
  · exact h s

theorem nonEmptyText_explained (v : Value) : (nonEmptyText v).Explained := by
  unfold nonEmptyText
  split
  · refine legible_explained (fun s => ?_) _
    split
    · exact explained_flaw _
    · exact explained_ok s
  · exact explained_flaw _

theorem oneOf_explained (read? : String → Option α) (v : Value) : (oneOf read? v).Explained := by
  unfold oneOf
  split
  · refine legible_explained (fun s => ?_) _
    split
    · exact explained_ok _
    · exact explained_flaw _
  · exact explained_flaw _

theorem parseDouble_explained (s : String) : (parseDouble s).Explained := by
  unfold parseDouble
  split
  · exact explained_ok _
  · split
    · exact explained_ok _
    · exact explained_flaw _

theorem double_explained (v : Value) : (double v).Explained := by
  unfold double
  split
  · exact explained_ok _
  · dsimp only
    split
    · exact explained_ok _
    · exact explained_flaw _
  · exact explained_ok _
  · split
    · exact explained_ok _
    · exact explained_flaw _
  · exact legible_explained parseDouble_explained _
  · exact explained_flaw _

theorem nullable_explained {c : Check α} (h : ∀ v, (c v).Explained) (v : Value) :
    (nullable c v).Explained := by
  by_cases hv : v = .null
  · rw [hv]
    exact explained_ok none
  · rw [nullable_of_ne hv]
    exact (h v).map some

theorem required_explained {c : Check α} (h : ∀ v, (c v).Explained) (key : String) (o : Object) :
    (required c key o).Explained := by
  unfold required
  split
  · exact (h _).under _
  · exact (explained_flaw _).under _

theorem optional_explained {c : Check α} (h : ∀ v, (c v).Explained) (key : String) (default : α)
    (o : Object) : (optional c key default o).Explained := by
  unfold optional
  split
  · exact (h _).under _
  · exact explained_ok default

theorem closed_explained (known : List String) (o : Object) : (closed known o).Explained := by
  unfold closed
  split
  · exact explained_ok ()
  next hsome => exact fun hbad => hsome (List.map_eq_nil_iff.mp (Checked.bad.inj hbad))

theorem legibleNames_explained {o : Object} {c : Checked α} (h : c.Explained) :
    (legibleNames o c).Explained := by
  unfold legibleNames
  split
  · exact explained_flaw _
  · exact h

end AlertRules.Schema
