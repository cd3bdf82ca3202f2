import AlertRules.Markup.Escape
import AlertRules.Markup.Unescape
import Mathlib.Tactic.SplitIfs

/-!
Reading escaped text back.

What a reference is read as may depend on what follows it: a name without a
semicolon goes on for as long as it can, and its longest known beginning
counts. A text is read apart from what follows it (`ReadsAs`) if it has no
ampersand, and so is each of the references that escaping writes, since they
end with a semicolon and are known as a whole (`readsAs_escapeChar`). Texts that
are read apart can be put side by side, so escaped text is read as the text that
was escaped (`readsAs_escapeChars`), whatever that text looks like.
-/

namespace AlertRules.Markup

def ReadsAs (cs ds : List Char) : Prop :=
  ∀ rest, unescapeChars 0 (cs ++ rest) = (ds ++ ·) <$> unescapeChars 0 rest

namespace ReadsAs

variable {α : Type} {c : Char} {cs ds es fs name : List Char}

theorem nil : ReadsAs [] [] := fun rest => (id_map (unescapeChars 0 rest)).symm

theorem append (h : ReadsAs cs ds) (h' : ReadsAs es fs) : ReadsAs (cs ++ es) (ds ++ fs) := by
  intro rest
  rw [List.append_assoc, h (es ++ rest), h' rest, ← comp_map]
  exact congrArg (· <$> unescapeChars 0 rest) (funext fun text => (List.append_assoc ..).symm)

theorem flatMap {f g : α → List Char} {as : List α} (h : ∀ a ∈ as, ReadsAs (f a) (g a)) :
    ReadsAs (as.flatMap f) (as.flatMap g) := by
  induction as with
  | nil => exact nil
  | cons a as ih =>
      obtain ⟨hfirst, hrest⟩ := List.forall_mem_cons.mp h
      rw [List.flatMap_cons, List.flatMap_cons]
      exact hfirst.append (ih hrest)

theorem char (h : c ≠ '&') : ReadsAs [c] [c] := by
  intro rest
  rw [List.singleton_append, unescapeChars, if_neg (by simpa using h)]
  rfl

theorem verbatim (h : '&' ∉ cs) : ReadsAs cs cs := by
  have hchars : ReadsAs (cs.flatMap fun c => [c]) (cs.flatMap fun c => [c]) :=
    flatMap fun c hc => char fun hamp => h (hamp ▸ hc)
  rwa [List.flatMap_singleton'] at hchars

theorem unescapeChars_used (cs rest : List Char) :
    unescapeChars cs.length (cs ++ rest) = unescapeChars 0 rest := by
  induction cs with
  | nil => rfl
  | cons c cs ih => exact ih

/-- A reference that is used up to its end, whatever follows it. -/
theorem reference (h : ∀ rest, readReference? (name ++ rest) = some (.ok (ds, name.length))) :
    ReadsAs ('&' :: name) ds := by
  intro rest
  rw [List.cons_append, unescapeChars, if_pos (beq_self_eq_true '&'), h rest]
  exact congrArg ((ds ++ ·) <$> ·) (unescapeChars_used name rest)

theorem unescape {s t : String} (h : ReadsAs s.toList t.toList) : unescape s = .ok t := by
  have hread := h []
  rw [List.append_nil] at hread
  rw [Markup.unescape, hread]
  show Except.ok (String.ofList (t.toList ++ [])) = .ok t
  rw [List.append_nil, String.ofList_toList]

end ReadsAs

theorem readsAs_escapeChar (c : Char) : ReadsAs (escapeChar c) [c] := by
  unfold escapeChar
  split_ifs with hampersand hopen hclose hquote hapostrophe hslash
  case neg => exact .char (by simpa using hampersand)
  all_goals
    rw [eq_of_beq ‹(c == _) = true›]
    exact .reference fun _ => rfl

theorem readsAs_escapeChars (cs : List Char) : ReadsAs (escapeChars cs) cs := by
  have hchars : ReadsAs (cs.flatMap escapeChar) (cs.flatMap fun c => [c]) :=
    .flatMap fun c _ => readsAs_escapeChar c
  rwa [List.flatMap_singleton'] at hchars

theorem readsAs_escape (s : String) : ReadsAs (escape s).toList s.toList := by
  rw [escape, String.toList_ofList]
  exact readsAs_escapeChars s.toList

end AlertRules.Markup
