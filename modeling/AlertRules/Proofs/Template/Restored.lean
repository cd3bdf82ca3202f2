import AlertRules.Proofs.Markup.Reading
import AlertRules.Proofs.Template.Pieces

/-!
What a message says.

A message is read by people who see its references as characters. What it says
of a payload is the template with the plain texts of the values in the places
of the placeholders. A template without an ampersand says just
that: none of its own text is taken for a reference, and none of the references
that stand for parts of a value goes on into what follows it
(`unescape_interpolate`).
-/

namespace AlertRules.Template

open Markup

variable {template message : String} {data : Value} {piece : Piece} {ps : List Piece}
  {cs : List Char} {parts : List (List Char)}

theorem Stands.readsAs (h : Stands escapeChars data piece cs) (hplain : '&' ∉ piece.source) :
    ∃ ds, Stands id data piece ds ∧ ReadsAs cs ds := by
  cases h with
  | char c => exact ⟨[c], .char c, .verbatim hplain⟩
  | gap habsent => exact ⟨_, .gap habsent, .verbatim hplain⟩
  | value hpresent htext => exact ⟨_, .value hpresent htext, readsAs_escapeChars _⟩

theorem readsAs_parts (h : List.Forall₂ (Stands escapeChars data) ps parts)
    (hplain : ∀ piece ∈ ps, '&' ∉ piece.source) :
    ∃ said, List.Forall₂ (Stands id data) ps said ∧ ReadsAs parts.flatten said.flatten := by
  induction h with
  | nil => exact ⟨[], .nil, .nil⟩
  | cons hfirst _ ih =>
      obtain ⟨hpiece, hrest⟩ := List.forall_mem_cons.mp hplain
      obtain ⟨ds, hds, hread⟩ := hfirst.readsAs hpiece
      obtain ⟨said, hsaid, hreads⟩ := ih hrest
      exact ⟨ds :: said, .cons hds hsaid, hread.append hreads⟩

/-- Escaped text is read back as the text that was escaped, and a message as its template
with the texts of the values in their places, if the template has no ampersand of its own.
There is a message if these values have texts. -/
theorem unescape_interpolate :
    (∀ s : String, unescape (escape s) = .ok s) ∧
      ∀ template : String, '&' ∉ template.toList →
        ∃ ps, (∀ qs, Reads template.toList qs ↔ qs = ps) ∧
          ∀ data, ((∃ message, interpolate template data = .ok message) ↔ Fills data ps) ∧
            ∀ message, interpolate template data = .ok message →
              ∃ parts, List.Forall₂ (Stands id data) ps parts ∧
                unescape message = .ok (String.ofList parts.flatten) := by
  refine ⟨fun s => (readsAs_escape s).unescape, fun template hplain => ?_⟩
  have hreads : Reads template.toList (pieces template) := reads_iff.mpr rfl
  refine ⟨pieces template, fun qs => reads_iff, fun data => ⟨exists_interpolate_iff hreads, ?_⟩⟩
  intro message hmessage
  obtain ⟨parts, hparts, rfl⟩ := (interpolate_eq_ok_iff hreads).mp hmessage
  obtain ⟨said, hsaid, hread⟩ := readsAs_parts hparts fun piece hpiece hampersand => by
    refine hplain ?_
    rw [← hreads.source]
    exact List.mem_flatMap.mpr ⟨piece, hpiece, hampersand⟩
  refine ⟨said, hsaid, ReadsAs.unescape ?_⟩
  rwa [String.toList_ofList, String.toList_ofList]

/-- A value that looks like a reference is said as it is, and so is a placeholder without a
value. -/
theorem unescape_interpolate_looks :
    let template := "<\x7ba\x7damp; \x7bb\x7d"
    let data : Value := .object [("a", .text "&lt;x&#38")]
    ∃ message, interpolate template data = .ok message ∧
      unescape message = .ok "<&lt;x&#38amp; \x7bb\x7d" := by
  intro template data
  obtain ⟨ps, hps, hread⟩ := unescape_interpolate.2 template (by decide)
  obtain ⟨-, hsaid⟩ := hread data
  have hpieces : ps = .char '<' :: .field ['a'] :: plain "amp; ".toList ++ [.field ['b']] := by
    rw [← (hps _).mp (reads_iff.mpr rfl)]
    decide
  have hmessage : interpolate template data = .ok "<&amp;lt;x&amp;#38amp; \x7bb\x7d" := by
    decide +kernel
  obtain ⟨parts, hparts, hunescaped⟩ := hsaid _ hmessage
  have hstands : List.Forall₂ (Stands id data) ps
      [['<'], "&lt;x&#38".toList, ['a'], ['m'], ['p'], [';'], [' '], "\x7bb\x7d".toList] := by
    rw [hpieces]
    exact .cons (.char _) (.cons (.value rfl rfl) (.cons (.char _) (.cons (.char _)
      (.cons (.char _) (.cons (.char _) (.cons (.char _) (.cons (.gap rfl) .nil)))))))
  have hunique : Relator.RightUnique (Stands id data) := fun _ _ _ => Stands.unique
  have hsame := List.right_unique_forall₂' hunique hparts hstands
  refine ⟨_, hmessage, ?_⟩
  rw [hunescaped, hsame]
  decide

end AlertRules.Template
