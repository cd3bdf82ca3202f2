import Mathlib.Data.List.Forall2
import AlertRules.Channel.Email
import AlertRules.Proofs.Markup.Cuts
import AlertRules.Proofs.Number.Written
import AlertRules.Proofs.Template.Pieces

/-!
The signs of a text.

A page is opened and closed by four characters, the brackets of its tags and
the two quotes of their attributes. The signs of a text are those of its
characters, and what a text does to a page is in them.

Escaped text has no signs. So a template has the signs that it is written with,
whatever payload it is filled with (`Template.signs_interpolate`): a placeholder
is made of letters, digits and points, and what stands in its place is
escaped. A cut keeps the first of the signs (`signs_truncateChars`). And the page
of a mail has the signs of a fixed skeleton with those of the title and of
the message in their places (`Email.signs_page`).
-/

namespace AlertRules

namespace Markup

/-- Whether a character is a bracket of a tag or a quote of an attribute. -/
def isSign (c : Char) : Bool := c == '<' || c == '>' || c == '"' || c == '\''

def signs (cs : List Char) : List Char := cs.filter isSign

/-- Characters of a kind to which no sign belongs are no signs. -/
theorem isSign_of {p : Char → Bool} {c : Char} (h : p c = true)
    (hnone : ['<', '>', '"', '\''].any p = false) : isSign c = false := by
  rw [Bool.eq_false_iff]
  intro hsign
  rw [List.any_eq_false] at hnone
  refine hnone c ?_ h
  simpa [isSign, or_assoc] using hsign

theorem signs_append (cs ds : List Char) : signs (cs ++ ds) = signs cs ++ signs ds :=
  List.filter_append cs ds

theorem signs_cons {c : Char} (h : isSign c = false) (cs : List Char) :
    signs (c :: cs) = signs cs :=
  List.filter_cons_of_neg (Bool.eq_false_iff.mp h)

theorem signs_eq_nil {cs : List Char} : signs cs = [] ↔ ∀ c ∈ cs, isSign c = false := by
  simp [signs, List.filter_eq_nil_iff]

theorem signs_literal {s : String} {cs marks : List Char} (hs : s = String.ofList cs)
    (h : signs cs = marks) : signs s.toList = marks := by
  rw [hs, String.toList_ofList, h]

theorem signs_between {before s after : String} {opening marks closing : List Char}
    (hbefore : signs before.toList = opening) (hs : signs s.toList = marks)
    (hafter : signs after.toList = closing) :
    signs (before ++ s ++ after).toList = opening ++ marks ++ closing := by
  rw [String.toList_append, String.toList_append, signs_append, signs_append, hbefore, hs, hafter]

theorem signs_flatMap_eq_nil {α : Type} {f : α → List Char} (h : ∀ a, signs (f a) = [])
    (as : List α) : signs (as.flatMap f) = [] := by
  induction as with
  | nil => rfl
  | cons a rest ih => rw [List.flatMap_cons, signs_append, h a, ih, List.nil_append]

/-! ### Escaped text -/

theorem signs_escapeChar (c : Char) : signs (escapeChar c) = [] := by
  unfold escapeChar
  split_ifs with _ hopen hclose hquote hapostrophe _
  case neg =>
    have hc : isSign c = false := by simp [isSign, hopen, hclose, hquote, hapostrophe]
    exact signs_cons hc []
  all_goals decide

theorem signs_escapeChars (cs : List Char) : signs (escapeChars cs) = [] :=
  signs_flatMap_eq_nil signs_escapeChar cs

theorem signs_escapeAttribute (s : String) : signs (escapeAttribute s).toList = [] := by
  rw [escapeAttribute, String.toList_ofList]
  refine signs_flatMap_eq_nil (fun c => ?_) s.toList
  split
  next hslash =>
      rw [eq_of_beq hslash]
      decide
  next => exact signs_escapeChar c

/-! ### Cuts -/

theorem signs_truncateChars (limit : Int) (cs : List Char) :
    signs (truncateChars limit cs) <+: signs cs :=
  (truncateChars_isPrefix limit cs).filter isSign

end Markup

open Markup

/-! ### Templates -/

namespace Template

variable {template message : String} {data : Value} {piece : Piece} {ps : List Piece}
  {cs path : List Char} {parts : List (List Char)}

/-- A placeholder is made of letters, digits, points and braces. -/
theorem signs_source (h : IsWordPath path) : signs (Piece.source (.field path)) = [] := by
  rw [Piece.source, signs_append, signs_cons (by decide), signs_eq_nil.mpr]
  · rfl
  · exact fun c hc => isSign_of (isInner_of_isWordPath h c hc) (by decide)

theorem Stands.signs_eq (h : Stands escapeChars data piece cs)
    (hpath : ∀ path, piece = .field path → IsWordPath path) :
    signs cs = signs piece.source := by
  cases h with
  | char => rfl
  | gap => rfl
  | value => rw [signs_escapeChars, signs_source (hpath _ rfl)]

theorem signs_parts (h : List.Forall₂ (Stands escapeChars data) ps parts)
    (hpath : ∀ path, .field path ∈ ps → IsWordPath path) :
    signs parts.flatten = signs (ps.flatMap Piece.source) := by
  induction h with
  | nil => rfl
  | cons hfirst _ ih =>
      rw [List.flatten_cons, List.flatMap_cons, signs_append, signs_append,
        hfirst.signs_eq fun path hpiece => hpath path (by simp [hpiece]),
        ih fun path hmem => hpath path (List.mem_cons_of_mem _ hmem)]

/-- A template has the signs that it is written with, whatever it is filled with. -/
theorem signs_interpolate (h : interpolate template data = .ok message) :
    signs message.toList = signs template.toList := by
  have hreads : Reads template.toList (pieces template) := reads_iff.mpr rfl
  obtain ⟨parts, hparts, rfl⟩ := (interpolate_eq_ok_iff hreads).mp h
  rw [String.toList_ofList, signs_parts hparts fun path => hreads.isWordPath, hreads.source]

end Template

/-! ### Pages -/

theorem Value.signs_joined {separator : String} (h : signs separator.toList = [])
    {lines : List String} {marks : List (List Char)}
    (hlines : List.Forall₂ (fun line marks => signs line.toList = marks) lines marks) :
    signs (Value.joined separator lines).toList = marks.flatten := by
  induction hlines with
  | nil => rfl
  | @cons line first rest others hfirst hrest ih =>
      cases hrest with
      | nil =>
          rw [List.flatten_singleton]
          exact hfirst
      | cons hsecond hrest =>
          rw [List.flatten_cons, ← ih, ← hfirst]
          simp only [Value.joined, String.toList_append, signs_append, h, List.append_nil]

theorem Moment.signs_padded (width n : Nat) : signs (padded width n).toList = [] := by
  rw [signs_eq_nil]
  intro c hc
  rw [padded, String.toList_ofList, List.mem_append] at hc
  have hdigit : c.isDigit = true := by
    rcases hc with hzero | hdigit
    · rw [(List.mem_replicate.mp hzero).2]
      decide
    · exact Numeral.isDigit_of_mem_digitsOf hdigit
  exact isSign_of hdigit (by decide)

theorem Moment.signs_secondText (m : Moment) : signs m.secondText.toList = [] := by
  simp only [secondText, minuteText, String.toList_append, signs_append, signs_padded]
  decide

namespace Email

def tag : List Char := ['<', '>']

/-- The signs of a tag with an attribute whose value has none. -/
def tagWithAttribute : List Char := ['<', '"', '"', '>']

/-- The signs of a paragraph with a label in bold and a text without signs. -/
def labelled : List Char := tag ++ tag ++ tag ++ tag

/-- The signs of the paragraph with a link, if there is one. -/
def linkSigns (hasLink : Bool) : List Char :=
  if hasLink then tag ++ tagWithAttribute ++ tag ++ tag else []

/-- The signs of each line of a page, with those of the title, of the message and of a
link in their places. -/
def skeletonLines (title message : List Char) (hasLink : Bool) : List (List Char) :=
  [[], tag, tagWithAttribute,
    -- the coloured part
    tagWithAttribute, tag ++ title ++ tag, labelled, tag,
    -- the part with the message
    tagWithAttribute, tag ++ message ++ tag, labelled, labelled, linkSigns hasLink, tag,
    -- the ends of body and page
    tag, tag, []]

/-- The signs of a page, with those of the title and of the message in their places,
and those of a link if there is one. -/
def skeleton (title message : List Char) (hasLink : Bool) : List Char :=
  (skeletonLines title message hasLink).flatten

theorem signs_linkParagraph (n : Notification) :
    signs (linkParagraph n).toList = linkSigns (Channel.linkOf n).isSome := by
  unfold linkParagraph
  cases Channel.linkOf n with
  | none => exact signs_literal rfl rfl
  | some link =>
      exact .trans (signs_between (signs_literal rfl rfl) (signs_escapeAttribute link)
        (signs_literal rfl rfl)) rfl

theorem signs_color (s : Severity) : signs (color s).toList = [] := by
  cases s <;> exact signs_literal rfl rfl

theorem signs_heading (s : Severity) : signs s.heading.toList = [] := by
  cases s <;> exact signs_literal rfl rfl

theorem signs_pageLines (n : Notification) :
    List.Forall₂ (fun line marks => signs line.toList = marks) (pageLines n)
      (skeletonLines (signs n.title.toList) (signs n.message.toList)
        (Channel.linkOf n).isSome) := by
  simp only [pageLines, skeletonLines, List.forall₂_cons, List.forall₂_nil_left_iff, and_true]
  refine ⟨signs_literal rfl rfl, signs_literal rfl rfl, signs_literal rfl rfl, ?color, ?title,
    ?severity, signs_literal rfl rfl, signs_literal rfl rfl, ?message, ?label, ?time, ?link,
    signs_literal rfl rfl, signs_literal rfl rfl, signs_literal rfl rfl, signs_literal rfl rfl⟩
  case title | message => exact signs_between (signs_literal rfl rfl) rfl (signs_literal rfl rfl)
  case color =>
    exact .trans (signs_between (signs_literal rfl rfl) (signs_color _) (signs_literal rfl rfl)) rfl
  case severity =>
    exact .trans (signs_between (signs_literal rfl rfl) (signs_heading _)
      (signs_literal rfl rfl)) rfl
  case label =>
    exact .trans (signs_between (signs_literal rfl rfl) (signs_escapeAttribute _)
      (signs_literal rfl rfl)) rfl
  case time =>
    exact .trans (signs_between (signs_literal rfl rfl) (Moment.signs_secondText _)
      (signs_literal rfl rfl)) rfl
  case link =>
    rw [String.toList_append, signs_append, signs_linkParagraph]
    exact congrArg (· ++ _) (signs_literal rfl rfl)

/-- Nothing but the title and the message adds signs to the skeleton of a page. -/
theorem signs_page (n : Notification) :
    signs (page n).toList =
      skeleton (signs n.title.toList) (signs n.message.toList) (Channel.linkOf n).isSome :=
  Value.signs_joined (signs_literal rfl rfl) (signs_pageLines n)

end Email

end AlertRules
