import AlertRules.Proofs.Action
import AlertRules.Proofs.Path
import AlertRules.Proofs.Value.Shown
import AlertRules.Template
import Mathlib.Data.List.Forall2

/-!
The placeholders of a template.

A placeholder is a path between braces, and a path is some words with a point
between each two. Which pieces a text has can be said without a scanner: from
the left, where a placeholder begins there is that placeholder, and anywhere
else there is one character (`Reads`). Every text has pieces and has them in
one way only, and they are those that the scanner finds (`reads_iff`).

So a template is filled in one pass. Its pieces do not depend on the payload,
and what a value puts in the place of a placeholder is not looked at again. Two
templates can be filled apart if no placeholder is begun in the first and ended
in the second, which a closing brace before or an opening brace behind the
border between them rules out (`interpolate_single_pass`).
-/

namespace AlertRules

namespace Template

variable {c d : Char} {cs path rest first second : List Char} {ps qs : List Piece}

/-! ### Paths -/

/-- A word: letters, digits and underscores, at least one. -/
def IsWord (cs : List Char) : Prop := cs ≠ [] ∧ ∀ c ∈ cs, isWordChar c = true

/-- A path of words: at least one, with a point between each two. -/
def IsWordPath (cs : List Char) : Prop :=
  ∃ words, words ≠ [] ∧ (∀ word ∈ words, IsWord word) ∧ cs = ['.'].intercalate words

/-- Whether a character can stand between the braces of a placeholder. -/
def isInner (c : Char) : Bool := isWordChar c || c == '.'

theorem ne_of_isInner (h : isInner c = true) : c ≠ '\x7b' ∧ c ≠ '\x7d' := by
  constructor
  · rintro rfl
    exact absurd h (by decide)
  · rintro rfl
    exact absurd h (by decide)

theorem point_not_mem_of_isWord (h : IsWord cs) : '.' ∉ cs :=
  fun hmem => absurd (h.2 '.' hmem) (by decide)

theorem mem_intercalate {words : List (List Char)} (h : c ∈ ['.'].intercalate words) :
    c = '.' ∨ ∃ word ∈ words, c ∈ word := by
  induction words with
  | nil => simp at h
  | cons word rest ih =>
      cases rest with
      | nil => exact .inr ⟨word, by simp, by simpa using h⟩
      | cons next rest =>
          simp only [List.intercalate_cons_cons, List.mem_append, List.mem_singleton] at h
          rcases h with (h | h) | h
          · exact .inr ⟨word, by simp, h⟩
          · exact .inl h
          · obtain h | ⟨other, hother, h⟩ := ih h
            · exact .inl h
            · exact .inr ⟨other, List.mem_cons_of_mem word hother, h⟩

theorem isInner_of_isWordPath (h : IsWordPath cs) : ∀ c ∈ cs, isInner c = true := by
  obtain ⟨words, -, hwords, rfl⟩ := h
  intro c hc
  obtain rfl | ⟨word, hword, hc⟩ := mem_intercalate hc
  · decide
  · simp [isInner, (hwords word hword).2 c hc]

/-- Between braces nothing but points parts words, so a text is a path there if none of its
names is empty. -/
theorem isPath_iff (h : ∀ c ∈ cs, isInner c = true) : isPath cs = true ↔ IsWordPath cs := by
  simp only [isPath, List.all_eq_true, Bool.not_eq_true', List.isEmpty_eq_false_iff]
  constructor
  · intro hnames
    refine ⟨Path.segments cs, Path.segments_ne_nil cs,
      fun name hname => ⟨hnames name hname, fun c hc => ?_⟩, (Path.intercalate_segments cs).symm⟩
    obtain ⟨hmem, hpoint⟩ := Path.mem_of_mem_segments hname hc
    simpa [isInner, hpoint] using h c hmem
  · rintro ⟨words, hne, hwords, rfl⟩ name hname
    rw [Path.segments_intercalate hne fun word hword =>
      point_not_mem_of_isWord (hwords word hword)] at hname
    exact (hwords name hname).1

/-! ### Placeholders -/

/-- The text begins with a placeholder of a path and goes on with the rest. -/
def Opens (cs path rest : List Char) : Prop :=
  IsWordPath path ∧ cs = '\x7b' :: path ++ '\x7d' :: rest

def OpensNone (cs : List Char) : Prop := ∀ path rest, ¬Opens cs path rest

theorem inner_append_inj {path' rest' : List Char} (hpath : ∀ c ∈ path, isInner c = true)
    (hpath' : ∀ c ∈ path', isInner c = true) (hc : isInner c = false) (hd : isInner d = false)
    (h : path ++ c :: rest = path' ++ d :: rest') : path = path' ∧ c = d ∧ rest = rest' := by
  induction path generalizing path' with
  | nil =>
      cases path' with
      | nil => simpa using h
      | cons x path' =>
          obtain ⟨rfl, -⟩ := List.cons.inj h
          simp [hpath' c (List.mem_cons_self ..)] at hc
  | cons x path ih =>
      cases path' with
      | nil =>
          obtain ⟨rfl, -⟩ := List.cons.inj h
          simp [hpath x (List.mem_cons_self ..)] at hd
      | cons y path' =>
          obtain ⟨rfl, htail⟩ := List.cons.inj h
          obtain ⟨rfl, hrest⟩ := ih (fun c hc => hpath c (List.mem_cons_of_mem x hc))
            (fun c hc => hpath' c (List.mem_cons_of_mem x hc)) htail
          exact ⟨rfl, hrest⟩

theorem Opens.unique {path' rest' : List Char} (h : Opens cs path rest)
    (h' : Opens cs path' rest') : path = path' ∧ rest = rest' := by
  obtain ⟨hpath, rfl⟩ := h
  obtain ⟨hpath', heq⟩ := h'
  obtain ⟨rfl, -, rfl⟩ := inner_append_inj (isInner_of_isWordPath hpath)
    (isInner_of_isWordPath hpath') (by decide) (by decide) (List.cons.inj heq).2
  exact ⟨rfl, rfl⟩

theorem opensNone_of_ne (h : c ≠ '\x7b') : OpensNone (c :: cs) :=
  fun _ _ hopens => h (List.cons.inj hopens.2).1

theorem opensNone_of_isInner (h : ∀ c ∈ cs, isInner c = true) : OpensNone ('\x7b' :: cs) := by
  rintro path rest ⟨-, heq⟩
  have hclose : '\x7d' ∈ cs := by simp [(List.cons.inj heq).2]
  exact (ne_of_isInner (h _ hclose)).2 rfl

/-- Behind an open brace the first character that is not inner decides. -/
theorem opensNone_of_end (hpath : ∀ c ∈ path, isInner c = true) (hc : isInner c = false)
    (h : c = '\x7d' → ¬IsWordPath path) : OpensNone ('\x7b' :: path ++ c :: rest) := by
  rintro path' rest' ⟨hpath', heq⟩
  obtain ⟨rfl, rfl, -⟩ := inner_append_inj hpath (isInner_of_isWordPath hpath') hc (by decide)
    (List.cons.inj heq).2
  exact h rfl hpath'

/-! ### Pieces -/

/-- The pieces of a text: from the left, a placeholder where one begins and one character
anywhere else. -/
inductive Reads : List Char → List Piece → Prop where
  | nil : Reads [] []
  | field {text path behind : List Char} {pieces : List Piece} (h : Opens text path behind)
      (hbehind : Reads behind pieces) : Reads text (.field path :: pieces)
  | char {first : Char} {behind : List Char} {pieces : List Piece}
      (h : OpensNone (first :: behind)) (hbehind : Reads behind pieces) :
      Reads (first :: behind) (.char first :: pieces)

theorem Reads.unique (h : Reads cs ps) (h' : Reads cs qs) : ps = qs := by
  induction h generalizing qs with
  | nil =>
      cases h' with
      | nil => rfl
      | field h => simp [Opens] at h
  | field h _ ih =>
      cases h' with
      | nil => simp [Opens] at h
      | field h' hrest' =>
          obtain ⟨rfl, rfl⟩ := h.unique h'
          rw [ih hrest']
      | char hnone => exact absurd h (hnone _ _)
  | char hnone _ ih =>
      cases h' with
      | field h => exact absurd h (hnone _ _)
      | char _ hrest' => rw [ih hrest']

theorem Reads.source (h : Reads cs ps) : ps.flatMap Piece.source = cs := by
  induction h with
  | nil => rfl
  | field h _ ih => simp [h.2, Piece.source, ih]
  | char _ _ ih => simp [Piece.source, ih]

theorem Reads.isWordPath (h : Reads cs ps) (hpath : .field path ∈ ps) : IsWordPath path := by
  induction h with
  | nil => cases hpath
  | field h _ ih =>
      cases hpath with
      | head => exact h.1
      | tail _ hmem => exact ih hmem
  | char _ _ ih =>
      cases hpath with
      | tail _ hmem => exact ih hmem

/-- Text without an open brace is plain. -/
theorem reads_plain (hopen : '\x7b' ∉ first) (h : Reads cs ps) :
    Reads (first ++ cs) (plain first ++ ps) := by
  induction first with
  | nil => exact h
  | cons c first ih =>
      simp only [List.mem_cons, not_or] at hopen
      exact .char (opensNone_of_ne (Ne.symm hopen.1)) (ih hopen.2)

/-- So is an open brace that begins no placeholder, with such text behind it. -/
theorem reads_opened (hopen : '\x7b' ∉ first) (hnone : OpensNone ('\x7b' :: first ++ cs))
    (h : Reads cs ps) : Reads ('\x7b' :: first ++ cs) (plain ('\x7b' :: first) ++ ps) :=
  .char hnone (reads_plain hopen h)

theorem open_not_mem (h : ∀ c ∈ path, isInner c = true) : '\x7b' ∉ path :=
  fun hmem => (ne_of_isInner (h _ hmem)).1 rfl

/-- The text that the scanner keeps until it knows what it is. -/
def kept : Option (List Char) → List Char
  | none => []
  | some path => '\x7b' :: path

@[simp] theorem kept_none : kept none = [] := rfl

@[simp] theorem kept_some (path : List Char) : kept (some path) = '\x7b' :: path := rfl

/-- The scanner finds the pieces of what it has kept and what is still to be read. The
induction is on the scanner's steps; what is kept behind an open brace is inner. -/
theorem reads_scan (pending : Option (List Char)) (cs : List Char)
    (h : ∀ path, pending = some path → ∀ c ∈ path, isInner c = true) :
    Reads (kept pending ++ cs) (scan pending cs) := by
  fun_induction scan pending cs with
  | case1 => exact .nil
  | case2 path =>
      have hinner := h path rfl
      have hnone : OpensNone ('\x7b' :: path ++ []) := by simpa using opensNone_of_isInner hinner
      simpa using reads_opened (open_not_mem hinner) hnone .nil
  | case3 c cs hopen ih =>
      rw [eq_of_beq hopen]
      exact ih (by simp)
  | case4 c cs hplain ih =>
      exact .char (opensNone_of_ne (by simpa using hplain)) (ih (by simp))
  | case5 path c cs hclose hpath ih =>
      rw [eq_of_beq hclose]
      exact .field ⟨(isPath_iff (h path rfl)).mp hpath, rfl⟩ (ih (by simp))
  | case6 path c cs hclose hpath ih =>
      have hinner := h path rfl
      rw [eq_of_beq hclose]
      have hend : OpensNone ('\x7b' :: path ++ '\x7d' :: cs) :=
        opensNone_of_end hinner (by decide) fun _ hwords =>
          hpath ((isPath_iff hinner).mpr hwords)
      have hnone : OpensNone ('\x7b' :: (path ++ ['\x7d']) ++ cs) := by simpa using hend
      have hopen : '\x7b' ∉ path ++ ['\x7d'] := by simpa using open_not_mem hinner
      simpa using reads_opened hopen hnone (ih (by simp))
  | case7 path c cs hclose hopen ih =>
      have hinner := h path rfl
      rw [eq_of_beq hopen]
      have hnone : OpensNone ('\x7b' :: path ++ '\x7b' :: cs) :=
        opensNone_of_end hinner (by decide) nofun
      exact reads_opened (open_not_mem hinner) hnone (ih (by simp))
  | case8 path c cs hclose hopen hword ih =>
      have hinner : ∀ d ∈ path ++ [c], isInner d = true := by
        intro d hd
        rcases List.mem_append.mp hd with hd | hd
        · exact h path rfl d hd
        · rwa [List.mem_singleton.mp hd]
      simpa using ih (by simpa using hinner)
  | case9 path c cs hclose hopen hword ih =>
      have hinner := h path rfl
      have hend : OpensNone ('\x7b' :: path ++ c :: cs) :=
        opensNone_of_end hinner (Bool.eq_false_iff.mpr hword) fun heq =>
          absurd heq (by simpa using hclose)
      have hnone : OpensNone ('\x7b' :: (path ++ [c]) ++ cs) := by simpa using hend
      have hfirst : '\x7b' ∉ path ++ [c] := by
        have hc : c ≠ '\x7b' := by simpa using hopen
        simp [open_not_mem hinner, hc.symm]
      simpa using reads_opened hfirst hnone (ih (by simp))

theorem reads_iff : Reads cs ps ↔ ps = scan none cs := by
  have hscan : Reads cs (scan none cs) := reads_scan none cs (by simp)
  constructor
  · exact fun h => h.unique hscan
  · rintro rfl
    exact hscan

/-! ### Templates side by side -/

/-- No placeholder lies across the border between two texts, as far as the characters on
either side of it tell. -/
def Parted (first second : List Char) : Prop :=
  first = [] ∨ first.getLast? = some '\x7d' ∨ second = [] ∨ second.head? = some '\x7b'

theorem Parted.tail (h : Parted (c :: first) second) : Parted first second := by
  rcases h with h | h | h
  · cases h
  · cases first with
    | nil => exact .inl rfl
    | cons d first => exact .inr (.inl (by simpa using h))
  · exact .inr (.inr h)

theorem Parted.append_left {front : List Char} (h : Parted (front ++ first) second) :
    Parted first second := by
  induction front with
  | nil => exact h
  | cons c front ih => exact ih h.tail

/-- Where no placeholder begins none begins after parted text has been added: it would be
closed in the second text and so go on, behind the border, with a character of its path or with
the closing brace. -/
theorem OpensNone.append (h : OpensNone (c :: first)) (hparted : Parted (c :: first) second) :
    OpensNone (c :: first ++ second) := by
  rintro path rest ⟨hpath, heq⟩
  have hinner := isInner_of_isWordPath hpath
  rw [List.append_cons] at heq
  rcases List.append_eq_append_iff.mp heq with ⟨beyond, hwhole, hsecond⟩ | ⟨closed, hfirst, -⟩
  · rcases List.eq_nil_or_concat beyond with rfl | ⟨front, x, rfl⟩
    · exact h path [] ⟨hpath, by simpa using hwhole.symm⟩
    · rw [List.concat_eq_append, ← List.append_assoc] at hwhole
      obtain ⟨hopened, hx⟩ := List.append_inj' hwhole rfl
      obtain ⟨rfl, htail⟩ := List.cons.inj hopened
      cases List.cons.inj hx |>.1
      rcases hparted with hnil | hlast | hnil | hhead
      · cases hnil
      · have hclose : '\x7d' ∈ '\x7b' :: path := by
          rw [hopened]
          exact List.mem_append_left _ (List.mem_of_getLast? hlast)
        rcases List.mem_cons.mp hclose with hbrace | hmem
        · exact absurd hbrace (by decide)
        · exact (ne_of_isInner (hinner _ hmem)).2 rfl
      · simp [hnil] at hsecond
      · cases front with
        | nil => simp [hsecond] at hhead
        | cons d front =>
            have hd : d = '\x7b' := by simpa [hsecond] using hhead
            exact (ne_of_isInner (hinner d (by simp [htail]))).1 hd
  · exact h path closed ⟨hpath, by simpa using hfirst⟩

/-- Parted texts have the pieces of one and then those of the other. -/
theorem Reads.append (h : Reads first ps) (h' : Reads second qs) (hparted : Parted first second) :
    Reads (first ++ second) (ps ++ qs) := by
  induction h with
  | nil => exact h'
  | @field text path behind pieces h _ ih =>
      obtain ⟨hpath, rfl⟩ := h
      have hbehind : Parted (('\x7b' :: path ++ ['\x7d']) ++ behind) second := by
        simpa using hparted
      exact .field ⟨hpath, by simp⟩ (ih hbehind.append_left)
  | char hnone _ ih => exact .char (hnone.append hparted) (ih hparted.tail)

/-! ### Filling a template -/

/-- What stands in a message for a piece: a character for itself, and for a placeholder the
text of the value that its path leads to, in some form, or the placeholder itself if the path
leads to none. -/
inductive Stands (form : List Char → List Char) (data : Value) : Piece → List Char → Prop where
  | char (c : Char) : Stands form data (.char c) [c]
  | gap {path : List Char} (h : (Path.extract data (String.ofList path)).isAbsent = true) :
      Stands form data (.field path) ('\x7b' :: path ++ ['\x7d'])
  | value {path : List Char} {text : String}
      (hpresent : (Path.extract data (String.ofList path)).isAbsent = false)
      (h : (Path.extract data (String.ofList path)).stringify = .ok text) :
      Stands form data (.field path) (form text.toList)

/-- Whether the values of the placeholders can be put into text. -/
def Fills (data : Value) (ps : List Piece) : Prop :=
  ∀ path, .field path ∈ ps → (Path.extract data (String.ofList path)).hasText = true

variable {form : List Char → List Char} {data : Value} {piece : Piece} {parts : List (List Char)}

theorem Stands.unique (h : Stands form data piece first) (h' : Stands form data piece second) :
    first = second := by
  cases h with
  | char => cases h'; rfl
  | gap habsent =>
      cases h' with
      | gap => rfl
      | value hpresent => cases habsent.symm.trans hpresent
  | value hpresent htext =>
      cases h' with
      | gap habsent => cases habsent.symm.trans hpresent
      | value _ htext' => cases htext.symm.trans htext'; rfl

theorem render_eq_ok_iff :
    piece.render data = .ok cs ↔ Stands Markup.escapeChars data piece cs := by
  cases piece with
  | char c =>
      constructor
      · intro h
        cases h
        exact .char c
      · rintro ⟨⟩
        rfl
  | field path =>
      simp only [Piece.render]
      split
      next habsent =>
          constructor
          · intro h
            cases h
            exact .gap habsent
          · intro h
            rw [h.unique (.gap habsent)]
            rfl
      next hpresent =>
          rw [Bool.not_eq_true] at hpresent
          constructor
          · intro h
            obtain ⟨text, htext, h⟩ := exists_of_bind_eq_ok h
            cases h
            exact .value hpresent htext
          · intro h
            cases h with
            | gap habsent => cases habsent.symm.trans hpresent
            | value _ htext => rw [htext]; rfl

/-- A message is what stands for its pieces, one after the other. -/
theorem renderAll_eq_ok_iff :
    renderAll data ps = .ok cs ↔
      ∃ parts, List.Forall₂ (Stands Markup.escapeChars data) ps parts ∧ parts.flatten = cs := by
  induction ps generalizing cs with
  | nil => simp [renderAll]
  | cons piece ps ih =>
      constructor
      · intro h
        obtain ⟨first, hfirst, h⟩ := exists_of_bind_eq_ok h
        obtain ⟨others, hothers, h⟩ := exists_of_bind_eq_ok h
        cases h
        obtain ⟨parts, hparts, rfl⟩ := ih.mp hothers
        exact ⟨first :: parts, .cons (render_eq_ok_iff.mp hfirst) hparts, rfl⟩
      · rintro ⟨parts, hparts, rfl⟩
        cases hparts with
        | cons hfirst hrest =>
            rw [renderAll, render_eq_ok_iff.mpr hfirst, ih.mpr ⟨_, hrest, rfl⟩]
            rfl

theorem render_of_hasText (h : Fills data [piece]) : ∃ cs, piece.render data = .ok cs := by
  cases piece with
  | char c => exact ⟨_, rfl⟩
  | field path =>
      simp only [Piece.render, Value.stringify]
      rw [Value.written_of_hasText (h path List.mem_cons_self)]
      split
      · exact ⟨_, rfl⟩
      · exact ⟨_, rfl⟩

theorem fills_cons : Fills data (piece :: ps) ↔ Fills data [piece] ∧ Fills data ps := by
  simp [Fills, List.mem_cons, or_imp, forall_and]

theorem hasText_of_isAbsent {v : Value} (h : v.isAbsent = true) : v.hasText = true := by
  cases v <;> first | rfl | cases h

theorem fills_of_render (h : piece.render data = .ok cs) : Fills data [piece] := by
  intro path hpath
  cases List.mem_singleton.mp hpath
  cases render_eq_ok_iff.mp h with
  | gap habsent => exact hasText_of_isAbsent habsent
  | value _ htext => exact (Value.written_eq_ok_iff.mp htext).1

theorem exists_renderAll_iff : (∃ cs, renderAll data ps = .ok cs) ↔ Fills data ps := by
  induction ps with
  | nil => exact iff_of_true ⟨[], rfl⟩ nofun
  | cons piece ps ih =>
      rw [fills_cons, ← ih]
      constructor
      · rintro ⟨cs, h⟩
        obtain ⟨first, hfirst, h⟩ := exists_of_bind_eq_ok h
        obtain ⟨others, hothers, -⟩ := exists_of_bind_eq_ok h
        exact ⟨fills_of_render hfirst, others, hothers⟩
      · rintro ⟨hfirst, others, hothers⟩
        obtain ⟨first, hfirst⟩ := render_of_hasText hfirst
        rw [renderAll, hfirst, hothers]
        exact ⟨_, rfl⟩

theorem renderAll_append :
    renderAll data (ps ++ qs) = (· ++ ·) <$> renderAll data ps <*> renderAll data qs := by
  induction ps with
  | nil =>
      simp only [renderAll, List.nil_append]
      cases renderAll data qs <;> rfl
  | cons piece ps ih =>
      rw [List.cons_append, renderAll, renderAll, ih]
      cases piece.render data with
      | error fault => rfl
      | ok first =>
          cases renderAll data ps with
          | error fault => rfl
          | ok others =>
              cases renderAll data qs with
              | error fault => rfl
              | ok second => exact congrArg Except.ok (List.append_assoc first others second).symm

/-- A template whose values are all missing is filled with its own placeholders. -/
theorem stands_absent
    (h : ∀ path, .field path ∈ ps → (Path.extract data (String.ofList path)).isAbsent = true) :
    List.Forall₂ (Stands form data) ps (ps.map Piece.source) := by
  rw [List.forall₂_map_right_iff, List.forall₂_same]
  intro piece hpiece
  cases piece with
  | char c => exact .char c
  | field path => exact .gap (h path hpiece)

theorem interpolate_eq {template : String} (h : Reads template.toList ps) (data : Value) :
    interpolate template data = String.ofList <$> renderAll data ps := by
  rw [interpolate, pieces, ← reads_iff.mp h]

/-- A message is what stands for the pieces of its template, with escaped values. -/
theorem interpolate_eq_ok_iff {template message : String} (h : Reads template.toList ps) :
    interpolate template data = .ok message ↔
      ∃ parts, List.Forall₂ (Stands Markup.escapeChars data) ps parts ∧
        message = String.ofList parts.flatten := by
  rw [interpolate_eq h, map_eq_ok]
  constructor
  · rintro ⟨cs, hcs, rfl⟩
    obtain ⟨parts, hparts, rfl⟩ := renderAll_eq_ok_iff.mp hcs
    exact ⟨parts, hparts, rfl⟩
  · rintro ⟨parts, hparts, rfl⟩
    exact ⟨_, renderAll_eq_ok_iff.mpr ⟨parts, hparts, rfl⟩, rfl⟩

theorem exists_interpolate_iff {template : String} (h : Reads template.toList ps) :
    (∃ message, interpolate template data = .ok message) ↔ Fills data ps := by
  rw [← exists_renderAll_iff, interpolate_eq h]
  cases renderAll data ps with
  | ok cs => exact iff_of_true ⟨_, rfl⟩ ⟨cs, rfl⟩
  | error fault => exact iff_of_false nofun nofun

/-- A template has one list of pieces, whatever the payload. A message is made of what stands
for each of them on its own, a placeholder being replaced by the escaped text of its value if
there is a value, and it can be made if these values have texts. So it is the template itself
if all values are missing, and the message of two parted templates is that of the first and
then that of the second. -/
theorem interpolate_single_pass :
    (∀ template : String, ∃ ps, (∀ qs, Reads template.toList qs ↔ qs = ps) ∧
        ∀ data,
          (∀ message, interpolate template data = .ok message ↔
            ∃ parts, List.Forall₂ (Stands Markup.escapeChars data) ps parts ∧
              message = String.ofList parts.flatten) ∧
          ((∃ message, interpolate template data = .ok message) ↔ Fills data ps) ∧
          ((∀ path, .field path ∈ ps →
              (Path.extract data (String.ofList path)).isAbsent = true) →
            interpolate template data = .ok template)) ∧
      ∀ (first second : String) (data : Value), Parted first.toList second.toList →
        interpolate (first ++ second) data =
          (· ++ ·) <$> interpolate first data <*> interpolate second data := by
  constructor
  · intro template
    have hreads : Reads template.toList (pieces template) := reads_iff.mpr rfl
    refine ⟨pieces template, fun qs => reads_iff, fun data => ⟨fun message =>
      interpolate_eq_ok_iff hreads, exists_interpolate_iff hreads, fun habsent => ?_⟩⟩
    refine (interpolate_eq_ok_iff hreads).mpr ⟨_, stands_absent habsent, ?_⟩
    rw [← List.flatMap_def, hreads.source, String.ofList_toList]
  · intro first second data hparted
    have hfirst : Reads first.toList (pieces first) := reads_iff.mpr rfl
    have hsecond : Reads second.toList (pieces second) := reads_iff.mpr rfl
    have hboth : Reads (first ++ second).toList (pieces first ++ pieces second) := by
      rw [String.toList_append]
      exact hfirst.append hsecond hparted
    rw [interpolate_eq hfirst, interpolate_eq hsecond, interpolate_eq hboth, renderAll_append]
    cases renderAll data (pieces first) with
    | error fault => rfl
    | ok before =>
        cases renderAll data (pieces second) with
        | error fault => rfl
        | ok behind => exact congrArg Except.ok String.ofList_append

/-- A value that looks like a placeholder is escaped and no placeholder, and a number and a gap
stand beside it. -/
theorem interpolate_single_pass_looks :
    let data : Value := .object [("a", .text "\x7bb\x7d<"), ("b", .int 1)]
    interpolate "\x7ba\x7d\x7bb\x7d\x7bc.d\x7d" data = .ok "\x7bb\x7d&lt;1\x7bc.d\x7d" := by
  intro data
  obtain ⟨ps, hps, hmessage⟩ := interpolate_single_pass.1 "\x7ba\x7d\x7bb\x7d\x7bc.d\x7d"
  have hpieces : ps = [.field ['a'], .field ['b'], .field ['c', '.', 'd']] := by
    rw [← (hps _).mp (reads_iff.mpr rfl)]
    decide
  subst hpieces
  refine ((hmessage data).1 _).mpr ⟨[_, _, _], .cons (.value rfl rfl) (.cons (.value rfl rfl)
    (.cons (.gap rfl) .nil)), ?_⟩
  decide

end Template

end AlertRules
