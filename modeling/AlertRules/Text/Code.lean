/-!
The codes of a text.

Texts come from documents in UTF-16 units, and such a document may name
one half of a pair of units and leave the other out. A half is no
character, but it is kept, and it differs from every other half and from
every character. A text writes it as two characters: a mark, and the
character of the last private plane that lies `standInOffset` above the
half. The mark itself is written twice, so that every other character is
written as itself and means itself.

`charsOf` writes one code and `codes` reads all of a text. Whatever counts
or orders a text, cuts it or writes it out goes by its codes; what looks for
a character with a meaning of its own, a bracket or a digit, may go by the
characters, since neither the mark nor what follows it is one of those.
-/

namespace AlertRules.Text

/-- How far above a half its stand-in lies. -/
def standInOffset : Nat := 0x100000

/-- The character before a code that is not written as itself. It is one of
those that Unicode sets aside for use inside a program. -/
def mark : Char := '\ufdd0'

/-- Whether a code is one half of a pair of units. -/
def isHalf (code : Nat) : Bool := 0xd800 ≤ code && code < 0xe000

/-- The characters that write a code. -/
def charsOf (code : Nat) : List Char :=
  if isHalf code then [mark, Char.ofNat (code + standInOffset)]
  else if code = mark.toNat then [mark, mark]
  else [Char.ofNat code]

/-- The text of characters that all mean themselves. -/
def marked (cs : List Char) : List Char := cs.flatMap fun c => charsOf c.toNat

/-- The code that a mark and the given character write. -/
def codeAfterMark (c : Char) : Nat :=
  if c = mark then mark.toNat else c.toNat - standInOffset

/-- The codes that a text writes. -/
def codes : List Char → List Nat
  | [] => []
  | [c] => [c.toNat]
  | c :: d :: rest =>
    if c = mark then codeAfterMark d :: codes rest else c.toNat :: codes (d :: rest)

def takeCodes : Nat → List Char → List Char
  | 0, _ => []
  | _, [] => []
  | _ + 1, [c] => [c]
  | n + 1, c :: d :: rest =>
    if c = mark then c :: d :: takeCodes n rest else c :: takeCodes n (d :: rest)

def size (s : String) : Nat := (codes s.toList).length

def hasHalf (s : String) : Bool := (codes s.toList).any isHalf

/-- Whether a code is a half by which texts name a byte that is no part of a
character. -/
def isStrayByte (code : Nat) : Bool := 0xdc80 ≤ code && code < 0xdd00

/-- Whether a text can be written in bytes: the only halves it holds are
stray bytes. -/
def isWritable (s : String) : Bool :=
  (codes s.toList).all fun code => !isHalf code || isStrayByte code

def before (s t : String) : Bool := decide (codes s.toList < codes t.toList)

theorem codes_cons {c : Char} (h : c ≠ mark) (cs : List Char) :
    codes (c :: cs) = c.toNat :: codes cs := by
  cases cs with
  | nil => rfl
  | cons d rest => simp [codes, h]

theorem codes_mark_cons (c : Char) (cs : List Char) :
    codes (mark :: c :: cs) = codeAfterMark c :: codes cs := by
  simp [codes]

theorem toNat_ofNat {n : Nat} (h : n.isValidChar) : (Char.ofNat n).toNat = n := by
  have made : Char.ofNat n = Char.ofNatAux n h := dif_pos h
  rw [made]
  rfl

/-- A code is read back as it was written, whatever follows. -/
theorem codes_charsOf_append {code : Nat} (h : code < 0x110000) (cs : List Char) :
    codes (charsOf code ++ cs) = code :: codes cs := by
  unfold charsOf
  split
  next half =>
    simp only [isHalf, Bool.and_eq_true, decide_eq_true_eq] at half
    have valid : (code + standInOffset).isValidChar := by
      unfold Nat.isValidChar standInOffset
      omega
    have notMark : Char.ofNat (code + standInOffset) ≠ mark := fun same => by
      have := congrArg Char.toNat same
      rw [toNat_ofNat valid, show mark.toNat = 0xfdd0 from rfl, standInOffset] at this
      omega
    simp [codes_mark_cons, codeAfterMark, notMark, toNat_ofNat valid]
  next whole =>
    split
    next isMark => simp [codes_mark_cons, codeAfterMark, isMark]
    next notMark =>
      have valid : code.isValidChar := by
        simp only [isHalf, Bool.and_eq_true, decide_eq_true_eq] at whole
        unfold Nat.isValidChar
        omega
      have : Char.ofNat code ≠ mark := fun same => notMark (same ▸ toNat_ofNat valid).symm
      simp [codes_cons this, toNat_ofNat valid]

/-- Taking codes from the characters takes them from the codes. -/
theorem codes_takeCodes (n : Nat) (cs : List Char) :
    codes (takeCodes n cs) = (codes cs).take n := by
  fun_induction takeCodes n cs with
  | case1 => rfl
  | case2 => simp [codes]
  | case3 => simp [codes]
  | case4 n d rest ih => simp [codes_mark_cons, ih]
  | case5 n c d rest h ih => simp [codes_cons h, ih]

end AlertRules.Text
