import AlertRules.Fault
import AlertRules.Markup.Entity
import AlertRules.Text.Digit

/-!
Reading references back into characters, as HTML does.

A reference is an ampersand followed by a number sign and a number, or
by a name. Both may end with a semicolon and need not. A number that is
no character stands for the replacement character or for nothing, and
the numbers of the C1 controls stand for what an old code page put
there. A name that is unknown is tried by its beginnings, longest first.

The text is read in one pass: `unescapeChars` counts down the characters
that a reference has used up, so that what a reference stands for is
never read again.
-/

namespace AlertRules.Markup

/-- What the numbers of the C1 controls, zero and the carriage return
stand for. -/
def codePage : List (Nat × Nat) :=
  [(0x00, 0xfffd), (0x0d, 0x0d), (0x80, 0x20ac), (0x81, 0x81), (0x82, 0x201a), (0x83, 0x192),
   (0x84, 0x201e), (0x85, 0x2026), (0x86, 0x2020), (0x87, 0x2021), (0x88, 0x2c6),
   (0x89, 0x2030), (0x8a, 0x160), (0x8b, 0x2039), (0x8c, 0x152), (0x8d, 0x8d), (0x8e, 0x17d),
   (0x8f, 0x8f), (0x90, 0x90), (0x91, 0x2018), (0x92, 0x2019), (0x93, 0x201c), (0x94, 0x201d),
   (0x95, 0x2022), (0x96, 0x2013), (0x97, 0x2014), (0x98, 0x2dc), (0x99, 0x2122),
   (0x9a, 0x161), (0x9b, 0x203a), (0x9c, 0x153), (0x9d, 0x9d), (0x9e, 0x17e), (0x9f, 0x178)]

/-- Whether a number is of a control or of no character at all. -/
def isNoCharacter (n : Nat) : Bool :=
  (0x1 ≤ n && n ≤ 0x8) || n == 0xb || (0xe ≤ n && n ≤ 0x1f) || (0x7f ≤ n && n ≤ 0x9f) ||
  (0xfdd0 ≤ n && n ≤ 0xfdef) || 0xfffe ≤ n % 0x10000

def numbered (n : Nat) : List Char :=
  match codePage.lookup n with
  | some code => [Char.ofNat code]
  | none =>
    if 0x10ffff < n || Text.isHalf n then ['\ufffd']
    else if isNoCharacter n then []
    else Text.charsOf n

/-- Counts a semicolon that follows a reference. -/
def withSemicolon (used : Nat) : List Char → Nat
  | ';' :: _ => used + 1
  | _ => used

/-- A reference read from the text after its ampersand: what it stands for
and how many characters of the text it uses. -/
abbrev Reference := List Char × Nat

def readDecimal? (cs : List Char) : Option (Except Fault Reference) :=
  match Numeral.spanDigits Text.asciiDigit? cs with
  | ([], _) => none
  | (ds, rest) =>
    if Numeral.digitLimit < ds.length then some (.error (.tooManyDigits ds.length))
    else some (.ok (numbered (Numeral.ofDigits ds), withSemicolon (1 + ds.length) rest))

def readHexadecimal? (cs : List Char) : Option Reference :=
  match cs with
  | x :: rest =>
    if x == 'x' || x == 'X' then
      match Numeral.spanDigits Json.hexDigit? rest with
      | ([], _) => none
      | (ds, tail) =>
        some (numbered (ds.foldl (fun n d => 16 * n + d) 0), withSemicolon (2 + ds.length) tail)
    else none
  | [] => none

def isNameChar (c : Char) : Bool :=
  !(c == '\t' || c == '\n' || c == '\x0c' || c == ' ' || c == '<' || c == '&' || c == '#' ||
    c == ';')

/-- The longest beginning, of at most the given length and at least two
characters, that is a name without a semicolon. -/
def longestName? (name : List Char) : Nat → Option Reference
  | 0 => none
  | 1 => none
  | n + 2 =>
    match bareCodePoints? (String.ofList (name.take (n + 2))) with
    | some codes => some (codes.map Char.ofNat, n + 2)
    | none => longestName? name (n + 1)

def readName? (cs : List Char) : Option Reference :=
  let name := (cs.take 32).takeWhile isNameChar
  let closed := (cs.drop name.length).head? == some ';'
  let known :=
    if closed then codePoints? (String.ofList name) else bareCodePoints? (String.ofList name)
  match known with
  | some codes => some (codes.map Char.ofNat, if closed then name.length + 1 else name.length)
  | none => longestName? name (if closed then name.length else name.length - 1)

/-- The reference that follows an ampersand, if one does. -/
def readReference? (cs : List Char) : Option (Except Fault Reference) :=
  match cs with
  | '#' :: rest =>
    match readDecimal? rest with
    | some (.ok (text, used)) => some (.ok (text, used))
    | some (.error fault) => some (.error fault)
    | none => (readHexadecimal? rest).map .ok
  | _ => (readName? cs).map .ok

/-- A text with its references read, after some characters that have been
used up. -/
def unescapeChars : Nat → List Char → Except Fault (List Char)
  | _, [] => .ok []
  | n + 1, _ :: cs => unescapeChars n cs
  | 0, c :: cs =>
    if c == '&' then
      match readReference? cs with
      | some (.ok (text, used)) => (text ++ ·) <$> unescapeChars used cs
      | some (.error fault) => .error fault
      | none => (c :: ·) <$> unescapeChars 0 cs
    else (c :: ·) <$> unescapeChars 0 cs

def unescape (s : String) : Except Fault String :=
  String.ofList <$> unescapeChars 0 s.toList

end AlertRules.Markup
