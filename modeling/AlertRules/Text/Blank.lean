/-!
Blank characters.

Two sets are in use and differ in four characters. `isWhiteSpace` is the
Unicode property `White_Space`; numbers inside documents may be padded
with it. `isBlank` adds the information separators U+001C to U+001F,
which separate fields on some devices; text fields are trimmed of it.
-/

namespace AlertRules.Text

/-- The Unicode property `White_Space`. -/
def isWhiteSpace (c : Char) : Bool :=
  let n := c.toNat
  (9 ≤ n && n ≤ 13) || n == 0x20 || n == 0x85 || n == 0xa0 || n == 0x1680 ||
  (0x2000 ≤ n && n ≤ 0x200a) || n == 0x2028 || n == 0x2029 || n == 0x202f ||
  n == 0x205f || n == 0x3000

def isSeparator (c : Char) : Bool :=
  0x1c ≤ c.toNat && c.toNat ≤ 0x1f

def isBlank (c : Char) : Bool := isWhiteSpace c || isSeparator c

def strip (p : Char → Bool) (cs : List Char) : List Char :=
  ((cs.dropWhile p).reverse.dropWhile p).reverse

end AlertRules.Text
