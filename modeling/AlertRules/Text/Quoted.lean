import AlertRules.Text.Code
import AlertRules.Text.Printable

/-!
Quoted text, as messages show a value that is text.

The quotes are single unless the text holds a single quote and no double
one, so that most texts need no escape inside. The backslash and the
quote in use are escaped, the three common line controls by a letter,
and every other unprintable character by its code in two, four or
eight hexadecimal digits.
-/

namespace AlertRules.Text

/-- The last `width` hexadecimal digits of a number, in lower case. -/
def hex (width n : Nat) : List Char :=
  let digits := Nat.toDigits 16 n
  List.replicate (width - digits.length) '0' ++ digits

def codeEscape (n : Nat) : List Char :=
  if n < 0x100 then '\\' :: 'x' :: hex 2 n
  else if n < 0x10000 then '\\' :: 'u' :: hex 4 n
  else '\\' :: 'U' :: hex 8 n

/-- The character of a code between quotes of the given kind. A half of a
pair of units is no character and so not printable. -/
def quoteCode (quote : Char) (n : Nat) : List Char :=
  let c := Char.ofNat n
  if c == quote || c == '\\' then ['\\', c]
  else if c == '\n' then ['\\', 'n']
  else if c == '\r' then ['\\', 'r']
  else if c == '\t' then ['\\', 't']
  else if !isHalf n && isPrintable c then [c]
  else codeEscape n

/-- The quote a text is put in. -/
def quoteFor (cs : List Char) : Char :=
  if cs.contains '\'' && !cs.contains '"' then '"' else '\''

def quoted (s : String) : String :=
  let cs := s.toList
  let quote := quoteFor cs
  String.ofList (quote :: ((codes cs).flatMap (quoteCode quote) ++ [quote]))

end AlertRules.Text
