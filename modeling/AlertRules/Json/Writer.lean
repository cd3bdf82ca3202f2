import AlertRules.Text.Sorted
import AlertRules.Value.Display

/-!
Values as JSON text, in ASCII only. Integers are spelled whatever their
length; which values are put into text at all is another matter.

Two layouts are in use. `Layout.spaced` has a blank after each separator
and keeps the order of fields; messages and stored documents use it.
`Layout.canonical` has no blanks and sorts fields by name, so that one
set of fields has one text. Values that JSON does not know are written
as their plain text in quotes, and the numbers that JSON does not know
by their usual names.
-/

namespace AlertRules.Json

structure Layout where
  itemSeparator : String
  keySeparator : String
  sorted : Bool

/-- Blanks after the separators, fields in their own order. -/
def Layout.spaced : Layout := ⟨", ", ": ", false⟩

/-- No blanks, fields by name. -/
def Layout.canonical : Layout := ⟨",", ":", true⟩

def unitEscape (n : Nat) : List Char := '\\' :: 'u' :: Text.hex 4 n

/-- One code of a JSON string. Characters beyond the basic plane are
written as their two UTF-16 units, and a half of a pair as itself. -/
def escapeCode (n : Nat) : List Char :=
  let c := Char.ofNat n
  if c == '"' then ['\\', '"']
  else if c == '\\' then ['\\', '\\']
  else if c == '\n' then ['\\', 'n']
  else if c == '\r' then ['\\', 'r']
  else if c == '\t' then ['\\', 't']
  else if n == 0x08 then ['\\', 'b']
  else if n == 0x0c then ['\\', 'f']
  else if 0x20 ≤ n ∧ n < 0x7f then [c]
  else if n < 0x10000 then unitEscape n
  else unitEscape (0xd800 + (n - 0x10000) / 0x400) ++ unitEscape (0xdc00 + (n - 0x10000) % 0x400)

def quote (s : String) : String :=
  String.ofList ('"' :: ((Text.codes s.toList).flatMap escapeCode ++ ['"']))

def numberText : Double → String
  | .nan _ => "NaN"
  | .inf negative => if negative then "-Infinity" else "Infinity"
  | x => x.text

mutual

def write (layout : Layout) : Value → String
  | .null => "null"
  | .bool b => if b then "true" else "false"
  | .int i => Value.intText i
  | .float x => numberText x
  | .decimal d => quote d.text
  | .text s => quote s
  | .list items => "[" ++ Value.joined layout.itemSeparator (writeList layout items) ++ "]"
  | .tuple items => "[" ++ Value.joined layout.itemSeparator (writeList layout items) ++ "]"
  | .object fields =>
    let written := writeFields layout fields
    let ordered := if layout.sorted then Text.sortOn Prod.fst written else written
    "\x7b" ++ Value.joined layout.itemSeparator
      (ordered.map fun (k, text) => quote k ++ layout.keySeparator ++ text) ++ "\x7d"
  | .missing => quote "MISSING"

def writeList (layout : Layout) : List Value → List String
  | [] => []
  | v :: rest => write layout v :: writeList layout rest

def writeFields (layout : Layout) : List (String × Value) → List (String × String)
  | [] => []
  | (k, v) :: rest => (k, write layout v) :: writeFields layout rest

end

mutual

def nesting : Value → Nat
  | .list items | .tuple items => nestingOfItems items + 1
  | .object fields => nestingOfFields fields + 1
  | _ => 0

def nestingOfItems : List Value → Nat
  | [] => 0
  | v :: rest => max (nesting v) (nestingOfItems rest)

def nestingOfFields : List (String × Value) → Nat
  | [] => 0
  | (_, v) :: rest => max (nesting v) (nestingOfFields rest)

end

def spacedText (v : Value) : String := write .spaced v

/-- The one text of a value that does not depend on the order of fields. -/
def canonicalText (v : Value) : String := write .canonical v

end AlertRules.Json
