import AlertRules.Text.Code

/-!
Escaping text for HTML, and cutting escaped text.

Payload values end up in pages and mails, so the six characters that can
open or close something there are written as references. `escapeChar` is
the whole rule; everything else is `flatMap`.

A cut must not leave half a reference behind. `truncate` looks at the
last ampersand it kept: if what follows it is the beginning of one of
the six references and not all of it, the cut moves back to it.
-/

namespace AlertRules.Markup

def escapeChar (c : Char) : List Char :=
  if c == '&' then "&amp;".toList
  else if c == '<' then "&lt;".toList
  else if c == '>' then "&gt;".toList
  else if c == '"' then "&quot;".toList
  else if c == '\'' then "&#x27;".toList
  else if c == '/' then "&#x2F;".toList
  else [c]

def escapeChars (cs : List Char) : List Char := cs.flatMap escapeChar

def escape (s : String) : String := String.ofList (escapeChars s.toList)

def references : List (List Char) :=
  ["&amp;".toList, "&lt;".toList, "&gt;".toList, "&quot;".toList, "&#x27;".toList,
    "&#x2F;".toList]

def splitLastAmpersand? (cs : List Char) : Option (List Char × List Char) :=
  match cs with
  | [] => none
  | c :: rest =>
    match splitLastAmpersand? rest with
    | some (before, tail) => some (c :: before, tail)
    | none => if c == '&' then some ([], c :: rest) else none

/-- Whether a text is a reference cut short. -/
def isCutReference (tail : List Char) : Bool :=
  !tail.contains ';' && references.any fun r => tail.isPrefixOf r

/-- A text without the reference cut short at its end. -/
def dropCutReference (cs : List Char) : List Char :=
  match splitLastAmpersand? cs with
  | some (before, tail) => if isCutReference tail then before else cs
  | none => cs

/-- The first codes of a text: that many, or all but that many from the end
if the number is negative. -/
def takeSigned (limit : Int) (cs : List Char) : List Char :=
  match limit with
  | .ofNat n => Text.takeCodes n cs
  | .negSucc n => Text.takeCodes ((Text.codes cs).length - (n + 1)) cs

/-- Escaped text cut to a length, which counts codes. -/
def truncateChars (limit : Int) (cs : List Char) : List Char :=
  if ((Text.codes cs).length : Int) ≤ limit then cs else dropCutReference (takeSigned limit cs)

def truncate (limit : Int) (s : String) : String :=
  String.ofList (truncateChars limit s.toList)

/-- Text escaped for the inside of a quoted attribute or of an element;
the slash needs no escape there. -/
def escapeAttribute (s : String) : String :=
  String.ofList (s.toList.flatMap fun c => if c == '/' then [c] else escapeChar c)

end AlertRules.Markup
