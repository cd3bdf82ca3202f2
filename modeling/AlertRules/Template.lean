import AlertRules.Markup.Escape
import AlertRules.Path
import AlertRules.Value.Shown

/-!
Message templates.

A template is text with placeholders: a path between braces, its names
made of ASCII letters, digits and underscores. `pieces` reads a template
in one pass from the left. It keeps the text since an open brace until a
closing brace makes it a placeholder or another character makes it plain
text, so that the pieces always spell the template.

`render` then replaces each placeholder on its own. What a value
contributes is escaped and never read as template text; a placeholder
without a value stays as it is, so that the gap can be seen. A value that
has no text makes the whole message fail.
-/

namespace AlertRules

namespace Template

inductive Piece where
  | char (c : Char)
  | field (path : List Char)
  deriving DecidableEq, Repr

def isWordChar (c : Char) : Bool :=
  ('a' ≤ c && c ≤ 'z') || ('A' ≤ c && c ≤ 'Z') || ('0' ≤ c && c ≤ '9') || c == '_'

/-- Whether a text of word characters and points is a path: no name in it
is empty. -/
def isPath (cs : List Char) : Bool := (Path.segments cs).all fun s => !s.isEmpty

/-- Plain text as pieces. -/
def plain (cs : List Char) : List Piece := cs.map .char

/-- The pieces of a template. `pending` is the text since an open brace
that may still become a placeholder. -/
def scan : Option (List Char) → List Char → List Piece
  | none, [] => []
  | some path, [] => plain ('\x7b' :: path)
  | none, c :: cs => if c == '\x7b' then scan (some []) cs else .char c :: scan none cs
  | some path, c :: cs =>
    if c == '\x7d' then
      if isPath path then .field path :: scan none cs
      else plain ('\x7b' :: path ++ ['\x7d']) ++ scan none cs
    else if c == '\x7b' then plain ('\x7b' :: path) ++ scan (some []) cs
    else if isWordChar c || c == '.' then scan (some (path ++ [c])) cs
    else plain ('\x7b' :: path ++ [c]) ++ scan none cs

def pieces (template : String) : List Piece := scan none template.toList

def Piece.source : Piece → List Char
  | .char c => [c]
  | .field path => '\x7b' :: path ++ ['\x7d']

end Template

/-- A payload value as it reads in a document. -/
def Value.documentText : Value → String
  | .bool b => if b then "true" else "false"
  | .float x =>
    match x.toInt? with
    | some i => Value.intText i
    | none => x.text
  | .list items => Json.spacedText (.list items)
  | .tuple items => Json.spacedText (.tuple items)
  | .object fields => Json.spacedText (.object fields)
  | v => v.displayText

def Value.stringify (v : Value) : Except Fault String := v.written Value.documentText

namespace Template

def Piece.render (data : Value) : Piece → Except Fault (List Char)
  | .char c => .ok [c]
  | .field path => do
    let v := Path.extract data (String.ofList path)
    if v.isAbsent then pure (Piece.source (.field path))
    else pure (Markup.escapeChars (← v.stringify).toList)

def renderAll (data : Value) : List Piece → Except Fault (List Char)
  | [] => .ok []
  | p :: rest => do
    let first ← p.render data
    let others ← renderAll data rest
    pure (first ++ others)

def interpolate (template : String) (data : Value) : Except Fault String :=
  String.ofList <$> renderAll data (pieces template)

end Template

end AlertRules
