import AlertRules.Value.Basic

/-!
Values as messages show them.

`displayText` is the text of a value on its own and `inspectText` its
text inside another or where its kind matters: texts in quotes, decimal
numbers by name. The two differ only at the top, in those two kinds.

Both spell integers of any length. Not every value is put into text,
however: `hasText` says which are.
-/

namespace AlertRules.Value

def boolName (b : Bool) : String := if b then "True" else "False"

/-- An integer in decimal digits, as many as it has. -/
def intText (i : Int) : String :=
  let digits := Double.digitsOf i.natAbs
  String.ofList (if i < 0 then '-' :: digits else digits)

def joined (separator : String) : List String → String
  | [] => ""
  | [s] => s
  | s :: rest => s ++ separator ++ joined separator rest

mutual

def inspectText : Value → String
  | .null => "None"
  | .bool b => boolName b
  | .int i => intText i
  | .float x => x.text
  | .decimal d => "Decimal('" ++ d.text ++ "')"
  | .text s => Text.quoted s
  | .list items => "[" ++ joined ", " (inspectTexts items) ++ "]"
  | .tuple [item] => "(" ++ inspectText item ++ ",)"
  | .tuple items => "(" ++ joined ", " (inspectTexts items) ++ ")"
  | .object fields => "\x7b" ++ joined ", " (inspectFieldTexts fields) ++ "\x7d"
  | .missing => "MISSING"

def inspectTexts : List Value → List String
  | [] => []
  | v :: rest => inspectText v :: inspectTexts rest

def inspectFieldTexts : List (String × Value) → List String
  | [] => []
  | (k, v) :: rest => (Text.quoted k ++ ": " ++ inspectText v) :: inspectFieldTexts rest

end

def displayText : Value → String
  | .text s => s
  | .decimal d => d.text
  | v => v.inspectText

mutual

/-- Whether a value can be put into text: no integer in it has more digits
than are written. -/
def hasText : Value → Bool
  | .int i => (Double.digitsOf i.natAbs).length ≤ Numeral.digitLimit
  | .list items | .tuple items => allHaveText items
  | .object fields => fieldsHaveText fields
  | _ => true

def allHaveText : List Value → Bool
  | [] => true
  | v :: rest => hasText v && allHaveText rest

def fieldsHaveText : List (String × Value) → Bool
  | [] => true
  | (_, v) :: rest => hasText v && fieldsHaveText rest

end

end AlertRules.Value
