import AlertRules.Value.Basic

/-!
Dotted paths into a payload.

A path is a text of names with points between them. Following it goes
from object to object; a name that is not there, or a value on the way
that is no object, makes the result `missing`. Lists are not entered, so
a number in a path is a name like any other.
-/

namespace AlertRules.Path

/-- The names of a path: the parts between its points. -/
def segments : List Char → List (List Char)
  | [] => [[]]
  | c :: cs =>
    if c == '.' then [] :: segments cs
    else
      match segments cs with
      | [] => [[c]]
      | s :: rest => (c :: s) :: rest

theorem segments_eq_splitOn (cs : List Char) : segments cs = cs.splitOn '.' := by
  induction cs with
  | nil => rfl
  | cons c cs ih =>
      rw [segments, List.splitOn, List.splitOnP_cons_eq_if_modifyHead, ← List.splitOn, ih]
      split
      · rfl
      · cases hnames : cs.splitOn '.' with
        | nil => exact absurd hnames (List.splitOn_ne_nil '.' cs)
        | cons name rest => rfl

def child (v : Value) (key : String) : Value :=
  match v with
  | .object fields => (Object.get? fields key).getD .missing
  | _ => .missing

def follow (v : Value) : List String → Value
  | [] => v
  | key :: rest => follow (child v key) rest

/-- The value that a path leads to. The empty path leads nowhere. -/
def extract (v : Value) (path : String) : Value :=
  if path.isEmpty then .missing
  else follow v ((segments path.toList).map String.ofList)

/-- The value that a path leads to when the path itself is a value, which
it need not be. -/
def extractBy (v : Value) : Value → Value
  | .text path => extract v path
  | _ => .missing

end AlertRules.Path
