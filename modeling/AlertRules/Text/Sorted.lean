import AlertRules.Text.Code

/-!
Sorting by name.

Names are ordered by the codes of their characters. Lists of fields are short, so the sort
is by insertion; entries of equal name keep their order.
-/

namespace AlertRules.Text

variable {α : Type}

/-- Puts an entry into a sorted list, after those of the same name. -/
def insertOn (name : α → String) (x : α) : List α → List α
  | [] => [x]
  | y :: rest => if before (name x) (name y) then x :: y :: rest else y :: insertOn name x rest

def sortOn (name : α → String) (xs : List α) : List α :=
  xs.foldl (fun acc x => insertOn name x acc) []

end AlertRules.Text
