/-!
Whether a text occurs in another. The texts are given by their characters
or by their codes.
-/

namespace AlertRules.Text

variable {α : Type} [BEq α]

def occursIn (pattern : List α) : List α → Bool
  | [] => pattern.isEmpty
  | c :: cs => pattern.isPrefixOf (c :: cs) || occursIn pattern cs

end AlertRules.Text
