import AlertRules.Fault
import AlertRules.Value.Order

/-!
Values as numbers.

Two values are compared as numbers when both are: numbers themselves, or
texts that hold a numeral and nothing else but blanks around it. Only
finite numbers count; truth values never do.

A text padded with an information separator is a numeral by its form and
none by its reading, and asking for its number is a fault.
-/

namespace AlertRules.Value

def textNumber (s : String) : Except Fault (Option Double) :=
  let cs := s.toList
  match Numeral.read? Text.digitValue? (Text.strip Text.isBlank cs) with
  | none => .ok none
  | some numeral =>
    if cs.any Text.isSeparator then .error (.notANumber s)
    else
      let x := numeral.toDouble
      .ok (if x.isFinite then some x else none)

/-- A number if it is finite. -/
def finite? (x : Double) : Option Double := if x.isFinite then some x else none

def toNumber : Value → Except Fault (Option Double)
  | .int i => .ok (finite? (.ofInt i))
  | .float x => .ok (finite? x)
  | .decimal d => .ok (d.toDouble?.bind finite?)
  | .text s => textNumber s
  | _ => .ok none

/-- Whether two values are the same. Truth values are the same only as
truth values, and the absent value only as itself; a number that refuses
to be compared is not the same as anything. -/
def strictEquals : Value → Value → Bool
  | .bool a, .bool b => a == b
  | .bool _, _ => false
  | _, .bool _ => false
  | .missing, .missing => true
  | .missing, _ => false
  | _, .missing => false
  | v, w =>
    match v.equal w with
    | .ok answer => answer
    | .error _ => false

end AlertRules.Value
