import AlertRules.Fault
import AlertRules.Json.Writer

/-!
Values put into text.

Digits are made of an integer only if they are no more than can be read
back. A value with a longer integer in it has no text of any form, and
to ask for one is a fault: a message that was to show the value is not
written, and what was to be found by its text is not found.
-/

namespace AlertRules

namespace Value

def written (v : Value) (form : Value → String) : Except Fault String :=
  if v.hasText then .ok (form v) else .error .unwritable

def inspect (v : Value) : Except Fault String := v.written inspectText

def display (v : Value) : Except Fault String := v.written displayText

end Value

namespace Json

def spaced (v : Value) : Except Fault String := v.written spacedText

def canonical (v : Value) : Except Fault String := v.written canonicalText

end Json

end AlertRules
