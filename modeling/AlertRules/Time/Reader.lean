import AlertRules.Time.Moment

/-!
Reading moments from documents.

A text gives a moment in one of three forms: a date and a time of day, a
bare date, which means its first instant in no particular zone, or a
number. A number counts seconds since the start of 1970; one that is too
large to be meant so, above `millisecondBound`, counts milliseconds.

Reading knows a year zero, before the first year of the calendar.
-/

namespace AlertRules.Moment

/-- A number of exactly `count` decimal digits, and what follows it. -/
def readFixed? : Nat → List Char → Option (Nat × List Char)
  | 0, cs => some (0, cs)
  | count + 1, c :: cs => do
    let d ← Text.asciiDigit? c
    let (n, rest) ← readFixed? count cs
    pure (d * Nat.pow 10 count + n, rest)
  | _ + 1, [] => none

def after? (expected : Char) : List Char → Option (List Char)
  | c :: cs => if c == expected then some cs else none
  | [] => none

def readDate? (cs : List Char) : Option ((Nat × Nat × Nat) × List Char) := do
  let (year, rest) ← readFixed? 4 cs
  let rest ← after? '-' rest
  let (month, rest) ← readFixed? 2 rest
  let rest ← after? '-' rest
  let (day, rest) ← readFixed? 2 rest
  if 1 ≤ month ∧ month ≤ 12 ∧ 1 ≤ day ∧ day ≤ monthLength year month then
    pure ((year, month, day), rest)
  else none

/-- The fraction of a second, cut to microseconds. -/
def readFraction? (cs : List Char) : Option (Nat × List Char) :=
  match Numeral.spanDigits Text.asciiDigit? cs with
  | ([], _) => none
  | (ds, rest) =>
    let kept := ds.take 6
    some (Numeral.ofDigits kept * Nat.pow 10 (6 - kept.length), rest)

/-- The seconds of a time of day with their fraction, which a time need
not give. -/
def readSeconds? : List Char → Option ((Nat × Nat) × List Char)
  | ':' :: cs => do
    let (second, rest) ← readFixed? 2 cs
    if 59 < second then none
    else
      match rest with
      | '.' :: more | ',' :: more => do
        let (micros, rest) ← readFraction? more
        pure ((second, micros), rest)
      | _ => pure ((second, 0), rest)
  | cs => some ((0, 0), cs)

/-- The offset of a zone up to the end of the text, none if the text ends
here. -/
def readOffset? : List Char → Option (Option Int)
  | [] => some none
  | ['Z'] | ['z'] => some (some 0)
  | c :: cs => do
    let sign : Int ←
      if c == '+' then some 1 else if c == '-' || c == '\u2212' then some (-1) else none
    let (hours, rest) ← readFixed? 2 cs
    let rest := (after? ':' rest).getD rest
    let (minutes, rest) ← readFixed? 2 rest
    if rest.isEmpty ∧ hours ≤ 23 ∧ minutes ≤ 59 then
      pure (some (sign * ((hours * 60 + minutes : Nat) : Int)))
    else none

def readDateTime? (cs : List Char) : Option Moment := do
  let ((year, month, day), rest) ← readDate? cs
  let rest ← match rest with
    | 'T' :: more | 't' :: more | ' ' :: more | '_' :: more => some more
    | _ => none
  let (hour, rest) ← readFixed? 2 rest
  let rest ← after? ':' rest
  let (minute, rest) ← readFixed? 2 rest
  let ((second, micros), rest) ← readSeconds? rest
  let offset ← readOffset? rest
  if hour ≤ 23 ∧ minute ≤ 59 then
    pure { year, month, day, hour, minute, second, micros, offset }
  else none

/-- The magnitude above which a number counts milliseconds. -/
def millisecondBound : Nat := 20000000000

/-- Where the numbers end that can be such a count at all: two to the
63rd. -/
def stampLimit : Nat := 9223372036854775808

/-- The moment a number of seconds (or milliseconds) after the start of
1970. -/
def ofStamp? (stamp : Int) : Option Moment :=
  ofMicros? (stamp * if stamp.natAbs ≤ millisecondBound then 1000000 else 1000)

/-- The moment a floating-point number of seconds (or milliseconds) after
the start of 1970: the whole part rounded down, the fraction to the
nearest microsecond, a half up. -/
def ofDouble? (x : Double) : Option Moment :=
  if x.isFinite then
    let unit := Double.unitsOfOne
    let whole := x.units.fdiv unit
    let fraction := x.add (.ofInt (-whole))
    let perUnit : Nat := if x.magnitude ≤ millisecondBound * unit then 1000000 else 1000
    let scaled := (fraction.mul (.ofInt perUnit)).magnitude
    ofMicros? (whole * perUnit + (2 * scaled + unit : Nat) / (2 * unit : Nat))
  else none

/-- A number in text form: whole, or with a point. -/
def readStamp? (cs : List Char) : Option Moment :=
  let (negative, unsigned) := Numeral.spanSign cs
  match Numeral.spanDigits Text.asciiDigit? unsigned with
  | (d :: ds, []) =>
    let n : Int := Numeral.ofDigits (d :: ds)
    if n < stampLimit then ofStamp? (if negative then -n else n) else none
  | (_, '.' :: _) => (Numeral.read? Text.asciiDigit? cs).bind fun n => ofDouble? n.toDouble
  | _ => none

def ofText? (s : String) : Option Moment :=
  let cs := s.toList
  match readDateTime? cs with
  | some m => some m
  | none =>
    match readStamp? cs with
    | some m => some m
    | none =>
      match readDate? cs with
      | some ((year, month, day), []) =>
        some { year, month, day, hour := 0, minute := 0, second := 0, micros := 0, offset := none }
      | _ => none

end AlertRules.Moment
