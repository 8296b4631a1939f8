import ExprLexer.Text.DigitRun
import ExprLexer.Text.Hex

/-!
# TOML numbers and moments

A scanner takes the longest spelling at the start of a text and returns what follows it. A moment is
a date, a time of day, or both with an offset. A date that no calendar has is an error, and not the
start of something else.
-/

namespace ExprLexer.Toml

def fixedDigits? (width low high : Nat) (t : Text) : Option (Nat × Text) :=
  let digits := t.take width
  let value := digits.foldl (fun n c => n * 10 + c.hexValue) 0
  if digits.length = width ∧ digits.all CodePoint.isDigit ∧ low ≤ value ∧ value ≤ high then
    some (value, t.drop width)
  else none

/-- The digits after a point, of which there is at least one. -/
def pointDigits? (t : Text) : Option Text :=
  (Text.after? ['.'] t).bind fun t =>
    if t.takeWhile CodePoint.isDigit = [] then none else some (t.dropWhile CodePoint.isDigit)

/-- A time of day with seconds, and a fraction of a second if one follows. -/
def time? (t : Text) : Option Text := do
  let (_, t) ← fixedDigits? 2 0 23 t
  let t ← Text.after? [':'] t
  let (_, t) ← fixedDigits? 2 0 59 t
  let t ← Text.after? [':'] t
  let (_, t) ← fixedDigits? 2 0 59 t
  some ((pointDigits? t).getD t)

def offset? (t : Text) : Option Text :=
  match t with
  | [] => none
  | c :: t =>
    if c = 'Z' ∨ c = 'z' then some t
    else if c = '+' ∨ c = '-' then do
      let (_, t) ← fixedDigits? 2 0 23 t
      let t ← Text.after? [':'] t
      let (_, t) ← fixedDigits? 2 0 59 t
      some t
    else none

def isLeapYear (year : Nat) : Bool :=
  year % 4 == 0 && (year % 100 != 0 || year % 400 == 0)

def daysIn (year month : Nat) : Nat :=
  if month = 2 then if isLeapYear year then 29 else 28
  else if month = 4 ∨ month = 6 ∨ month = 9 ∨ month = 11 then 30
  else 31

structure Date where
  year : Nat
  month : Nat
  day : Nat

/-- There is no year 0. -/
def Date.isValid (d : Date) : Bool :=
  1 ≤ d.year && d.day ≤ daysIn d.year d.month

def date? (t : Text) : Option (Date × Text) := do
  let (year, t) ← fixedDigits? 4 0 9999 t
  let t ← Text.after? ['-'] t
  let (month, t) ← fixedDigits? 2 1 12 t
  let t ← Text.after? ['-'] t
  let (day, t) ← fixedDigits? 2 1 31 t
  some (⟨year, month, day⟩, t)

def joinedTime? : Text → Option Text
  | [] => none
  | c :: t =>
    if c = 'T' ∨ c = 't' ∨ c = ' ' then (time? t).map fun t => (offset? t).getD t else none

/-- Digits without a leading zero, or the single digit zero. -/
def wholePart? : Text → Option Text
  | [] => none
  | c :: t => if c = '0' then some t else Text.digitRun? CodePoint.isDigit (c :: t)

def fractionPart? (t : Text) : Option Text :=
  (Text.after? ['.'] t).bind (Text.digitRun? CodePoint.isDigit)

/-- A number to the base sixteen, eight or two. It has no sign. -/
def basedNumber? (t : Text) : Option Text :=
  ((Text.after? ['0', 'x'] t).bind (Text.digitRun? CodePoint.isHexDigit)).or
    (((Text.after? ['0', 'b'] t).bind (Text.digitRun? CodePoint.isBinaryDigit)).or
      ((Text.after? ['0', 'o'] t).bind (Text.digitRun? CodePoint.isOctalDigit)))

def decimalNumber? (t : Text) : Option Text :=
  (wholePart? (Text.dropSign t)).map fun t =>
    let t := (fractionPart? t).getD t
    (Text.exponent? t).getD t

def specialNumber? (t : Text) : Option Text :=
  (Text.after? ['i', 'n', 'f'] (Text.dropSign t)).or (Text.after? ['n', 'a', 'n'] (Text.dropSign t))

def number? (t : Text) : Option Text :=
  (basedNumber? t).or ((decimalNumber? t).or (specialNumber? t))

end ExprLexer.Toml
