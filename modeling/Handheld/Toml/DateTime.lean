import Handheld.Toml.Number

/-! Dates and times: a date, a time, both, or both with an offset from universal time. -/

namespace Handheld

namespace Toml

/-- Exactly `count` digits whose number lies between two bounds. -/
def fixedNumber (count least most : Nat) : Scan Nat := fun text =>
  let run := text.take count
  if run.length = count ∧ run.all isDecimal then
    let value := Numeral.value 10 run
    if least ≤ value ∧ value ≤ most then some (value, text.drop count) else none
  else none

def isLeapYear (year : Nat) : Bool :=
  year % 4 == 0 && (year % 100 != 0 || year % 400 == 0)

def daysInMonth (year month : Nat) : Nat :=
  if month = 2 then if isLeapYear year then 29 else 28
  else if month ∈ [4, 6, 9, 11] then 30
  else 31

/-- A day of the calendar. -/
def date : Scan Unit := fun text => do
  let (year, rest) ← fixedNumber 4 0 9999 text
  let (_, rest) ← literal ['-'] rest
  let (month, rest) ← fixedNumber 2 1 12 rest
  let (_, rest) ← literal ['-'] rest
  let (_, rest) ← fixedNumber 2 1 (daysInMonth year month) rest
  return ((), rest)

/-- Parts of a second behind a point. -/
def secondParts : Scan Unit
  | '.' :: c :: rest => if isDecimal c then some ((), rest.dropWhile isDecimal) else none
  | _ => none

/-- A time of the day, where a minute may have a leap second. -/
def timeOfDay : Scan Unit := fun text => do
  let (_, rest) ← fixedNumber 2 0 23 text
  let (_, rest) ← literal [':'] rest
  let (_, rest) ← fixedNumber 2 0 59 rest
  let (_, rest) ← literal [':'] rest
  let (_, rest) ← fixedNumber 2 0 60 rest
  return (secondParts rest).getD ((), rest)

/-- The offset from universal time. -/
def timeOffset : Scan Unit := fun text =>
  match text with
  | 'Z' :: rest => some ((), rest)
  | 'z' :: rest => some ((), rest)
  | _ => do
      let (mark, rest) := sign text
      guard mark.isSome
      let (_, rest) ← fixedNumber 2 0 23 rest
      let (_, rest) ← literal [':'] rest
      let (_, rest) ← fixedNumber 2 0 59 rest
      return ((), rest)

/-- The time behind a date, with or without an offset. -/
def timeAfterDate : Scan Unit := fun text =>
  match text with
  | [] => none
  | mark :: rest => do
      guard (mark == 'T' || mark == 't' || mark == ' ')
      let (_, rest) ← timeOfDay rest
      return (timeOffset rest).getD ((), rest)

/-- A date, a time or both. -/
def dateTime : Scan Value := fun text => do
  let afterDate := (date text).map fun (_, rest) => (timeAfterDate rest).getD ((), rest)
  let (_, rest) ← afterDate <|> timeOfDay text
  return (.dateTime (String.ofList (text.take (text.length - rest.length))), rest)

end Toml

end Handheld
