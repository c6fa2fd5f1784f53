import AccessPoint.Text.Numeral
import AccessPoint.Text.Reader
import AccessPoint.Toml.Value

/-!
# TOML dates and times

A date, a date and a time of day with an optional offset from UTC, or a time of day. Every part must
be in range, the day with regard to month and leap year.
-/

namespace AccessPoint.Toml

open Text (Reader mark?)

/-- A number of exactly `width` digits. -/
def fixedDigits (width : Nat) : Reader Nat := fun cs ↦
  let ds := cs.take width
  if ds.length = width ∧ ds.all Char.isDigit then
    some (ds.foldl (fun n c ↦ 10 * n + Text.Numeral.digitValue c) 0, cs.drop width)
  else none

/-- A number of two digits from `least` to `greatest`. -/
def twoDigits (least greatest : Nat) : Reader Nat := fun cs ↦ do
  let (n, cs) ← fixedDigits 2 cs
  guard (least ≤ n ∧ n ≤ greatest)
  return (n, cs)

/-- Leap years of the Gregorian calendar. -/
def isLeapYear (year : Nat) : Bool := year % 4 == 0 && (year % 100 != 0 || year % 400 == 0)

/-- The number of days in a month. -/
def daysIn (year month : Nat) : Nat :=
  if month = 2 then if isLeapYear year then 29 else 28
  else if month ∈ [4, 6, 9, 11] then 30
  else 31

/-- The characters after a date. -/
def date? (cs : List Char) : Option (List Char) := do
  let (year, cs) ← fixedDigits 4 cs
  let cs ← mark? '-' cs
  let (month, cs) ← twoDigits 1 12 cs
  let cs ← mark? '-' cs
  let (_, cs) ← twoDigits 1 (daysIn year month) cs
  return cs

/-- The characters after hours and minutes. -/
def hourMinute? (cs : List Char) : Option (List Char) := do
  let (_, cs) ← twoDigits 0 23 cs
  let cs ← mark? ':' cs
  let (_, cs) ← twoDigits 0 59 cs
  return cs

/-- The characters after an optional fraction of a second. -/
def secondFraction? (cs : List Char) : List Char :=
  match cs with
  | '.' :: ds => if (ds.takeWhile Char.isDigit).isEmpty then cs else ds.dropWhile Char.isDigit
  | cs => cs

/-- The characters after a time of day. The sixtieth second may be a leap second. -/
def time? (cs : List Char) : Option (List Char) := do
  let cs ← hourMinute? cs
  let cs ← mark? ':' cs
  let (_, cs) ← twoDigits 0 60 cs
  return secondFraction? cs

/-- The characters after an optional offset from UTC. -/
def offset? : List Char → Option (List Char)
  | [] => some []
  | c :: cs =>
    if c = 'Z' ∨ c = 'z' then some cs
    else if c = '+' ∨ c = '-' then hourMinute? cs
    else some (c :: cs)

/-- Whether a time of day stands at the head of the characters. -/
def startsTime (cs : List Char) : Bool :=
  ((twoDigits 0 23 cs).bind fun (_, cs) ↦ mark? ':' cs).isSome

/-- Whether a date stands at the head of the characters. -/
def startsDate (cs : List Char) : Bool :=
  ((fixedDigits 4 cs).bind fun (_, cs) ↦ mark? '-' cs).isSome

/-- The characters after a date and, if it follows, a time of day. -/
def dateTime? (cs : List Char) : Option (List Char) := do
  let cs ← date? cs
  match cs with
  | [] => return []
  | c :: rest =>
    if (c = 'T' ∨ c = 't' ∨ c = ' ') ∧ startsTime rest then offset? (← time? rest)
    else return cs

/-- A date, a time, or both. -/
def moment : Reader Value := fun cs ↦
  if startsDate cs then (dateTime? cs).map (.moment, ·)
  else (time? cs).map (.moment, ·)

end AccessPoint.Toml
