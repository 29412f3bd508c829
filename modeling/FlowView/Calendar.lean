/-!
# Calendar

Dates of the Gregorian calendar, carried back before its introduction and through a year zero, and the
count of days between them. Day 0 is the first of January 1970.
-/

namespace FlowView

/-- A date: months and days count from one. -/
structure Date where
  year : Int
  month : Nat
  day : Nat
  deriving DecidableEq, Repr

namespace Date

def isLeap (year : Int) : Bool := year % 4 = 0 ∧ (year % 100 ≠ 0 ∨ year % 400 = 0)

/-- The lengths of a year's months. -/
def monthLengths (year : Int) : List Nat :=
  [31, if isLeap year then 29 else 28, 31, 30, 31, 30, 31, 31, 30, 31, 30, 31]

/-- The days of the years from zero up to this one, which is not counted. -/
def daysBeforeYear (year : Int) : Int :=
  365 * year + (year + 3) / 4 - (year + 99) / 100 + (year + 399) / 400

/-- The days from the start of year zero to the start of 1970. -/
def epochDay : Int := 719528

/-- Does the calendar have this date? -/
def isValid (d : Date) : Bool :=
  1 ≤ d.month ∧ 1 ≤ d.day ∧ d.day ≤ (monthLengths d.year).getD (d.month - 1) 0

/-- The day a date falls on. -/
def toDay (d : Date) : Int :=
  let months : Nat := ((monthLengths d.year).take (d.month - 1)).foldl (· + ·) 0
  daysBeforeYear d.year + months + d.day - 1 - epochDay

/-- Month and day within the months of these lengths, by the days gone since the first of them. -/
def inMonths (month : Nat) : List Nat → Nat → Nat × Nat
  | [], gone => (month, gone + 1)
  | length :: rest, gone =>
    if gone < length then (month, gone + 1) else inMonths (month + 1) rest (gone - length)

/-- The year in which a count of days since the start of year zero falls. The mean length of a year
gives a first guess that is off by one at most. -/
def yearOf (days : Int) : Int :=
  let guess := days * 400 / 146097
  if daysBeforeYear (guess + 1) ≤ days then guess + 1
  else if days < daysBeforeYear guess then guess - 1
  else guess

/-- The date of a day. -/
def ofDay (day : Int) : Date :=
  let days := day + epochDay
  let year := yearOf days
  let (month, day) := inMonths 1 (monthLengths year) (days - daysBeforeYear year).toNat
  ⟨year, month, day⟩

end Date
end FlowView
