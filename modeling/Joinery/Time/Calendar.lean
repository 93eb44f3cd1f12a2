/-! The calendar: days of the years one to 9999, counted from the first one. -/

namespace Joinery

/-- The numbers of a day, whether the calendar has it or not. -/
structure DayReading where
  /-- The year. -/
  year : Nat
  /-- The month, counted from one. -/
  month : Nat
  /-- The day of the month, counted from one. -/
  day : Nat
  deriving DecidableEq, Repr

/-- Every fourth year has a leap day, of the full centuries every fourth one. -/
def isLeapYear (year : Nat) : Bool :=
  year % 4 = 0 && (year % 100 ≠ 0 || year % 400 = 0)

/-- How many days the months of a year have. -/
def monthLengths (year : Nat) : List Nat :=
  [31, if isLeapYear year then 29 else 28, 31, 30, 31, 30, 31, 31, 30, 31, 30, 31]

/-- How many days a month has. -/
def daysInMonth (year month : Nat) : Nat :=
  (monthLengths year).getD (month - 1) 0

/-- How many days lie before the first one of a year. -/
def daysBeforeYear (year : Nat) : Nat :=
  let past := year - 1
  past * 365 + past / 4 - past / 100 + past / 400

/-- How many days of a year lie before a month. -/
def daysBeforeMonth (year month : Nat) : Nat :=
  ((monthLengths year).take (month - 1)).foldl (· + ·) 0

/-- The first year of the calendar. -/
def firstYear : Nat := 1

/-- The last year of the calendar. -/
def lastYear : Nat := 9999

/-- The number of days in the calendar. -/
def lastOrdinal : Nat := 3652059

/-- The number of a day, one for the first day of the calendar. -/
def DayReading.ordinal (d : DayReading) : Nat :=
  daysBeforeYear d.year + daysBeforeMonth d.year d.month + d.day

/-- Whether the numbers name a day of the calendar. -/
def DayReading.isReal (d : DayReading) : Bool :=
  firstYear ≤ d.year && d.year ≤ lastYear && 1 ≤ d.month && d.month ≤ 12 &&
    1 ≤ d.day && d.day ≤ daysInMonth d.year d.month

/-- A day of the calendar. -/
structure Date extends DayReading where
  /-- The calendar has the day. -/
  real : toDayReading.isReal = true
  deriving DecidableEq, Repr

/-- The first day of the calendar. -/
def Date.first : Date := ⟨⟨1, 1, 1⟩, rfl⟩

instance : Inhabited Date := ⟨.first⟩

/-- The day that some numbers name, when the calendar has it. -/
def DayReading.date? (d : DayReading) : Option Date :=
  if real : d.isReal = true then some ⟨d, real⟩ else none

/-- The year that a numbered day belongs to: the average year gives it up to one. -/
def yearOfOrdinal (ordinal : Nat) : Nat :=
  let guess := (ordinal - 1) * 400 / 146097 + 1
  if ordinal ≤ daysBeforeYear guess then guess - 1
  else if daysBeforeYear (guess + 1) < ordinal then guess + 1
  else guess

/-- The month and the day when the given number of days of the year have begun. -/
def monthAndDay : List Nat → Nat → Nat → Nat × Nat
  | [], month, days => (month, days)
  | length :: rest, month, days =>
    if days ≤ length then (month, days) else monthAndDay rest (month + 1) (days - length)

/-- The day with the given number. -/
def DayReading.ofOrdinal (ordinal : Nat) : DayReading :=
  let year := yearOfOrdinal ordinal
  let (month, day) := monthAndDay (monthLengths year) 1 (ordinal - daysBeforeYear year)
  ⟨year, month, day⟩

/-- The day of the week, zero for Monday. -/
def DayReading.weekday (d : DayReading) : Nat :=
  (d.ordinal + 6) % 7

end Joinery
