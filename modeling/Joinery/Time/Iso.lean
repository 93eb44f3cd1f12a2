import Joinery.Number.Integer
import Joinery.Time.Fault

/-! The standard written forms of days and times: calendar days, week days, times and zones. -/

namespace Joinery

/-- As many units as a character has bytes; only ASCII characters mean anything in these forms. -/
def byteUnits (c : Char) : List Char :=
  if c.toNat < 128 then [c] else List.replicate c.utf8Size (Char.ofNat 0xFFFD)

/-- Exactly the given number of digits, and what follows. -/
def takeDigits? : Nat → Nat → List Char → Option (Nat × List Char)
  | 0, value, cs => some (value, cs)
  | _ + 1, _, [] => none
  | count + 1, value, c :: rest =>
    match asciiDigit? c with
    | some digit => takeDigits? count (10 * value + digit) rest
    | none => none

/-- The unit at a position, or the one that marks the end. -/
def unitAt (units : List Char) (position : Nat) : Char :=
  units.getD position '\x00'

/-- Whether a unit is a digit. -/
def isDigitUnit (c : Char) : Bool :=
  (asciiDigit? c).isSome

/--
How many units the day takes.

Two forms of week days differ only in what follows, so the units after the day decide between them.
-/
def dayLength? (units : List Char) : Option Nat :=
  let size := units.length
  if size = 7 then some 7
  else if unitAt units 4 = '-' then
    if unitAt units 5 = 'W' then
      if 8 < size ∧ unitAt units 8 = '-' then
        if size = 9 then none
        else if 10 < size ∧ isDigitUnit (unitAt units 10) then some 8
        else some 10
      else some 8
    else some 10
  else if unitAt units 4 = 'W' then
    let digits := ((units.drop 7).takeWhile isDigitUnit).length
    if digits < 2 then some (7 + digits)
    else if digits % 2 = 1 then some 7
    else some 8
  else some 8

/-- The number of the Monday that the first week of a year starts with. -/
def firstMonday (year : Nat) : Int :=
  let newYear := DayReading.ordinal ⟨year, 1, 1⟩
  let weekday := DayReading.weekday ⟨year, 1, 1⟩
  if weekday ≤ 3 then (newYear : Int) - weekday else newYear - weekday + 7

/-- Whether a year has a fifty-third week. -/
def hasLongWeekYear (year : Nat) : Bool :=
  let weekday := DayReading.weekday ⟨year, 1, 1⟩
  weekday = 3 || (weekday = 2 && isLeapYear year)

/-- The day that a year, a week and a day of the week name. -/
def dayOfWeekDate? (year week weekday : Nat) : Option DayReading :=
  if year = 0 ∨ week = 0 ∨ weekday = 0 ∨ 7 < weekday ∨ 53 < week then none
  else if week = 53 ∧ ¬ hasLongWeekYear year then none
  else some (.ofOrdinal (firstMonday year + (week - 1) * 7 + (weekday - 1)).toNat)

/-- The unit that has to stand next. -/
def expect? (c : Char) (needed : Bool) (units : List Char) : Option (List Char) :=
  if needed then
    match units with
    | u :: rest => if u = c then some rest else none
    | [] => none
  else some units

/-- Reads the day that takes the given number of units. -/
def readDay? (units : List Char) (size : Nat) : Option DayReading := do
  let (year, afterYear) ← takeDigits? 4 0 units
  let hyphens := unitAt afterYear 0 = '-'
  let body := if hyphens then afterYear.drop 1 else afterYear
  match body with
  | 'W' :: weekUnits =>
    let (week, rest) ← takeDigits? 2 0 weekUnits
    if units.length - rest.length < size then
      let rest ← expect? '-' hyphens rest
      let (weekday, _) ← takeDigits? 1 0 rest
      dayOfWeekDate? year week weekday
    else dayOfWeekDate? year week 1
  | _ =>
    let (month, rest) ← takeDigits? 2 0 body
    let rest ← expect? '-' hyphens rest
    let (day, _) ← takeDigits? 2 0 rest
    return ⟨year, month, day⟩

/-- A time of day as it was read, before its numbers are checked. -/
structure ClockReading where
  /-- Hours, minutes and seconds as far as they are given. -/
  fields : List Nat
  /-- The millionths of a second. -/
  micro : Nat
  /-- Whether something follows that means nothing. -/
  leftover : Bool

/-- The reading with one more number in front. -/
def ClockReading.after (field : Nat) (r : ClockReading) : ClockReading :=
  { r with fields := field :: r.fields }

/-- The number of a field, zero when it is not given. -/
def ClockReading.field (r : ClockReading) (position : Nat) : Nat :=
  r.fields.getD position 0

/-- Reads decimal places, of which six count. -/
def readPlaces? (units : List Char) : Option ClockReading := do
  let count := min 6 units.length
  let (value, rest) ← takeDigits? count 0 units
  let after := rest.dropWhile isDigitUnit
  return ⟨[], value * powTen (6 - count), unitAt after 0 ≠ '\x00'⟩

/--
Reads numbers of two digits, with colons between all of them or none, and decimal places.

Whether there are colons shows after the first number.
-/
def readClock? : Nat → Option Bool → List Char → Option ClockReading
  | 0, _, units => readPlaces? units
  | count + 1, colons, units => do
    let (value, rest) ← takeDigits? 2 0 units
    match rest with
    | [] => return ⟨[value], 0, false⟩
    | c :: following =>
      let colons := colons.getD (c = ':')
      if following = [] then return ⟨[value], 0, c ≠ '\x00'⟩
      else if colons ∧ c = ':' then
        return (← readClock? count (some colons) following).after value
      else if c = '.' ∨ c = ',' then return (← readPlaces? following).after value
      else if colons then none
      else return (← readClock? count (some colons) rest).after value

/-- Whether a unit begins a zone. -/
def isZoneMark (c : Char) : Bool :=
  c = '+' || c = '-' || c = 'Z'

/-- The distance from universal time that a reading spells; less than a second is none. -/
def ClockReading.offset (negative : Bool) (r : ClockReading) : Int :=
  let seconds := r.field 0 * 3600 + r.field 1 * 60 + r.field 2
  if seconds = 0 then 0 else signed negative (seconds * microsPerSecond + r.micro)

/-- Reads a time of day and its zone. -/
def readTimeOfDay? (units : List Char) : Option (ClockReading × Option Int) := do
  let clock ← readClock? 3 none (units.takeWhile (!isZoneMark ·))
  match units.dropWhile (!isZoneMark ·) with
  | [] => if clock.leftover then none else return (clock, none)
  | 'Z' :: rest => if unitAt rest 0 = '\x00' then return (clock, some 0) else none
  | mark :: rest =>
    let zone ← readClock? 3 none rest
    if zone.leftover then none else return (clock, some (zone.offset (mark = '-')))

/-- The day, when its numbers are those of a day in the calendar. -/
def DayReading.check (d : DayReading) : Except TimeFault Date :=
  match d.date? with
  | some date => .ok date
  | none =>
    if d.year < firstYear ∨ lastYear < d.year then .error (.year d.year)
    else if d.month < 1 ∨ 12 < d.month then .error .month
    else .error .day

/-- The time of day, when its numbers are those of a clock. -/
def ClockReading.check (r : ClockReading) : Except TimeFault Clock :=
  if hour : 24 ≤ r.field 0 then .error .hour
  else if minute : 60 ≤ r.field 1 then .error .minute
  else if second : 60 ≤ r.field 2 then .error .second
  else if micro : 1000000 ≤ r.micro then .error .micro
  else
    .ok ⟨⟨r.field 0, Nat.lt_of_not_le hour⟩, ⟨r.field 1, Nat.lt_of_not_le minute⟩,
      ⟨r.field 2, Nat.lt_of_not_le second⟩, ⟨r.micro, Nat.lt_of_not_le micro⟩⟩

/-- The zone, when it is less than a day away. -/
def checkOffset : Option Int → Except TimeFault (Option Offset)
  | none => .ok none
  | some offset =>
    if near : offset.natAbs < microsPerDay then .ok (some ⟨offset, near⟩) else .error (.offset offset)

/-- The parts of a written moment, before their numbers are checked. -/
def readParts? (cs : List Char) : Option (DayReading × ClockReading × Option Int) := do
  let units := cs.flatMap byteUnits
  if units.length < 7 then none
  else
    let size ← dayLength? units
    let date ← readDay? units size
    if units.length ≤ size then return (date, ⟨[], 0, false⟩, none)
    else
      -- The day is plain ASCII, so one character after it stands between the day and the time.
      let (clock, offset) ← readTimeOfDay? ((cs.drop (size + 1)).flatMap byteUnits)
      return (date, clock, offset)

/-- Reads a day, or a day and a time with any one character between them. -/
def Moment.ofIso (text : String) : Except TimeFault Moment :=
  match readParts? text.toList with
  | none => .error (.malformed text)
  | some (date, clock, offset) => do
    let offset ← checkOffset offset
    let date ← date.check
    let clock ← clock.check
    return ⟨⟨date, clock⟩, offset⟩

end Joinery
