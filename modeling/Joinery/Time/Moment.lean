import Joinery.Text.DecimalDigit
import Joinery.Time.Calendar

/-! Points in time: a day, a time of day, and possibly a distance from universal time. -/

namespace Joinery

/-- A time of day. -/
structure Clock where
  /-- The hour. -/
  hour : Fin 24
  /-- The minute. -/
  minute : Fin 60
  /-- The second. -/
  second : Fin 60
  /-- The millionths of a second. -/
  micro : Fin 1000000
  deriving DecidableEq, Repr, Inhabited

/-- The start of a day. -/
def Clock.midnight : Clock := ⟨0, 0, 0, 0⟩

/-- A day and a time of day, read on whatever clock the context names. -/
structure LocalTime where
  /-- The day. -/
  date : Date
  /-- The time of day. -/
  clock : Clock
  deriving DecidableEq, Repr, Inhabited

/-- The millionths of a second in a second. -/
def microsPerSecond : Nat := 1000000

/-- The millionths of a second in a day. -/
def microsPerDay : Nat := 86400000000

/-- How far a clock is ahead of universal time, in millionths of a second: less than a day. -/
abbrev Offset := { micros : Int // micros.natAbs < microsPerDay }

/-- A local time, with the distance of its clock from universal time where that is known. -/
structure Moment where
  /-- What the clock shows. -/
  time : LocalTime
  /-- How far the clock is ahead of universal time. -/
  offset : Option Offset
  deriving DecidableEq, Repr, Inhabited

/-- The millionths of a second since midnight. -/
def Clock.micros (c : Clock) : Nat :=
  ((c.hour.val * 60 + c.minute.val) * 60 + c.second.val) * microsPerSecond + c.micro.val

/-- The time of day when the given number of millionths have passed since midnight. -/
def Clock.ofMicros (micros : Nat) : Clock :=
  let seconds := micros / microsPerSecond
  ⟨.ofNat 24 (seconds / 3600), .ofNat 60 (seconds / 60), .ofNat 60 seconds, .ofNat 1000000 micros⟩

/-- The millionths of a second since the day before the first one. -/
def LocalTime.micros (t : LocalTime) : Nat :=
  t.date.ordinal * microsPerDay + t.clock.micros

/-- The local time at a number of millionths, when it lies in the calendar. -/
def LocalTime.ofMicros? (micros : Int) : Option LocalTime :=
  if micros < microsPerDay ∨ (lastOrdinal + 1) * microsPerDay ≤ micros then none
  else
    let whole := micros.toNat
    (DayReading.ofOrdinal (whole / microsPerDay)).date?.map fun date =>
      ⟨date, Clock.ofMicros (whole % microsPerDay)⟩

/-- A local time moved by some millionths of a second. -/
def LocalTime.shift? (t : LocalTime) (micros : Int) : Option LocalTime :=
  ofMicros? (t.micros + micros)

/-- A local time moved by some days. -/
def LocalTime.addDays? (t : LocalTime) (days : Int) : Option LocalTime :=
  t.shift? (days * microsPerDay)

/-- What a clock at universal time shows, unless that lies outside the calendar. -/
def Moment.universal? (m : Moment) : Option LocalTime :=
  match m.offset with
  | none => some m.time
  | some offset => m.time.shift? (-offset)

/-- A day in the extended form with hyphens. -/
def DayReading.text (d : DayReading) : List Char :=
  paddedDigits 4 d.year ++ '-' :: paddedDigits 2 d.month ++ '-' :: paddedDigits 2 d.day

/-- Hours, minutes and seconds with colons. -/
def Clock.secondsText (c : Clock) : List Char :=
  paddedDigits 2 c.hour ++ ':' :: paddedDigits 2 c.minute ++ ':' :: paddedDigits 2 c.second

/-- A time of day, with millionths of a second only when there are some. -/
def Clock.text (c : Clock) : List Char :=
  c.secondsText ++ if c.micro.val = 0 then [] else '.' :: paddedDigits 6 c.micro

/-- An offset in hours and minutes, with seconds and millionths only when there are some. -/
def offsetText (offset : Int) : List Char :=
  let c := Clock.ofMicros offset.natAbs
  (if offset < 0 then '-' else '+') :: paddedDigits 2 c.hour ++ ':' :: paddedDigits 2 c.minute ++
    if c.second.val = 0 ∧ c.micro.val = 0 then []
    else ':' :: paddedDigits 2 c.second ++ if c.micro.val = 0 then [] else '.' :: paddedDigits 6 c.micro

/-- A local time with the given character between the day and the time. -/
def LocalTime.textWith (separator : Char) (t : LocalTime) : List Char :=
  t.date.text ++ separator :: t.clock.text

/-- A moment with the given character between the day and the time. -/
def Moment.textWith (separator : Char) (m : Moment) : List Char :=
  m.time.textWith separator ++ (m.offset.map (offsetText ·.val)).getD []

/-- A moment in the standard form. -/
def Moment.isoText (m : Moment) : String :=
  String.ofList (m.textWith 'T')

/-- A moment in the form for people, with a space after the day. -/
def Moment.plainText (m : Moment) : String :=
  String.ofList (m.textWith ' ')

/-- A moment in a document: universal time is marked by a letter. -/
def Moment.documentText (m : Moment) : String :=
  match m.offset with
  | some ⟨0, _⟩ => String.ofList (m.time.textWith 'T' ++ ['Z'])
  | _ => m.isoText

/-- A local time as it is stored: a space after the day and always six decimal places. -/
def LocalTime.storedText (t : LocalTime) : String :=
  String.ofList (t.date.text ++ ' ' :: t.clock.secondsText ++ '.' :: paddedDigits 6 t.clock.micro)

end Joinery
