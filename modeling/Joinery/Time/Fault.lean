import Joinery.Text.Quoted
import Joinery.Time.Moment

/-! Why something names no point in time. -/

namespace Joinery

/-- The causes for which a text or a number is no point in time. -/
inductive TimeFault where
  /-- The text does not have the form of a day or of a day and a time. -/
  | malformed (text : String)
  /-- The calendar has no such year. -/
  | year (year : Int)
  /-- There are twelve months. -/
  | month
  /-- The month has fewer days. -/
  | day
  /-- A day has twenty-four hours. -/
  | hour
  /-- An hour has sixty minutes. -/
  | minute
  /-- A minute has sixty seconds. -/
  | second
  /-- A second has a million millionths. -/
  | micro
  /-- No clock is a day or more away from universal time. -/
  | offset (micros : Int)
  /-- The moment lies outside the calendar. -/
  | outsideCalendar
  /-- The number of seconds is no number. -/
  | notANumber
  /-- The number of seconds needs more than sixty-four bits. -/
  | secondsTooLarge
  /-- The year needs more than thirty-two bits. -/
  | yearTooLarge
  deriving DecidableEq, Repr

/-- A span of time as days, seconds and millionths, the last two never negative, zeros left out. -/
def spanText (micros : Int) : String :=
  let days := micros.fdiv microsPerDay
  let rest := (micros.fmod microsPerDay).toNat
  let seconds := rest / microsPerSecond
  let parts :=
    [("days", days), ("seconds", (seconds : Int)),
     ("microseconds", (rest % microsPerSecond : Nat))]
  let shown := parts.filterMap fun (name, amount) =>
    if amount = 0 then none else some (name ++ "=" ++ intText amount)
  "datetime.timedelta(" ++ (if shown = [] then "0" else ", ".intercalate shown) ++ ")"

/-- The wording of each cause. -/
def TimeFault.message : TimeFault → String
  | .malformed text => "Invalid isoformat string: " ++ quoted text
  | .year number => "year " ++ intText number ++ " is out of range"
  | .month => "month must be in 1..12"
  | .day => "day is out of range for month"
  | .hour => "hour must be in 0..23"
  | .minute => "minute must be in 0..59"
  | .second => "second must be in 0..59"
  | .micro => "microsecond must be in 0..999999"
  | .offset micros =>
    "offset must be a timedelta strictly between -timedelta(hours=24) and " ++
      "timedelta(hours=24), not " ++ spanText micros ++ "."
  | .outsideCalendar => "date value out of range"
  | .notANumber => "Invalid value NaN (not a number)"
  | .secondsTooLarge => "timestamp out of range for platform time_t"
  | .yearTooLarge => "[Errno 75] Value too large for defined data type"

end Joinery
