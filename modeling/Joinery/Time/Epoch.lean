import Joinery.Number.Binary64
import Joinery.Time.Fault

/-! Moments as seconds since the start of 1970, at universal time. -/

namespace Joinery

/-- The start of 1970. -/
def epoch : LocalTime := ⟨⟨⟨1970, 1, 1⟩, rfl⟩, .midnight⟩

/-- The year in which a day lies, also before and after the calendar. -/
def wideYear (ordinal : Int) : Int :=
  let cycle := (ordinal - 1).fdiv 146097
  cycle * 400 + yearOfOrdinal ((ordinal - 1).fmod 146097 + 1).toNat

/-- Whether a whole number fits into thirty-two bits with a sign. -/
def fitsInt32 (n : Int) : Bool :=
  -2147483648 ≤ n && n ≤ 2147483647

/-- A number wrapped into thirty-two bits with a sign. -/
def wrapInt32 (n : Int) : Int :=
  n.bmod 4294967296

/-- The moment some whole seconds and millionths after the start of 1970. -/
def LocalTime.ofEpochSeconds (seconds : Int) (micros : Nat) : Except TimeFault LocalTime :=
  if !fitsInt64 seconds then .error .secondsTooLarge
  else
    let year := wideYear (epoch.date.ordinal + seconds.fdiv 86400)
    -- The broken-down time counts its years from 1900 in thirty-two bits.
    if !fitsInt32 (year - 1900) then .error .yearTooLarge
    else if year < firstYear ∨ lastYear < year then .error (.year (wrapInt32 year))
    else
      match epoch.shift? (seconds * microsPerSecond + micros) with
      | some time => .ok time
      | none => .error .outsideCalendar

/-- The whole number next to the magnitude of a number, of two the even one. -/
def Binary64.nearest : Binary64 → Nat
  | .finite _ mantissa exponent _ =>
    roundHalfEven (fraction mantissa exponent).1 (fraction mantissa exponent).2
  | _ => 0

/--
The part after the point in millionths, rounded to a whole number, a half to the even neighbour.

The product with a million is itself a floating-point number.
-/
def fractionMicros (negative : Bool) (mantissa : Nat) (exponent : Int) : Int :=
  let (num, den) := Binary64.fraction mantissa exponent
  signed negative (Binary64.ofRatio false (num % den * microsPerSecond) den).nearest

/-- The moment that a floating-point number of seconds names. -/
def LocalTime.ofEpochFloat : Binary64 → Except TimeFault LocalTime
  | .nan => .error .notANumber
  | .infinite _ => .error .secondsTooLarge
  | .finite negative mantissa exponent _ =>
    let (num, den) := Binary64.fraction mantissa exponent
    let whole := signed negative (num / den)
    let micros := fractionMicros negative mantissa exponent
    if microsPerSecond ≤ micros then ofEpochSeconds (whole + 1) (micros - microsPerSecond).toNat
    else if micros < 0 then ofEpochSeconds (whole - 1) (micros + microsPerSecond).toNat
    else ofEpochSeconds whole micros.toNat

end Joinery
