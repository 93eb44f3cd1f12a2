import Joinery.Value.Basic

/-! When two values count as the same identifier. -/

namespace Joinery

/--
What makes values the same identifier.

Numbers are the same when they are equal, whatever form they are written in.
-/
inductive Identity where
  /-- No value. -/
  | nothing
  /-- The number `core * 2 ^ twos * 5 ^ fives`, where neither two nor five divides the core. -/
  | number (negative : Bool) (core : Nat) (twos fives : Int)
  /-- One of the two infinities. -/
  | infinite (negative : Bool)
  /-- A text. -/
  | text (text : String)
  /-- What a clock of unknown zone shows. -/
  | local (time : LocalTime)
  /-- A point on the line of universal time. -/
  | instant (micros : Int)
  /-- A day. -/
  | day (day : Date)
  deriving DecidableEq, Repr

/-- How far a value can be told from others. -/
inductive Distinction where
  /-- Values with the same identity are the same. -/
  | by (identity : Identity)
  /-- The value is the same as no other. -/
  | unique
  /-- The value has no identity. -/
  | none
  deriving DecidableEq, Repr

/-- Divides by a factor as often as it goes, and counts how often. -/
def stripFactor (factor : Nat) (large : 1 < factor) (n : Nat) : Nat × Nat :=
  if _divides : 0 < n ∧ n % factor = 0 then
    let (core, count) := stripFactor factor large (n / factor)
    (core, count + 1)
  else (n, 0)
termination_by n
decreasing_by exact Nat.div_lt_self _divides.1 large

/-- The identity of the number `magnitude * 2 ^ twos * 5 ^ fives`. -/
def Identity.ofScaled (negative : Bool) (magnitude : Nat) (twos fives : Int) : Identity :=
  if magnitude = 0 then .number false 0 0 0
  else
    let (odd, moreTwos) := stripFactor 2 (by decide) magnitude
    let (core, moreFives) := stripFactor 5 (by decide) odd
    .number negative core (twos + moreTwos) (fives + moreFives)

/-- The identity of a whole number. -/
def Identity.ofInt (n : Int) : Identity :=
  ofScaled (n < 0) n.natAbs 0 0

/-- How a value is told from others. -/
def Value.distinction : Value → Distinction
  | .null => .by .nothing
  | .bool truth => .by (.ofInt (if truth then 1 else 0))
  | .int n => .by (.ofInt n)
  | .float .nan => .unique
  | .float (.infinite negative) => .by (.infinite negative)
  | .float (.finite negative mantissa exponent _) => .by (.ofScaled negative mantissa exponent 0)
  | .decimal (.finite negative coefficient exponent) =>
    .by (.ofScaled negative coefficient exponent exponent)
  | .decimal (.infinite negative) => .by (.infinite negative)
  | .decimal (.nan _ false _) => .unique
  | .decimal (.nan _ true _) => .none
  | .text s => .by (.text s)
  | .moment ⟨time, none⟩ => .by (.local time)
  | .moment ⟨time, some offset⟩ => .by (.instant (time.micros - offset))
  | .date day => .by (.day day)
  | .list _ => .none
  | .map _ => .none

end Joinery
