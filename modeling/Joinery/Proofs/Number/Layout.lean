import Joinery.Number.Shortest
import Joinery.Proofs.Number.Literals
import Joinery.Proofs.Text.Digits
import Mathlib.Data.List.Induction

/-! Digits that are laid out around a point spell the decimal that they stand for. -/

namespace Joinery

/-- Characters that are digits of ASCII. -/
def AllDigits (cs : List Char) : Prop :=
  ∀ c ∈ cs, ∃ value < 10, c = digitChar value

/-- The values of ASCII digits. -/
def digitValues (cs : List Char) : List Nat :=
  cs.map fun c => c.toNat - 48

variable {cs ds front back part scale : List Char} {n : Nat} {power : Int} {negative : Bool}

/-- Digits are a run of their values. -/
theorem AllDigits.run (digits : AllDigits cs) : SpellsRun cs (digitValues cs) := by
  -- There are ten digits, and each is read as the value that it was written for.
  have read : ∀ value < 10, digitValue? (digitChar value) = some value ∧
      (digitChar value).toNat - 48 = value := by decide
  rw [SpellsRun, digitValues, List.forall₂_map_right_iff, List.forall₂_same]
  intro c member
  obtain ⟨value, small, rfl⟩ := digits c member
  rw [(read value small).2]
  exact (read value small).1

/-- Their value is below the power of ten behind them. -/
theorem AllDigits.value_lt (digits : AllDigits cs) :
    digitsValue (digitValues cs) < 10 ^ cs.length := by
  -- The last digit adds less than ten to ten times what stands before it.
  have small : ∀ value < 10, (digitChar value).toNat - 48 = value := by decide
  induction cs using List.reverseRecOn with
  | nil => exact Nat.one_pos
  | append_singleton rest c ih =>
    obtain ⟨value, bound, rfl⟩ := digits c (by simp)
    have front := ih fun c member => digits c (List.mem_append_left _ member)
    have last : digitsValue (digitValues [digitChar value]) = value := by
      rw [digitValues, List.map_singleton, small value bound, digitsValue]
      simp
    rw [digitValues, List.map_append, digitsValue_append, List.length_map]
    change digitsValue (digitValues rest) * 10 ^ [digitChar value].length +
      digitsValue (digitValues [digitChar value]) < _
    rw [last, List.length_append, List.length_singleton, pow_succ]
    omega

/-- Digits that stand behind one another. -/
theorem digitsValue_digitValues_append (front back : List Char) :
    digitsValue (digitValues (front ++ back)) =
      digitsValue (digitValues front) * 10 ^ back.length + digitsValue (digitValues back) := by
  -- What stands in front is moved by as many places as there are digits behind.
  rw [digitValues, List.map_append, digitsValue_append, List.length_map]
  rfl

/-- Zeros are worth nothing. -/
theorem digitsValue_zeros (count : Nat) :
    digitsValue (digitValues (List.replicate count '0')) = 0 := by
  -- Each zero multiplies nothing by ten and adds nothing.
  induction count with
  | zero => rfl
  | succ count ih =>
    rw [List.replicate_succ', digitsValue_digitValues_append, ih]
    rfl

/-- Zeros in front change nothing. -/
theorem digitsValue_zeros_append (count : Nat) (ds : List Char) :
    digitsValue (digitValues (List.replicate count '0' ++ ds)) = digitsValue (digitValues ds) := by
  rw [digitsValue_digitValues_append, digitsValue_zeros, Nat.zero_mul, Nat.zero_add]

/-- Zeros behind are powers of ten. -/
theorem digitsValue_append_zeros (ds : List Char) (count : Nat) :
    digitsValue (digitValues (ds ++ List.replicate count '0')) =
      digitsValue (digitValues ds) * 10 ^ count := by
  -- The zeros move the digits and add nothing of their own.
  rw [digitsValue_digitValues_append, digitsValue_zeros, List.length_replicate, Nat.add_zero]

/-- There is a digit for zero. -/
theorem allDigits_zeros (count : Nat) : AllDigits (List.replicate count '0') := by
  -- Each of the characters is the digit of zero.
  intro c member
  rw [List.eq_of_mem_replicate member]
  exact ⟨0, by decide, rfl⟩

/-- Digits that stand behind one another are digits. -/
theorem AllDigits.append (first : AllDigits front) (second : AllDigits back) :
    AllDigits (front ++ back) := fun c member =>
  (List.mem_append.mp member).elim (first c) (second c)

/-- An exponent is spelled with its letter and its sign. -/
theorem spellsPower_exponentText (power : Int) : SpellsPower (exponentText power) power := by
  -- The exponent has two digits at least, so it can begin with a zero, which changes no value.
  have digits : AllDigits (paddedDigits 2 power.natAbs) :=
    (allDigits_zeros _).append fun c member => mem_decimalDigits member
  have value : digitsValue (digitValues (paddedDigits 2 power.natAbs)) = power.natAbs := by
    rw [paddedDigits, digitsValue_zeros_append]
    exact digitsValue_decimalDigits _
  have filled : digitValues (paddedDigits 2 power.natAbs) ≠ [] := by
    simp [digitValues, paddedDigits, decimalDigits_ne_nil]
  by_cases below : power < 0
  · have spelled := SpellsPower.letter (.inl rfl) .minus digits.run filled
    rw [value, signed, if_pos rfl, Int.ofNat_natAbs_of_nonpos below.le, neg_neg] at spelled
    rw [exponentText, if_pos below]
    exact spelled
  · have spelled := SpellsPower.letter (.inl rfl) .plus digits.run filled
    rw [value, signed, if_neg Bool.false_ne_true, Int.natAbs_of_nonneg (not_lt.mp below)] at spelled
    rw [exponentText, if_neg below]
    exact spelled

/-- Digits around a point, or without one, spell the number that they are together. -/
theorem AllDigits.spells (before : AllDigits front) (behind : AllDigits back)
    (point : part = '.' :: back ∨ part = [] ∧ back = []) (powered : SpellsPower scale power)
    (filled : front ++ back ≠ []) (short : front.length + back.length ≤ 1000)
    (low : -1000 ≤ power) (high : power ≤ 1000) (negative : Bool) :
    SpellsMagnitude negative (front ++ (part ++ scale))
      (.finite negative (digitsValue (digitValues (front ++ back))) (power - back.length)) := by
  -- The point and the digits behind it are one part, which is empty where there is no point.
  have partSpelled : SpellsPart part (digitValues back) := by
    rcases point with rfl | ⟨rfl, rfl⟩
    · exact .point behind.run
    · exact .silent
  have values : digitValues (front ++ back) = digitValues front ++ digitValues back :=
    List.map_append
  have size : (digitValues back).length = back.length := List.length_map _
  -- There are no more digits in the number than were written, so it is within all limits.
  have few : digitCount (digitsValue (digitValues (front ++ back))) ≤ (front ++ back).length :=
    length_decimalDigits_le (before.append behind).value_lt (List.length_pos_iff.mpr filled)
  have spelled : SpellsMagnitude negative (front ++ (part ++ scale)) _ := .intro before.run
    partSpelled powered
    (by rw [← values]; simpa [digitValues] using filled)
    (by
      rw [← values, size]
      rw [List.length_append] at few
      unfold Decimal.largestExponent
      omega)
    (by
      rw [size]
      unfold Decimal.smallestExponent
      omega)
  rwa [← values, size] at spelled

/-- Characters that spell digits of which the first has the given power of ten, with zeros behind them. -/
def SpellsPlaced (negative : Bool) (text ds : List Char) (leading : Int) : Prop :=
  ∃ zeros : Nat, SpellsMagnitude negative text
    (.finite negative (digitsValue (digitValues ds) * 10 ^ zeros) (leading + 1 - ds.length - zeros))

/-- Digits are spelled where they are placed, whatever zeros stand before and behind them. -/
theorem AllDigits.spells_placed {leading : Int} (digits : AllDigits ds) (filled : ds ≠ [])
    (front back : List Char) (before behind : Nat)
    (parts : front ++ back = List.replicate before '0' ++ ds ++ List.replicate behind '0')
    (point : part = '.' :: back ∨ part = [] ∧ back = []) (powered : SpellsPower scale power)
    (place : power - back.length = leading + 1 - ds.length - behind)
    (short : before + ds.length + behind ≤ 1000) (low : -1000 ≤ power) (high : power ≤ 1000)
    (negative : Bool) : SpellsPlaced negative (front ++ (part ++ scale)) ds leading := by
  -- Zeros before the digits do not count, and each one behind them multiplies by ten.
  have all : AllDigits (front ++ back) :=
    parts ▸ ((allDigits_zeros before).append digits).append (allDigits_zeros behind)
  have size := congrArg List.length parts
  simp only [List.length_append, List.length_replicate] at size
  have some : front ++ back ≠ [] := by
    rw [parts]
    simp [filled]
  have spelled := AllDigits.spells (fun c member => all c (List.mem_append_left _ member))
    (fun c member => all c (List.mem_append_right _ member)) point powered some
    (by omega) low high negative
  rw [parts, place, digitsValue_append_zeros, digitsValue_zeros_append] at spelled
  exact ⟨behind, spelled⟩

variable {leading : Int}

/-- One digit before the point and an exponent spell the digits; a single digit can have a zero behind the point. -/
theorem FloatLayout.spells_scientific (layout : FloatLayout) (digits : AllDigits ds) (filled : ds ≠ [])
    (short : ds.length ≤ 100) (low : -400 ≤ leading) (high : leading ≤ 400) (negative : Bool)
    (scientific : leading < layout.smallest ∨ layout.large ≤ leading) :
    SpellsPlaced negative (layout.write ds leading) ds leading := by
  rw [write.eq_def]
  dsimp only
  rw [if_pos scientific]
  have powered := spellsPower_exponentText leading
  -- What stands behind the point is what follows the first digit, or the added zero.
  cases ds with
  | nil => contradiction
  | cons digit rest =>
    cases rest with
    | nil =>
      dsimp only
      split_ifs
      · exact digits.spells_placed filled [digit] ['0'] 0 1 rfl (.inl rfl) powered (by simp)
          (by simp) (by omega) (by omega) negative
      · exact digits.spells_placed filled [digit] [] 0 0 rfl (.inr ⟨rfl, rfl⟩) powered (by simp)
          (by simp) (by omega) (by omega) negative
    | cons second rest =>
      have place : leading - (second :: rest).length =
          leading + 1 - (digit :: second :: rest).length - (0 : Nat) := by
        simp only [List.length_cons]
        omega
      exact digits.spells_placed filled [digit] (second :: rest) 0 0 (by simp) (.inl rfl) powered
        place (by omega) (by omega) (by omega) negative

/-- A zero before the point and more zeros behind it spell the digits that follow them. -/
theorem AllDigits.spells_fraction (digits : AllDigits ds) (filled : ds ≠ []) (short : ds.length ≤ 100)
    (low : -400 ≤ leading) (before : leading < 0) (negative : Bool) :
    SpellsPlaced negative (['0'] ++ ('.' :: (List.replicate (-leading - 1).toNat '0' ++ ds))) ds leading := by
  -- There is a zero for each place between the point and the first digit.
  have place : 0 - ((List.replicate (-leading - 1).toNat '0' ++ ds).length : Int) =
      leading + 1 - ds.length - (0 : Nat) := by
    rw [List.length_append, List.length_replicate]
    omega
  have spelled := digits.spells_placed filled ['0'] (List.replicate (-leading - 1).toNat '0' ++ ds)
    ((-leading - 1).toNat + 1) 0 (by simp [List.replicate_succ]) (.inl rfl) .silent place
    (by omega) (by decide) (by decide) negative
  rwa [List.append_nil] at spelled

/-- Digits before the point, with zeros up to it and one behind it, spell themselves. -/
theorem AllDigits.spells_whole (digits : AllDigits ds) (filled : ds ≠ []) (high : leading ≤ 400)
    (whole : (ds.length : Int) ≤ leading + 1) (negative : Bool) :
    SpellsPlaced negative (ds ++ List.replicate (leading + 1 - ds.length).toNat '0' ++ ('.' :: ['0'])) ds
      leading := by
  -- The zero behind the point is one more zero behind the digits.
  have zeros : ((leading + 1 - ds.length).toNat : Int) = leading + 1 - ds.length :=
    Int.toNat_of_nonneg (by omega)
  exact digits.spells_placed filled (ds ++ List.replicate (leading + 1 - ds.length).toNat '0') ['0']
    0 ((leading + 1 - ds.length).toNat + 1) (by simp [List.replicate_succ']) (.inl rfl) .silent
    (by rw [List.length_singleton]; omega) (by omega) (by decide) (by decide) negative

/-- Digits with the point among them spell themselves. -/
theorem AllDigits.spells_pointed (digits : AllDigits ds) (filled : ds ≠ []) (short : ds.length ≤ 100)
    (before : ¬ leading < 0) (whole : ¬ (ds.length : Int) ≤ leading + 1) (negative : Bool) :
    SpellsPlaced negative (ds.take (leading + 1).toNat ++ ('.' :: ds.drop (leading + 1).toNat)) ds
      leading := by
  -- As many digits stand behind the point as are left.
  have place : 0 - ((ds.drop (leading + 1).toNat).length : Int) =
      leading + 1 - ds.length - (0 : Nat) := by
    rw [List.length_drop]
    omega
  have spelled := digits.spells_placed filled (ds.take (leading + 1).toNat)
    (ds.drop (leading + 1).toNat) 0 0 (by simp) (.inl rfl) .silent place (by omega) (by decide)
    (by decide) negative
  rwa [List.append_nil] at spelled

/-- Digits that are laid out spell themselves, with as many zeros behind them as the layout adds. -/
theorem FloatLayout.spells_write (layout : FloatLayout) (digits : AllDigits ds)
    (filled : ds ≠ []) (short : ds.length ≤ 100) (low : -400 ≤ leading) (high : leading ≤ 400)
    (negative : Bool) : SpellsPlaced negative (layout.write ds leading) ds leading := by
  by_cases scientific : leading < layout.smallest ∨ layout.large ≤ leading
  · exact layout.spells_scientific digits filled short low high negative scientific
  -- Without an exponent the point stands before the digits, behind them or among them.
  rw [write.eq_def]
  dsimp only
  rw [if_neg scientific]
  by_cases before : leading < 0
  · rw [if_pos before]
    exact digits.spells_fraction filled short low before negative
  rw [if_neg before]
  by_cases whole : (ds.length : Int) ≤ leading + 1
  · rw [if_pos whole]
    exact digits.spells_whole filled high whole negative
  · rw [if_neg whole]
    exact digits.spells_pointed filled short before whole negative

end Joinery
