import Joinery.Time.Moment
import Mathlib.Algebra.Order.Ring.Nat
import Mathlib.Data.List.GetD

/-!
The days of the calendar are numbered without gaps, and so are the millionths of its seconds.

A local time and its number determine each other; the numbers end where the calendar ends.
-/

namespace Joinery

variable {year ordinal : Nat}

/-- Four hundred times the days before a year, against the average length of a year. -/
theorem daysBeforeYear_average (year : Nat) :
    400 * daysBeforeYear year + 100 * ((year - 1) % 4) + (year - 1) % 400 =
      146097 * (year - 1) + 4 * ((year - 1) % 100) := by
  simp only [daysBeforeYear]
  generalize year - 1 = past
  have fourth := Nat.div_add_mod past 4
  have hundredth := Nat.div_add_mod past 100
  have cycle := Nat.div_add_mod past 400
  -- A year is subtracted for each century, and natural numbers end at zero.
  have fewer : past / 100 ≤ past / 4 := Nat.div_le_div_left (by decide) (by decide)
  generalize past / 4 = fours, past % 4 = four, past / 100 = hundreds, past % 100 = hundred,
    past / 400 = cycles, past % 400 = place at *
  omega

/-- A year has a day more when it has a leap day. -/
theorem daysBeforeYear_succ (first : firstYear ≤ year) :
    daysBeforeYear (year + 1) = daysBeforeYear year + if isLeapYear year then 366 else 365 := by
  obtain ⟨past, rfl⟩ : ∃ past, year = past + 1 := ⟨year - 1, by simp only [firstYear] at first; omega⟩
  -- One year more is one leap year more, unless a century takes it away and no cycle gives it back.
  have fourth : (past + 1) / 4 = past / 4 + if (past + 1) % 4 = 0 then 1 else 0 := by
    split <;> omega
  have hundredth : (past + 1) / 100 = past / 100 + if (past + 1) % 100 = 0 then 1 else 0 := by
    split <;> omega
  have cycle : (past + 1) / 400 = past / 400 + if (past + 1) % 400 = 0 then 1 else 0 := by
    split <;> omega
  have fewer : past / 100 ≤ past / 4 := Nat.div_le_div_left (by decide) (by decide)
  have century : (past + 1) % 400 = 0 → (past + 1) % 100 = 0 := by omega
  have leap : (past + 1) % 100 = 0 → (past + 1) % 4 = 0 := by omega
  simp only [daysBeforeYear, Nat.add_sub_cancel, fourth, hundredth, cycle, isLeapYear]
  generalize past / 4 = fours, past / 100 = hundreds, past / 400 = cycles at *
  by_cases byFour : (past + 1) % 4 = 0 <;> by_cases byHundred : (past + 1) % 100 = 0 <;>
    by_cases byCycle : (past + 1) % 400 = 0 <;> simp_all <;> omega

/-- The year of a day is the one whose days begin before it and do not end before it. -/
theorem yearOfOrdinal_eq (first : firstYear ≤ year) (after : daysBeforeYear year < ordinal)
    (upTo : ordinal ≤ daysBeforeYear (year + 1)) : yearOfOrdinal ordinal = year := by
  simp only [firstYear] at first
  simp only [yearOfOrdinal]
  -- Years stray from the average by less than two days, so the guess is at most one year early.
  obtain ⟨late, early⟩ : (ordinal - 1) * 400 / 146097 < year ∧
      year ≤ (ordinal - 1) * 400 / 146097 + 2 := by
    have low := daysBeforeYear_average year
    have high := daysBeforeYear_average (year + 1)
    rw [Nat.add_sub_cancel] at high
    have leap : (year - 1) % 4 < 4 := Nat.mod_lt _ (by decide)
    have cycle : (year - 1) % 400 < 400 := Nat.mod_lt _ (by decide)
    have century : year % 100 < 100 := Nat.mod_lt _ (by decide)
    have within : year % 100 ≤ year % 400 := by
      rw [← Nat.mod_mod_of_dvd year (show 100 ∣ 400 by decide)]
      exact Nat.mod_le _ _
    refine ⟨Nat.div_lt_of_lt_mul (by omega), ?_⟩
    have reached := (Nat.le_div_iff_mul_le (show 0 < 146097 by decide)).mpr
      (show (year - 2) * 146097 ≤ (ordinal - 1) * 400 by omega)
    omega
  -- The guess or the year before it is the right one, and the tests tell which.
  generalize (ordinal - 1) * 400 / 146097 = past at late early
  obtain rfl | rfl : year = past + 1 ∨ year = past + 1 + 1 := by omega
  · rw [if_neg (by omega), if_neg (by omega)]
  · have sooner : daysBeforeYear (past + 1) < ordinal := by
      rw [daysBeforeYear_succ (Nat.le_add_left 1 past)] at after
      omega
    rw [if_neg (by omega), if_pos after]

/-- A day lies in one of the years that have begun when the last of them ends. -/
theorem exists_year (begun : 1 ≤ ordinal) (upTo : ordinal ≤ daysBeforeYear (year + 1)) :
    ∃ found, firstYear ≤ found ∧ found ≤ year ∧ daysBeforeYear found < ordinal ∧
      ordinal ≤ daysBeforeYear (found + 1) := by
  induction year with
  | zero =>
    have none : daysBeforeYear (0 + 1) = 0 := by decide
    omega
  | succ year ih =>
    -- The day lies in the last year, or before it.
    by_cases sooner : ordinal ≤ daysBeforeYear (year + 1)
    · obtain ⟨found, first, last, inside⟩ := ih sooner
      exact ⟨found, first, by omega, inside⟩
    · exact ⟨year + 1, Nat.le_add_left 1 year, le_rfl, by omega, upTo⟩

/-- The months of a year have all its days. -/
theorem sum_monthLengths (first : firstYear ≤ year) :
    daysBeforeYear (year + 1) = daysBeforeYear year + (monthLengths year).sum := by
  -- February has the day that a leap year has more.
  rw [daysBeforeYear_succ first, monthLengths]
  cases isLeapYear year <;> simp

/-- The days before a month are those of the months before it. -/
theorem daysBeforeMonth_eq (year month : Nat) :
    daysBeforeMonth year month = ((monthLengths year).take (month - 1)).sum := by
  rw [daysBeforeMonth, List.sum_eq_foldl]

/-- Days are told off month by month until they fit into one. -/
theorem monthAndDay_eq {lengths : List Nat} {months first day : Nat}
    (inside : months < lengths.length) (begun : 1 ≤ day) (upTo : day ≤ lengths[months]) :
    monthAndDay lengths first ((lengths.take months).sum + day) = (first + months, day) := by
  -- The induction is on the months; each of them is taken off before the next.
  induction lengths generalizing months first with
  | nil => exact absurd inside (Nat.not_lt_zero _)
  | cons length rest ih =>
    cases months with
    | zero =>
      rw [List.getElem_cons_zero] at upTo
      rw [List.take_zero, List.sum_nil, Nat.zero_add, monthAndDay, if_pos upTo, Nat.add_zero]
    | succ months =>
      have later : monthAndDay rest (first + 1) ((rest.take months).sum + day) =
          (first + 1 + months, day) := ih (Nat.lt_of_succ_lt_succ inside) upTo
      rw [List.take_succ_cons, List.sum_cons, monthAndDay, if_neg (by omega), Nat.add_assoc,
        Nat.add_sub_cancel_left, later, Nat.add_right_comm, Nat.add_assoc]

/-- The days of some months lie each in one of them. -/
theorem exists_month {lengths : List Nat} {days : Nat} (begun : 1 ≤ days)
    (upTo : days ≤ lengths.sum) : ∃ months day, ∃ inside : months < lengths.length,
      1 ≤ day ∧ day ≤ lengths[months] ∧ days = (lengths.take months).sum + day := by
  -- The first month has the days, or the months behind it have what is left.
  induction lengths generalizing days with
  | nil =>
    rw [List.sum_nil] at upTo
    omega
  | cons length rest ih =>
    rw [List.sum_cons] at upTo
    by_cases here : days ≤ length
    · exact ⟨0, days, Nat.zero_lt_succ _, begun, here, by simp⟩
    · have left : 1 ≤ days - length := by omega
      obtain ⟨months, day, inside, positive, within, same⟩ := ih left (by omega)
      refine ⟨months + 1, day, Nat.succ_lt_succ inside, positive, within, ?_⟩
      rw [List.take_succ_cons, List.sum_cons]
      omega

/-- A day is real when the calendar has its year, and the year a month that is long enough. -/
theorem DayReading.isReal_iff {d : DayReading} :
    d.isReal = true ↔ (firstYear ≤ d.year ∧ d.year ≤ lastYear) ∧
      ∃ months, ∃ inside : months < (monthLengths d.year).length,
        d.month = months + 1 ∧ 1 ≤ d.day ∧ d.day ≤ (monthLengths d.year)[months] := by
  -- The check counts months from one, and their lengths are counted from zero.
  simp only [isReal, Bool.and_eq_true, decide_eq_true_eq]
  constructor
  · rintro ⟨⟨⟨⟨⟨first, last⟩, low⟩, high⟩, begun⟩, upTo⟩
    have inside : d.month - 1 < (monthLengths d.year).length := by
      show d.month - 1 < 12
      omega
    rw [daysInMonth, List.getD_eq_getElem _ _ inside] at upTo
    exact ⟨⟨first, last⟩, d.month - 1, inside, by omega, begun, upTo⟩
  · rintro ⟨years, months, inside, named, begun, upTo⟩
    have twelve : months < 12 := inside
    rw [named, daysInMonth, Nat.add_sub_cancel, List.getD_eq_getElem _ _ inside]
    exact ⟨⟨⟨⟨years, by omega⟩, by omega⟩, begun⟩, upTo⟩

/-- The number of a day counts the days before its year and those of its year. -/
theorem DayReading.ordinal_eq (year months day : Nat) :
    DayReading.ordinal ⟨year, months + 1, day⟩ =
      daysBeforeYear year + (((monthLengths year).take months).sum + day) := by
  -- The month is looked up by its place.
  rw [ordinal, daysBeforeMonth_eq, Nat.add_sub_cancel, Nat.add_assoc]

/-- The days of a month lie in its year. -/
theorem sum_take_monthLengths {months day : Nat} (inside : months < (monthLengths year).length)
    (upTo : day ≤ (monthLengths year)[months]) :
    ((monthLengths year).take months).sum + day ≤ (monthLengths year).sum := by
  -- The year is split at the month.
  have parts := congrArg List.sum (List.take_append_drop months (monthLengths year))
  rw [List.sum_append, List.drop_eq_getElem_cons inside, List.sum_cons] at parts
  omega

/-- A later year has more days before it. -/
theorem daysBeforeYear_mono {later : Nat} (first : firstYear ≤ year) (before : year ≤ later) :
    daysBeforeYear year ≤ daysBeforeYear later := by
  -- The induction is on the years between the two.
  induction before with
  | refl => exact le_rfl
  | step before ih =>
    rw [daysBeforeYear_succ (first.trans before)]
    omega

/-- The calendar ends with its last year. -/
theorem daysBeforeYear_last : daysBeforeYear (lastYear + 1) = lastOrdinal := by decide

/-- The numbers of a real day have a number in the calendar, and are found by it. -/
theorem DayReading.ofOrdinal_ordinal {d : DayReading} (real : d.isReal = true) :
    1 ≤ d.ordinal ∧ d.ordinal ≤ lastOrdinal ∧ ofOrdinal d.ordinal = d := by
  obtain ⟨year, month, day⟩ := d
  obtain ⟨⟨first, last⟩, months, inside, named, begun, upTo⟩ := isReal_iff.mp real
  dsimp only at first last inside named begun upTo
  subst named
  have counted := ordinal_eq year months day
  have within := sum_take_monthLengths inside upTo
  have whole := sum_monthLengths first
  have ends := daysBeforeYear_mono (Nat.le_add_left 1 year) (Nat.succ_le_succ last)
  rw [daysBeforeYear_last] at ends
  refine ⟨by omega, by omega, ?_⟩
  -- The year is found first, and then the month and the day among the days of the year.
  have found : yearOfOrdinal (ordinal ⟨year, months + 1, day⟩) = year :=
    yearOfOrdinal_eq first (by omega) (by omega)
  simp only [ofOrdinal, found]
  rw [counted, Nat.add_sub_cancel_left, monthAndDay_eq inside begun upTo, Nat.add_comm 1]

/-- A day of the calendar has a number in it, and is the day with that number. -/
theorem Date.date?_ordinal (d : Date) :
    1 ≤ d.ordinal ∧ d.ordinal ≤ lastOrdinal ∧ (DayReading.ofOrdinal d.ordinal).date? = some d := by
  -- The reading of its number finds the day, and the day is real.
  obtain ⟨begun, upTo, found⟩ := DayReading.ofOrdinal_ordinal d.real
  exact ⟨begun, upTo, by rw [found]; exact dif_pos d.real⟩

example : (default : Date).ordinal = 1 ∧ DayReading.ordinal ⟨9999, 12, 31⟩ = lastOrdinal := by decide

/-- Each number of the calendar is that of a day. -/
theorem Date.exists_ordinal (begun : 1 ≤ ordinal) (upTo : ordinal ≤ lastOrdinal) :
    ∃ d : Date, d.ordinal = ordinal := by
  -- The year is found first, and then the month in it.
  rw [← daysBeforeYear_last] at upTo
  obtain ⟨year, first, last, after, before⟩ := exists_year begun upTo
  rw [sum_monthLengths first] at before
  obtain ⟨months, day, inside, positive, within, same⟩ :=
    exists_month (show 1 ≤ ordinal - daysBeforeYear year by omega)
      (show _ ≤ (monthLengths year).sum by omega)
  refine ⟨⟨⟨year, months + 1, day⟩,
    DayReading.isReal_iff.mpr ⟨⟨first, last⟩, months, inside, rfl, positive, within⟩⟩, ?_⟩
  rw [DayReading.ordinal_eq]
  omega

/-- A time of day is found by the millionths since midnight, and they make less than a day. -/
theorem Clock.ofMicros_micros (c : Clock) :
    c.micros < microsPerDay ∧ Clock.ofMicros c.micros = c := by
  -- Hours, minutes, seconds and millionths are digits of different places.
  obtain ⟨⟨hour, hours⟩, ⟨minute, minutes⟩, ⟨second, seconds⟩, ⟨micro, micros⟩⟩ := c
  constructor
  · dsimp only [Clock.micros, microsPerSecond, microsPerDay]
    omega
  · simp only [Clock.ofMicros, Clock.micros, Clock.mk.injEq, Fin.ext_iff, Fin.val_ofNat, microsPerSecond]
    omega

/-- Fewer millionths than a day has are those since midnight at some time of day. -/
theorem Clock.micros_ofMicros {micros : Nat} (inside : micros < microsPerDay) :
    (Clock.ofMicros micros).micros = micros := by
  -- Each part is what the division leaves.
  simp only [Clock.ofMicros, Clock.micros, Fin.val_ofNat]
  dsimp only [microsPerSecond, microsPerDay] at *
  omega

/-- A local time is found by its number. -/
theorem LocalTime.ofMicros?_micros (t : LocalTime) : ofMicros? t.micros = some t := by
  obtain ⟨begun, upTo, found⟩ := t.date.date?_ordinal
  obtain ⟨short, same⟩ := t.clock.ofMicros_micros
  -- The day comes from the quotient, and the time of day from the remainder.
  have counted : t.micros = microsPerDay * t.date.ordinal + t.clock.micros := by
    rw [micros, Nat.mul_comm]
  have whole : t.micros / microsPerDay = t.date.ordinal := by
    rw [counted, Nat.mul_add_div (by decide), Nat.div_eq_of_lt short, Nat.add_zero]
  have part : t.micros % microsPerDay = t.clock.micros := by
    rw [counted, Nat.mul_add_mod, Nat.mod_eq_of_lt short]
  have inside : ¬ ((t.micros : Int) < microsPerDay ∨
      ((lastOrdinal + 1) * microsPerDay : Int) ≤ t.micros) := by
    simp only [microsPerDay, lastOrdinal] at *
    omega
  simp only [ofMicros?]
  rw [if_neg inside, Int.toNat_natCast, whole, part, found, same]
  rfl

/-- Each number from the first day of the calendar to the last one is that of a local time. -/
theorem LocalTime.exists_micros {number : Nat} (begun : microsPerDay ≤ number)
    (upTo : number < (lastOrdinal + 1) * microsPerDay) : ∃ t : LocalTime, t.micros = number := by
  -- The day is the quotient, and the time of day is what is left.
  have reached : 1 ≤ number / microsPerDay :=
    (Nat.le_div_iff_mul_le (by decide)).mpr (by rwa [Nat.one_mul])
  obtain ⟨date, counted⟩ := Date.exists_ordinal reached
    (Nat.lt_succ_iff.mp (Nat.div_lt_of_lt_mul (by rwa [Nat.mul_comm])))
  refine ⟨⟨date, Clock.ofMicros (number % microsPerDay)⟩, ?_⟩
  rw [micros, counted, Clock.micros_ofMicros (Nat.mod_lt number (by decide)), Nat.div_add_mod']

/-- A local time is found by a number exactly when it has that number. -/
theorem LocalTime.ofMicros?_eq_some_iff {t : LocalTime} {micros : Int} :
    LocalTime.ofMicros? micros = some t ↔ (t.micros : Int) = micros := by
  refine ⟨fun found => ?_, fun same => same ▸ t.ofMicros?_micros⟩
  have refused := found
  rw [ofMicros?] at refused
  split at refused
  · contradiction
  rename_i inside
  rw [not_or, not_lt, not_le] at inside
  obtain ⟨begun, upTo⟩ := inside
  obtain ⟨number, rfl⟩ := Int.eq_ofNat_of_zero_le (le_trans (by decide) begun)
  -- The number is that of some local time, which is the one that was found.
  obtain ⟨other, rfl⟩ := exists_micros (Int.ofNat_le.mp begun) (Int.ofNat_lt.mp upTo)
  cases found.symm.trans other.ofMicros?_micros
  rfl

end Joinery
