import Joinery.Proofs.Time.Reading

/-! A moment is brought to universal time at its instant, where the calendar has it. -/

namespace Joinery

/-- The millionths of a second at universal time, counted as those of local times are. -/
def Moment.instant (m : Moment) : Int :=
  m.time.micros - (m.offset.map (·.val)).getD 0

variable {m : Moment} {t u : LocalTime}

/-- Local times are told apart by their numbers. -/
theorem LocalTime.micros_inj : t.micros = u.micros ↔ t = u := by
  refine ⟨fun same => ?_, fun same => same ▸ rfl⟩
  -- One number leads to one local time.
  have found := LocalTime.ofMicros?_eq_some_iff.mpr (congrArg Nat.cast same)
  rw [LocalTime.ofMicros?_eq_some_iff.mpr rfl] at found
  exact (Option.some.inj found).symm

/-- A moment is read at universal time exactly where the calendar has its instant. -/
theorem Moment.universal?_eq_some_iff : m.universal? = some t ↔ (t.micros : Int) = m.instant := by
  rw [universal?, instant]
  cases m.offset with
  | none =>
    rw [Option.map_none, Option.some.injEq, Option.getD_none, sub_zero, Nat.cast_inj,
      LocalTime.micros_inj, eq_comm]
  | some offset =>
    -- A clock that is ahead shows a later time than the universal one.
    show m.time.shift? (-offset.val) = some t ↔ _
    rw [LocalTime.shift?, LocalTime.ofMicros?_eq_some_iff, Option.map_some, Option.getD_some, sub_eq_add_neg]

/-- The first local time of the calendar. -/
def LocalTime.first : LocalTime := ⟨.first, .midnight⟩

/-- The last local time of the calendar. -/
def LocalTime.last : LocalTime := ⟨⟨⟨9999, 12, 31⟩, rfl⟩, .ofMicros (microsPerDay - 1)⟩

/-- Every number between those of the first and of the last local time is that of one. -/
theorem LocalTime.exists_micros_iff {micros : Int} :
    (∃ t : LocalTime, (t.micros : Int) = micros) ↔
      (first.micros : Int) ≤ micros ∧ micros ≤ last.micros := by
  -- The first and the last of them are computed.
  have start : first.micros = microsPerDay := by decide
  have stop : last.micros + 1 = (lastOrdinal + 1) * microsPerDay := by decide
  rw [start]
  constructor
  · rintro ⟨t, rfl⟩
    obtain ⟨begun, upTo, -⟩ := t.date.date?_ordinal
    obtain ⟨short, -⟩ := t.clock.ofMicros_micros
    simp only [LocalTime.micros, lastOrdinal, microsPerDay] at *
    omega
  · rintro ⟨begun, upTo⟩
    obtain ⟨number, rfl⟩ := Int.eq_ofNat_of_zero_le (le_trans (by decide) begun)
    norm_cast at begun upTo
    obtain ⟨t, same⟩ := exists_micros begun (by omega)
    exact ⟨t, congrArg Nat.cast same⟩

end Joinery
