import Joinery.Proofs.Schema.WholeNumbers
import Joinery.Proofs.Text.Trimming
import Joinery.Proofs.Time.Seconds

/-!
A value that names an instant becomes the universal time of that instant.

Texts are read back as the moments that they were written for, and whatever names an instant of the calendar
is bound as its local time at universal time; outside the calendar nothing is bound.
-/

namespace Joinery

/-- The instants that values name, in millionths of a second. -/
inductive Value.Names : Value → ℚ → Prop where
  /-- A moment names its own. -/
  | moment (m : Moment) : Names (.moment m) m.instant
  /-- A text names that of the moment that is read from it. -/
  | text {s : String} {m : Moment} (read : Moment.ofIso (zonedText s) = .ok m) : Names (.text s) m.instant
  /-- A day names its beginning. -/
  | day (d : Date) : Names (.date d) (LocalTime.mk d .midnight).micros
  /-- A whole number names that many seconds after the start of 1970. -/
  | seconds (n : Int) : Names (.int n) (epoch.micros + n * microsPerSecond)
  /-- A floating-point number names seconds as well, and a fraction of one. -/
  | fraction (negative : Bool) {mantissa : Nat} {exponent : Int} (held : IsBinary64 mantissa exponent) :
    Names (.float (.finite negative mantissa exponent held))
      (epoch.micros + signed negative mantissa * 2 ^ exponent * microsPerSecond)

variable {levels : Nat} {field : String} {value other : Value} {m : Moment} {t : LocalTime} {instant : ℚ}
  {front mark back word : List Char}

/-- A plain text ends in no mark of universal time. -/
theorem IsPlain.getLast? (plain : IsPlain word) :
    word.getLast? ≠ some 'Z' ∧ word.getLast? ≠ some 'z' := by
  -- No character of a plain text is such a mark.
  have last {c : Char} (ends : word.getLast? = some c) := plain c (List.mem_of_getLast? ends)
  exact ⟨fun ends => (last ends).2.2.1 rfl, fun ends => (last ends).2.2.2 rfl⟩

/-- A plain text is kept when the blanks around it are left out. -/
theorem zonedText_plain (plain : IsPlain word) (before : AllBlank front) (behind : AllBlank back) :
    zonedText (String.ofList (front ++ word ++ back)) = String.ofList word := by
  -- Trimming stops at the first character that is no blank, and there is no mark to be replaced.
  have dark : ∀ c ∈ word, isBlank c = false := fun c member => (plain c member).2.1
  have last := plain.getLast?
  simp only [zonedText, String.toList_ofList, trimChars_of_blanks before dark behind, last.1, last.2,
    or_self, if_false]

/-- A mark of universal time behind a plain text is written as an offset of nothing. -/
theorem zonedText_marked {c : Char} (plain : IsPlain word) (letter : c = 'Z' ∨ c = 'z')
    (before : AllBlank front) (behind : AllBlank back) :
    zonedText (String.ofList (front ++ (word ++ [c]) ++ back)) = String.ofList (word ++ offsetText 0) := by
  have dark : ∀ d ∈ word ++ [c], isBlank d = false := by
    intro d member
    rcases List.mem_append.mp member with inside | last
    · exact (plain d inside).2.1
    · rw [List.mem_singleton.mp last]
      rcases letter with rfl | rfl <;> decide
  -- The mark is the last character that is left, and an offset takes its place.
  have zero : offsetText 0 = "+00:00".toList := by decide +kernel
  have last : (word ++ [c]).getLast? = some c := by simp
  rw [zonedText, String.toList_ofList, trimChars_of_blanks before dark behind, last, zero]
  simp only [Option.some.injEq, letter, if_true, List.dropLast_concat]

/-- A value that is not null is bound as the moment that it is converted to. -/
theorem coerce_datetime_eq_ok_iff (given : value.isNull = false) {bound : BoundValue} :
    coerce levels field .datetime value = .ok bound ↔ ∃ t, bound = .moment t ∧ value.toMoment = .ok t := by
  -- What is bound is made by the conversion, and by nothing else.
  rw [coerce_of_given given, Value.convert, map_eq_ok]
  exact exists_congr fun t => by rw [and_comm, eq_comm]

/-- A moment is converted to the local time of its instant. -/
theorem Moment.toUniversal_eq_ok_iff : m.toUniversal = .ok t ↔ (t.micros : Int) = m.instant := by
  rw [← Moment.universal?_eq_some_iff, toUniversal]
  cases m.universal? <;> simp

/-- What names an instant of whole millionths is converted to its local time, where the calendar has it. -/
theorem Value.Names.toMoment_eq_ok_iff {micros : Int} (names : value.Names instant)
    (whole : instant = micros) :
    value.toMoment = .ok t ↔ (t.micros : Int) = micros := by
  -- Each kind of value has its own way to the local time, and all of them count millionths.
  cases names with
  | moment m =>
    rw [← Int.cast_inj.mp whole]
    exact Moment.toUniversal_eq_ok_iff
  | text read =>
    rw [← Int.cast_inj.mp whole, Value.toMoment, read]
    exact Moment.toUniversal_eq_ok_iff
  | day d =>
    have same : ((LocalTime.mk d .midnight).micros : Int) = micros := by exact_mod_cast whole
    rw [Value.toMoment, Except.ok.injEq, ← same, Nat.cast_inj, LocalTime.micros_inj, eq_comm]
  | seconds n =>
    have same : (epoch.micros : Int) + (n * microsPerSecond + (0 : Nat)) = micros := by
      rw [Nat.cast_zero, add_zero]
      exact_mod_cast whole
    rw [Value.toMoment, mapError_eq_ok, LocalTime.ofEpochSeconds_eq_ok_iff (by decide), same]
  | @fraction negative mantissa exponent _ =>
    have span : (signed negative mantissa : ℚ) * 2 ^ exponent * microsPerSecond =
        (micros - epoch.micros : Int) := by
      push_cast
      rw [← whole, add_sub_cancel_left]
    rw [Value.toMoment, mapError_eq_ok, LocalTime.ofEpochFloat_eq_ok_iff span, add_sub_cancel]

/-- Only floating-point numbers name anything between two millionths. -/
theorem Value.Names.whole_or_fraction (names : value.Names instant) :
    (∃ micros : Int, instant = micros) ∨ ∃ negative mantissa exponent held,
      value = .float (.finite negative mantissa exponent held) ∧
      instant = epoch.micros + signed negative mantissa * 2 ^ exponent * microsPerSecond := by
  -- Every other kind counts in whole millionths or in whole seconds.
  cases names with
  | moment | text => exact .inl ⟨_, rfl⟩
  | day d => exact .inl ⟨(LocalTime.mk d .midnight).micros, (Int.cast_natCast _).symm⟩
  | seconds n => exact .inl ⟨epoch.micros + n * microsPerSecond, by push_cast; rfl⟩
  | fraction negative held => exact .inr ⟨negative, _, _, held, rfl, rfl⟩

/-- Values that name one instant are converted to one local time, or refused alike. -/
theorem Value.Names.toOption_toMoment (names : value.Names instant) (others : other.Names instant) :
    value.toMoment.toOption = other.toMoment.toOption := by
  -- Whole millionths determine the local time, whatever kind of value names them.
  have ofWhole {micros : Int} (whole : instant = micros) :
      value.toMoment.toOption = other.toMoment.toOption := by
    refine Option.ext fun t => ?_
    have found {converted : Except CoercionFault LocalTime} :
        converted.toOption = some t ↔ converted = .ok t :=
      ⟨eq_ok_of_toOption, fun success => success ▸ rfl⟩
    rw [found, found, names.toMoment_eq_ok_iff whole, others.toMoment_eq_ok_iff whole]
  rcases names.whole_or_fraction with ⟨micros, whole⟩ | ⟨negative, mantissa, exponent, _, rfl, first⟩
  · exact ofWhole whole
  rcases others.whole_or_fraction with ⟨micros, whole⟩ | ⟨_, _, _, _, rfl, second⟩
  · exact ofWhole whole
  -- Two floating-point numbers of seconds are equal, whatever their representations.
  have equal := first.symm.trans second
  rw [add_right_inj, mul_left_inj' (by norm_num [microsPerSecond])] at equal
  by_cases zero : (signed negative mantissa : ℚ) * 2 ^ exponent = 0
  · rw [zero, zero_mul, add_zero] at first
    exact ofWhole (first.trans (Int.cast_natCast _).symm)
  · rw [Value.toMoment, Value.toMoment, LocalTime.ofEpochFloat_congr equal zero]

/-- No value that names an instant is null. -/
theorem Value.Names.isNull (names : value.Names instant) : value.isNull = false := by
  cases names <;> rfl

/-- Values that name one instant are bound to one value, or refused alike. -/
theorem Value.Names.toOption_coerce (names : value.Names instant) (others : other.Names instant) :
    (coerce levels field .datetime value).toOption = (coerce levels field .datetime other).toOption := by
  -- Binding is converting, and a value that names an instant is not null.
  have bound {value : Value} (given : value.isNull = false) :
      (coerce levels field .datetime value).toOption = value.toMoment.toOption.map .moment := by
    rw [coerce, bindValue_of_given given, Value.convert]
    cases value.toMoment <;> rfl
  rw [bound names.isNull, bound others.isNull, names.toOption_toMoment others]

/-- A text that is written for a moment names its instant. -/
theorem Moment.names_isoText (whole : ∀ o ∈ m.offset, IsWholeMinutes o) :
    (Value.text m.isoText).Names m.instant := by
  -- The text is plain, so nothing is taken off it before it is read.
  refine .text ?_
  have plain : zonedText (String.ofList ([] ++ m.textWith 'T' ++ [])) = _ :=
    zonedText_plain m.isPlain_textWith nofun nofun
  rw [List.nil_append, List.append_nil] at plain
  rw [isoText, plain]
  exact Moment.ofIso_isoText whole

/-- The text of a local time is read as it is, or as one that is marked as universal time. -/
theorem zonedText_local (t : LocalTime) (before : AllBlank front) (behind : AllBlank back)
    (marked : mark ∈ [[], ['Z'], ['z']]) : ∃ offset : Option Offset, (∀ o ∈ offset, o.val = 0) ∧
      zonedText (String.ofList (front ++ ((Moment.mk t none).textWith 'T' ++ mark) ++ back)) =
        (Moment.mk t offset).isoText := by
  -- Without a mark there is no offset, and with one there is the offset of nothing.
  have plain := (Moment.mk t none).isPlain_textWith
  let universal : Offset := ⟨0, by decide⟩
  have zoned : (Moment.mk t none).textWith 'T' ++ offsetText 0 =
      (Moment.mk t (some universal)).textWith 'T' := by
    simp [Moment.textWith, universal]
  simp only [List.mem_cons, List.not_mem_nil, or_false] at marked
  rcases marked with rfl | rfl | rfl
  · exact ⟨none, by simp, by rw [List.append_nil, zonedText_plain plain before behind, Moment.isoText]⟩
  · refine ⟨some universal, by simp [universal], ?_⟩
    rw [zonedText_marked plain (.inl rfl) before behind, zoned, Moment.isoText]
  · refine ⟨some universal, by simp [universal], ?_⟩
    rw [zonedText_marked plain (.inr rfl) before behind, zoned, Moment.isoText]

/-- A text of a local time is bound as it, with blanks around it and with a mark of universal time or without. -/
theorem coerce_text_local (t : LocalTime) (before : AllBlank front) (behind : AllBlank back)
    (marked : mark ∈ [[], ['Z'], ['z']]) :
    coerce levels field .datetime (.text (String.ofList
      (front ++ ((Moment.mk t none).isoText.toList ++ mark) ++ back))) = .ok (.moment t) := by
  rw [Moment.isoText, String.toList_ofList]
  obtain ⟨offset, zero, zoned⟩ := zonedText_local t before behind marked
  -- An offset of nothing is one of whole minutes, and moves nothing.
  have wholeMinutes : ∀ o ∈ offset, IsWholeMinutes o := fun o given => zero o given ▸ dvd_zero _
  have read : Moment.ofIso (Moment.mk t offset).isoText = .ok ⟨t, offset⟩ :=
    Moment.ofIso_isoText wholeMinutes
  rw [← zoned] at read
  have instant : (Moment.mk t offset).instant = t.micros := by
    cases offset with
    | none => simp [Moment.instant]
    | some o => simp [Moment.instant, zero o rfl]
  exact (coerce_datetime_eq_ok_iff rfl).mpr
    ⟨t, rfl, ((Value.Names.text read).toMoment_eq_ok_iff rfl).mpr instant.symm⟩

/--
A value that names an instant is bound as the local time of that instant at universal time.

The text of a local time is bound as it, with blanks around it and with a mark of universal time or without. A
moment and its text are bound alike, and both are refused exactly where the instant lies before the first local
time of the calendar or after the last one. So are any two values that name one instant, and whatever is bound
has no offset.
-/
theorem coerce_datetime_instant (levels : Nat) (field : String) :
    (∀ (t : LocalTime) front back mark, AllBlank front → AllBlank back →
      mark ∈ [[], ['Z'], ['z']] →
      coerce levels field .datetime (.text (String.ofList
        (front ++ ((Moment.mk t none).isoText.toList ++ mark) ++ back))) = .ok (.moment t)) ∧
    (∀ m : Moment, (∀ o ∈ m.offset, IsWholeMinutes o) →
      ∀ value ∈ [Value.moment m, .text m.isoText],
        (∀ bound, coerce levels field .datetime value = .ok bound ↔
          ∃ t : LocalTime, bound = .moment t ∧ (t.micros : Int) = m.instant) ∧
        ((∃ error, coerce levels field .datetime value = .error (.conversion error) ∧
            error.field = field ∧ error.type = "datetime" ∧ error.value = value) ↔
          m.instant < LocalTime.first.micros ∨ LocalTime.last.micros < m.instant)) ∧
    (∀ value other instant, value.Names instant → other.Names instant →
      (coerce levels field .datetime value).toOption = (coerce levels field .datetime other).toOption) ∧
    ∀ value bound, coerce levels field .datetime value = .ok bound →
      bound.toValue = .null ∨ ∃ t, bound.toValue = .moment ⟨t, none⟩ := by
  refine ⟨fun t front back mark before behind marked => coerce_text_local t before behind marked,
    ?_, fun value other instant names others => names.toOption_coerce others, ?_⟩
  · intro m whole value given
    have names : value.Names m.instant := by
      simp only [List.mem_cons, List.not_mem_nil, or_false] at given
      rcases given with rfl | rfl
      · exact .moment m
      · exact Moment.names_isoText whole
    -- A moment and a text are always shown.
    have showable : value.Showable levels := by
      simp only [List.mem_cons, List.not_mem_nil, or_false] at given
      rcases given with rfl | rfl <;> refine ⟨Nat.zero_le _, fun n number => ?_⟩ <;> cases number
    have bounds (bound : BoundValue) : coerce levels field .datetime value = .ok bound ↔
        ∃ t : LocalTime, bound = .moment t ∧ (t.micros : Int) = m.instant := by
      rw [coerce_datetime_eq_ok_iff names.isNull]
      exact exists_congr fun t => and_congr_right fun _ => names.toMoment_eq_ok_iff rfl
    refine ⟨bounds, ?_⟩
    -- What is not bound is refused, and that is where the calendar has no such local time.
    have inside : _ ↔ (_ ≤ m.instant ∧ m.instant ≤ _) := LocalTime.exists_micros_iff
    cases coerced : bindValue levels field .datetime value with
    | ok bound =>
      rw [coerce_eq_ok_iff.mpr coerced]
      obtain ⟨t, -, found⟩ := (bounds bound).mp (coerce_eq_ok_iff.mpr coerced)
      have := inside.mp ⟨t, found⟩
      exact iff_of_false nofun (by omega)
    | error error =>
      have told := coerce_eq_conversion_iff.mpr ⟨coerced, showable⟩
      refine iff_of_true ⟨error, told, bindValue_error coerced⟩ ?_
      by_contra within
      obtain ⟨t, found⟩ := inside.mpr (by omega)
      cases told.symm.trans ((bounds (.moment t)).mpr ⟨t, rfl, found⟩)
  -- What is bound is a local time, unless it was null.
  · intro value bound coerced
    by_cases null : value.isNull = true
    · rw [coerce, bindValue, if_pos null] at coerced
      cases coerced
      exact .inl rfl
    · obtain ⟨t, rfl, -⟩ := (coerce_datetime_eq_ok_iff (Bool.eq_false_iff.mpr null)).mp coerced
      exact .inr ⟨t, rfl⟩

/-- A clock that is an hour ahead of universal time. -/
def hourAhead : Offset := ⟨3600000000, by decide⟩

/-- Half past midnight after a leap day, on a clock that is an hour ahead. -/
def leapNight : Moment := ⟨⟨⟨⟨2024, 3, 1⟩, rfl⟩, .ofMicros (30 * 60 * microsPerSecond + 1)⟩, some hourAhead⟩

/-- The same instant at universal time. -/
def leapEvening : LocalTime := ⟨⟨⟨2024, 2, 29⟩, rfl⟩, .ofMicros (microsPerDay - 30 * 60 * microsPerSecond + 1)⟩

/--
Half past midnight on a clock an hour ahead is still the leap day at universal time.

The first midnight that such a clock shows lies before the calendar, and is refused.
-/
theorem leapDay_coerced :
    (∀ o ∈ leapNight.offset, IsWholeMinutes o) ∧
    leapNight.isoText = "2024-03-01T00:30:00.000001+01:00" ∧
    coerce 9 "at" .datetime (.text "2024-03-01T00:30:00.000001+01:00") = .ok (.moment leapEvening) ∧
    coerce 9 "at" .datetime (.text "\t2024-02-29T23:30:00.000001z ") = .ok (.moment leapEvening) ∧
    (Value.int 0).Names epoch.micros ∧ (Value.date epoch.date).Names epoch.micros ∧
    (coerce 9 "at" .datetime (.int 0)).toOption = (coerce 9 "at" .datetime (.date epoch.date)).toOption ∧
    ∃ error, coerce 9 "at" .datetime (.moment ⟨.first, some hourAhead⟩) =
      .error (.conversion error) ∧ error.field = "at" := by
  -- The offset is one of sixty minutes.
  have whole : ∀ o ∈ some hourAhead, IsWholeMinutes o := by
    rintro o ⟨⟩
    exact ⟨60, by decide⟩
  have text : leapNight.isoText = "2024-03-01T00:30:00.000001+01:00" := by decide +kernel
  obtain ⟨locals, moments, same, -⟩ := coerce_datetime_instant 9 "at"
  have number : (Value.int 0).Names epoch.micros := by
    have zero := Value.Names.seconds 0
    rwa [Int.cast_zero, zero_mul, add_zero] at zero
  have day : (Value.date epoch.date).Names epoch.micros := .day epoch.date
  -- The theorem reads the text of the moment, the marked text, and the two values of one instant.
  refine ⟨whole, text, ?_, ?_, number, day, same _ _ _ number day, ?_⟩
  · rw [← text]
    exact ((moments leapNight whole _ (by simp)).1 _).mpr ⟨_, rfl, by decide +kernel⟩
  · have written : String.ofList (['\t'] ++ ((Moment.mk leapEvening none).isoText.toList ++ ['z']) ++ [' ']) =
        "\t2024-02-29T23:30:00.000001z " := by decide +kernel
    rw [← written]
    exact locals _ _ _ _ (List.all_iff_forall_prop.mp (by decide))
      (List.all_iff_forall_prop.mp (by decide)) (by simp)
  · obtain ⟨error, refused, field, -⟩ := (moments ⟨.first, some hourAhead⟩ whole _ List.mem_cons_self).2.mpr
      (.inl (by decide +kernel))
    exact ⟨error, refused, field⟩

end Joinery
