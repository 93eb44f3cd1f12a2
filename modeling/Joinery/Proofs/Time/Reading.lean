import Joinery.Proofs.Number.Layout
import Joinery.Proofs.Outcome
import Joinery.Proofs.Time.Calendar
import Joinery.Time.Iso

/-! A moment in the standard form is read back as it was, part by part. -/

namespace Joinery

variable {cs rest following : List Char} {width n count : Nat} {c : Clock} {d : DayReading} {t : LocalTime}

/-- Digits are read as their number, behind the number that was read before them. -/
theorem AllDigits.takeDigits? (digits : AllDigits cs) (value : Nat) (rest : List Char) :
    takeDigits? cs.length value (cs ++ rest) =
      some (value * 10 ^ cs.length + digitsValue (digitValues cs), rest) := by
  have read : ∀ value < 10, asciiDigit? (digitChar value) = some value ∧
      (digitChar value).toNat - 48 = value := by decide
  induction cs generalizing value with
  | nil => simp [Joinery.takeDigits?, digitValues, digitsValue]
  | cons c cs ih =>
    obtain ⟨digit, small, rfl⟩ := digits c List.mem_cons_self
    -- The first digit is worth its place among all of them.
    have weighed := digitsValue_digitValues_append [digitChar digit] cs
    have first : digitsValue (digitValues [digitChar digit]) = digit := by
      rw [digitValues, List.map_singleton, (read digit small).2, digitsValue]
      simp
    rw [first, List.singleton_append] at weighed
    rw [List.length_cons, List.cons_append, Joinery.takeDigits?, (read digit small).1]
    dsimp only
    rw [ih (fun c member => digits c (List.mem_cons_of_mem _ member)), weighed, pow_succ]
    congr 2
    ring

/-- Nothing but digits is written for a number. -/
theorem allDigits_paddedDigits (width n : Nat) : AllDigits (paddedDigits width n) :=
  (allDigits_zeros _).append fun _ member => mem_decimalDigits member

/-- A number that fits is written in exactly as many digits as the width. -/
theorem length_paddedDigits (small : n < 10 ^ width) (positive : 0 < width) :
    (paddedDigits width n).length = width := by
  -- The digits are too few, and zeros fill up the width.
  have short := length_decimalDigits_le small positive
  rw [paddedDigits, List.length_append, List.length_replicate]
  omega

/-- A number that was written in digits of a width is read back. -/
theorem takeDigits?_paddedDigits (small : n < 10 ^ width) (positive : 0 < width)
    (rest : List Char) : takeDigits? width 0 (paddedDigits width n ++ rest) = some (n, rest) := by
  -- As many digits are read as were written, and the zeros in front add nothing.
  have read := (allDigits_paddedDigits width n).takeDigits? 0 rest
  rw [length_paddedDigits small positive, Nat.zero_mul, Nat.zero_add] at read
  rw [read, paddedDigits, digitsValue_zeros_append]
  exact congrArg (fun value => some (value, rest)) (digitsValue_decimalDigits n)

/-- A character of ASCII that is no blank and does not mark universal time. -/
def IsPlainCharacter (c : Char) : Prop :=
  c.toNat < 128 ∧ isBlank c = false ∧ c ≠ 'Z' ∧ c ≠ 'z'

instance : DecidablePred IsPlainCharacter := fun _ => inferInstanceAs (Decidable (_ ∧ _))

/-- Characters that are all plain. -/
def IsPlain (cs : List Char) : Prop :=
  ∀ c ∈ cs, IsPlainCharacter c

@[simp] theorem isPlain_nil : IsPlain [] := nofun

@[simp] theorem isPlain_append {front back : List Char} :
    IsPlain (front ++ back) ↔ IsPlain front ∧ IsPlain back := List.forall_mem_append

@[simp] theorem isPlain_cons {mark : Char} :
    IsPlain (mark :: cs) ↔ IsPlainCharacter mark ∧ IsPlain cs :=
  List.forall_mem_cons

/-- Digits are plain. -/
@[simp] theorem isPlain_paddedDigits (width n : Nat) : IsPlain (paddedDigits width n) := by
  -- The ten digits are plain.
  have plain : ∀ value < 10, IsPlainCharacter (digitChar value) := by decide
  intro c member
  obtain ⟨value, small, rfl⟩ := allDigits_paddedDigits width n c member
  exact plain value small

/-- A plain character is one unit. -/
theorem IsPlain.flatMap_byteUnits (plain : IsPlain cs) : cs.flatMap byteUnits = cs := by
  -- Character by character.
  induction cs with
  | nil => rfl
  | cons c cs ih =>
    obtain ⟨first, rest⟩ := isPlain_cons.mp plain
    rw [List.flatMap_cons, ih rest, byteUnits, if_pos first.1, List.singleton_append]

/-- A written day is plain. -/
theorem DayReading.isPlain_text (d : DayReading) : IsPlain d.text := by
  simp +decide [text]

/-- What holds of the digits and of both marks holds of a written time of day. -/
theorem Clock.forall_mem_text {P : Char → Prop} (digit : ∀ value < 10, P (digitChar value))
    (colon : P ':') (point : P '.') (c : Clock) : ∀ mark ∈ c.text, P mark := by
  -- The digits are those of five numbers, with marks between them.
  have digits (width n : Nat) : ∀ mark ∈ paddedDigits width n, P mark := by
    intro mark member
    obtain ⟨value, small, rfl⟩ := allDigits_paddedDigits width n mark member
    exact digit value small
  have places : ∀ mark ∈ (if c.micro.val = 0 then [] else '.' :: paddedDigits 6 c.micro), P mark := by
    split
    · exact nofun
    · exact List.forall_mem_cons.mpr ⟨point, digits _ _⟩
  simp only [text, secondsText, List.forall_mem_append, List.forall_mem_cons]
  exact ⟨⟨⟨digits _ _, colon, digits _ _⟩, colon, digits _ _⟩, places⟩

/-- A written offset is plain. -/
theorem isPlain_offsetText (offset : Int) : IsPlain (offsetText offset) := by
  simp only [offsetText]
  split <;> split <;> [skip; split; skip; split] <;> simp +decide

/-- A written moment is plain. -/
theorem Moment.isPlain_textWith (m : Moment) : IsPlain (m.textWith 'T') := by
  -- Day, time of day and offset are plain, and so is the letter between them.
  simp only [Moment.textWith, LocalTime.textWith, isPlain_append, isPlain_cons]
  refine ⟨⟨m.time.date.isPlain_text, by decide,
    m.time.clock.forall_mem_text (by decide) (by decide) (by decide)⟩, ?_⟩
  cases m.offset with
  | none => exact isPlain_nil
  | some offset => exact isPlain_offsetText offset

/-- Numbers of two digits begin with a digit. -/
theorem exists_two_digits (small : n < 10 ^ 2) :
    ∃ first second, paddedDigits 2 n = [first, second] ∧ isZoneMark first = false ∧
      isZoneMark second = false ∧ first ≠ 'W' := by
  -- No digit begins a zone or a week.
  have digit : ∀ value < 10, isZoneMark (digitChar value) = false ∧ digitChar value ≠ 'W' := by decide
  obtain ⟨first, second, both⟩ := List.length_eq_two.mp (length_paddedDigits small (by decide))
  have digits := allDigits_paddedDigits 2 n
  rw [both] at digits
  obtain ⟨one, below, rfl⟩ := digits first (by simp)
  obtain ⟨other, below', rfl⟩ := digits second (by simp)
  exact ⟨_, _, both, (digit one below).1, (digit other below').1, (digit one below).2⟩

/-- The numbers of a written day have no more digits than there is room for. -/
structure DayReading.Fits (d : DayReading) : Prop where
  /-- The year has four digits. -/
  year : d.year < 10 ^ 4
  /-- The month has two. -/
  month : d.month < 10 ^ 2
  /-- The day has two. -/
  day : d.day < 10 ^ 2

/-- A written day, number by number. -/
theorem DayReading.text_append (d : DayReading) (rest : List Char) :
    d.text ++ rest = paddedDigits 4 d.year ++
      ('-' :: (paddedDigits 2 d.month ++ ('-' :: (paddedDigits 2 d.day ++ rest)))) := by
  -- What is written last stands innermost.
  simp [text]

/-- A written day takes ten units. -/
theorem DayReading.dayLength?_text (fits : d.Fits) (rest : List Char) :
    dayLength? (d.text ++ 'T' :: rest) = some 10 := by
  -- A week would be marked where the month has its first digit.
  obtain ⟨first, second, both, _, _, noWeek⟩ := exists_two_digits fits.month
  have four := length_paddedDigits fits.year (by decide)
  have two := length_paddedDigits fits.day (by decide)
  have size : (d.text ++ 'T' :: rest).length = rest.length + 11 := by
    simp [text, four, both, two]
    omega
  have hyphen : unitAt (d.text ++ 'T' :: rest) 4 = '-' := by
    rw [unitAt, text_append, List.getD_append_right _ _ _ _ four.le, four]
    rfl
  have month : unitAt (d.text ++ 'T' :: rest) 5 = first := by
    rw [unitAt, text_append, List.getD_append_right _ _ _ _ (by omega), four, both]
    rfl
  rw [dayLength?, if_neg (by omega), if_pos hyphen, if_neg (by rw [month]; exact noWeek)]

/-- A written day is read back. -/
theorem DayReading.readDay?_text (fits : d.Fits) (rest : List Char) :
    readDay? (d.text ++ 'T' :: rest) 10 = some d := by
  -- The numbers are read one after the other, with a hyphen before the month and before the day.
  obtain ⟨first, second, both, _, _, noWeek⟩ := exists_two_digits fits.month
  have year (rest : List Char) := takeDigits?_paddedDigits fits.year (by decide) rest
  have month (rest : List Char) := takeDigits?_paddedDigits fits.month (by decide) rest
  have day (rest : List Char) := takeDigits?_paddedDigits fits.day (by decide) rest
  rw [text_append, readDay?, year]
  simp only [Option.bind_eq_bind, Option.bind_some]
  have hyphens : unitAt ('-' :: (paddedDigits 2 d.month ++ '-' :: (paddedDigits 2 d.day ++ 'T' :: rest))) 0
      = '-' := rfl
  rw [hyphens]
  simp only [decide_true, if_true, List.drop_succ_cons, List.drop_zero]
  split
  -- A week would begin with its letter.
  · rename_i week
    rw [both] at week
    exact absurd (List.cons.inj week).1 noWeek
  · rw [month]
    simp only [Option.bind_some, expect?, if_true]
    rw [day]
    rfl

/-- A number before a colon is read, and then what follows the colon. -/
theorem readClock?_colon {colons : Option Bool} (small : n < 10 ^ 2) (filled : following ≠ [])
    (apart : colons.getD true = true) :
    readClock? (count + 1) colons (paddedDigits 2 n ++ ':' :: following) =
      (readClock? count (some true) following).map (·.after n) := by
  -- The two digits are read, and the colon is there as it has to be.
  rw [readClock?, takeDigits?_paddedDigits small (by decide)]
  simp only [Option.bind_eq_bind, Option.bind_some, filled, if_false, decide_true, apart, and_self,
    if_true]
  cases readClock? count (some true) following <;> rfl

/-- The last number is read. -/
theorem readClock?_last {colons : Option Bool} (small : n < 10 ^ 2) :
    readClock? (count + 1) colons (paddedDigits 2 n) = some ⟨[n], 0, false⟩ := by
  -- Nothing stands behind the digits.
  have read := takeDigits?_paddedDigits small (by decide) []
  rw [List.append_nil] at read
  rw [readClock?, read]
  rfl

/-- The last number is read with the millionths behind it. -/
theorem readClock?_places {micro : Nat} (small : n < 10 ^ 2) (part : micro < 10 ^ 6) :
    readClock? (count + 1) (some true) (paddedDigits 2 n ++ '.' :: paddedDigits 6 micro) =
      some ⟨[n], micro, false⟩ := by
  -- All six places are given, so none has to be filled up.
  have six := length_paddedDigits part (by decide)
  have filled : paddedDigits 6 micro ≠ [] := by
    intro none
    rw [none] at six
    contradiction
  have read := takeDigits?_paddedDigits part (by decide) []
  rw [List.append_nil] at read
  have places : readPlaces? (paddedDigits 6 micro) = some ⟨[], micro, false⟩ := by
    rw [readPlaces?, six]
    simp only [Nat.min_self, read, Option.bind_eq_bind, Option.bind_some, Nat.sub_self]
    simp [powTen, unitAt]
  rw [readClock?, takeDigits?_paddedDigits small (by decide)]
  simp only [Option.bind_eq_bind, Option.bind_some, filled, if_false, Option.getD_some]
  rw [if_neg (by decide), if_pos (by decide), places]
  rfl

/-- A written time of day is read back. -/
theorem Clock.readClock?_text (c : Clock) :
    readClock? 3 none c.text = some ⟨[c.hour, c.minute, c.second], c.micro, false⟩ := by
  have small : ∀ n < 60, n < 10 ^ 2 := by omega
  -- From the back: the seconds, with their places where there are any, and then the two colons.
  have seconds : readClock? 1 (some true) (paddedDigits 2 c.second ++
      if c.micro.val = 0 then [] else '.' :: paddedDigits 6 c.micro) =
        some ⟨[c.second], c.micro, false⟩ := by
    split
    · rename_i whole
      rw [List.append_nil, readClock?_last (small _ c.second.isLt), whole]
    · exact readClock?_places (small _ c.second.isLt) c.micro.isLt
  have filled (n : Nat) (rest : List Char) : paddedDigits 2 n ++ rest ≠ [] := by
    simp [paddedDigits, decimalDigits_ne_nil]
  have shape : c.text = paddedDigits 2 c.hour ++ ':' :: (paddedDigits 2 c.minute ++ ':' ::
      (paddedDigits 2 c.second ++ if c.micro.val = 0 then [] else '.' :: paddedDigits 6 c.micro)) := by
    simp [text, secondsText]
  rw [shape, readClock?_colon (c.hour.isLt.trans (by decide)) (filled _ _) rfl,
    readClock?_colon (small _ c.minute.isLt) (filled _ _) rfl, seconds]
  rfl

/-- The marks that begin a zone are no part of a written time of day. -/
theorem Clock.not_isZoneMark (c : Clock) : ∀ mark ∈ c.text, isZoneMark mark = false :=
  c.forall_mem_text (by decide) (by decide) (by decide)

/-- Offsets in whole minutes. -/
def IsWholeMinutes (offset : Int) : Prop :=
  60 * (microsPerSecond : Int) ∣ offset

/-- The sign of a written offset. -/
def offsetSign (offset : Int) : Char :=
  if offset < 0 then '-' else '+'

/-- The sign tells whether the offset is below zero, and begins a zone. -/
theorem offsetSign_spec (offset : Int) : isZoneMark (offsetSign offset) = true ∧
    offsetSign offset ≠ 'Z' ∧ decide (offsetSign offset = '-') = decide (offset < 0) := by
  -- The sign is one of two.
  rw [offsetSign]
  split <;> rename_i side <;> simp [side, isZoneMark]

/-- An offset of whole minutes is written without seconds, and read back. -/
theorem IsWholeMinutes.readClock? {offset : Int} (whole : IsWholeMinutes offset)
    (near : offset.natAbs < microsPerDay) : ∃ text zone,
      offsetText offset = offsetSign offset :: text ∧ readClock? 3 none text = some zone ∧
      zone.leftover = false ∧ zone.offset (decide (offset < 0)) = offset := by
  have same := Clock.micros_ofMicros near
  -- Whole minutes leave neither seconds nor millionths to be written.
  obtain ⟨noSeconds, noPart⟩ : (Clock.ofMicros offset.natAbs).second.val = 0 ∧
      (Clock.ofMicros offset.natAbs).micro.val = 0 := by
    obtain ⟨minutes, rfl⟩ := whole
    simp only [Clock.ofMicros, microsPerSecond, Fin.val_ofNat]
    omega
  rw [Clock.micros, noSeconds, noPart] at same
  -- The offset is written as its sign, its hours and its minutes.
  have written : offsetText offset = offsetSign offset ::
      (paddedDigits 2 (Clock.ofMicros offset.natAbs).hour ++
        ':' :: paddedDigits 2 (Clock.ofMicros offset.natAbs).minute) := by
    simp only [offsetText, offsetSign, noSeconds, noPart, and_self, if_true, List.append_nil,
      List.cons_append]
  generalize (Clock.ofMicros offset.natAbs).hour = hour,
    (Clock.ofMicros offset.natAbs).minute = minute at *
  obtain ⟨hour, hours⟩ := hour
  obtain ⟨minute, minutes⟩ := minute
  dsimp only at same written
  have filled : paddedDigits 2 minute ≠ [] := by simp [paddedDigits, decimalDigits_ne_nil]
  refine ⟨_, ⟨[hour, minute], 0, false⟩, written, ?_, rfl, ?_⟩
  · rw [readClock?_colon (by omega) filled rfl, readClock?_last (by omega)]
    rfl
  -- The sign and the fields make the offset again.
  · show (if hour * 3600 + minute * 60 + 0 = 0 then 0 else
      signed (decide (offset < 0)) ((hour * 3600 + minute * 60 + 0) * microsPerSecond + 0)) = offset
    simp only [signed, microsPerSecond, decide_eq_true_eq] at same ⊢
    split
    · omega
    · split <;> omega

/-- An offset of whole minutes is read back behind a time of day, as is the lack of an offset. -/
theorem Clock.readTimeOfDay?_text (c : Clock) {offset : Option Offset}
    (whole : ∀ o ∈ offset, IsWholeMinutes o) :
    readTimeOfDay? (c.text ++ (offset.map (offsetText ·.val)).getD []) =
      some (⟨[c.hour, c.minute, c.second], c.micro, false⟩, offset.map (·.val)) := by
  -- The time ends where a zone begins, and no mark of the time begins one.
  have dark : ∀ mark ∈ c.text, (!isZoneMark mark) = true := fun mark member => by
    rw [c.not_isZoneMark mark member]
    rfl
  rw [readTimeOfDay?, List.takeWhile_append_of_pos dark, List.dropWhile_append_of_pos dark]
  cases offset with
  | none =>
    rw [Option.map_none, Option.getD_none, List.takeWhile_nil, List.append_nil,
      c.readClock?_text]
    rfl
  | some offset =>
    obtain ⟨text, zone, written, read, ends, size⟩ := (whole offset rfl).readClock? offset.property
    obtain ⟨begins, noLetter, side⟩ := offsetSign_spec offset
    rw [Option.map_some, Option.getD_some, written, List.takeWhile_cons_of_neg (by simp [begins]),
      List.dropWhile_cons_of_neg (by simp [begins]), List.append_nil, c.readClock?_text]
    simp only [Option.bind_eq_bind, Option.bind_some]
    rw [read, Option.bind_some, ends, side, size]
    rfl

/-- A day of the calendar fits into its written form. -/
theorem Date.fits (d : Date) : d.Fits := by
  obtain ⟨-, months, inside, -, -, upTo⟩ := DayReading.isReal_iff.mp d.real
  have short : ∀ length ∈ monthLengths d.year, length ≤ 31 := by
    rw [monthLengths]
    cases isLeapYear d.year <;> decide
  -- No month is longer than two digits can tell.
  have longest := upTo.trans (short _ (List.getElem_mem inside))
  have real := d.real
  simp only [DayReading.isReal, Bool.and_eq_true, decide_eq_true_eq] at real
  obtain ⟨⟨⟨⟨⟨first, last⟩, low⟩, high⟩, begun⟩, ends⟩ := real
  exact ⟨last.trans_lt (by decide), by omega, by omega⟩

/-- A day of the calendar passes its check. -/
theorem Date.check_toDayReading (d : Date) : d.toDayReading.check = .ok d := by
  rw [DayReading.check, DayReading.date?, dif_pos d.real]

/-- A written moment is a day of ten characters, a separator, a time of day and possibly an offset. -/
theorem Moment.textWith_eq (m : Moment) (separator : Char) :
    m.textWith separator = m.time.date.text ++
      separator :: (m.time.clock.text ++ (m.offset.map (offsetText ·.val)).getD []) := by
  -- The parts are only put into other brackets.
  simp [textWith, LocalTime.textWith]

/-- The parts of a written moment are read back. -/
theorem Moment.readParts?_textWith {m : Moment} (whole : ∀ o ∈ m.offset, IsWholeMinutes o) :
    readParts? (m.textWith 'T') = some (m.time.date.toDayReading,
      ⟨[m.time.clock.hour, m.time.clock.minute, m.time.clock.second], m.time.clock.micro, false⟩,
      m.offset.map (·.val)) := by
  -- The day is ten plain characters, and a separator follows.
  have fits := m.time.date.fits
  have plain := m.isPlain_textWith
  have shape := m.textWith_eq 'T'
  have ten : m.time.date.text.length = 10 := by
    simp [DayReading.text, length_paddedDigits fits.year, length_paddedDigits fits.month,
      length_paddedDigits fits.day]
  have size : 10 < (m.textWith 'T').length := by
    rw [shape, List.length_append, ten, List.length_cons]
    omega
  have tail : (m.textWith 'T').drop (10 + 1) =
      m.time.clock.text ++ (m.offset.map (offsetText ·.val)).getD [] := by
    rw [shape, ← ten, List.drop_length_add_append, List.drop_one, List.tail_cons]
  have behind : ((m.textWith 'T').drop (10 + 1)).flatMap byteUnits =
      m.time.clock.text ++ (m.offset.map (offsetText ·.val)).getD [] := by
    rw [tail]
    exact IsPlain.flatMap_byteUnits fun c member => plain c (List.mem_of_mem_drop (tail ▸ member))
  have length : dayLength? (m.textWith 'T') = some 10 := shape ▸ DayReading.dayLength?_text fits _
  have day : readDay? (m.textWith 'T') 10 = some m.time.date.toDayReading :=
    shape ▸ DayReading.readDay?_text fits _
  -- The text is plain, so its units are its characters, and the parts are read one behind the other.
  rw [readParts?, plain.flatMap_byteUnits]
  simp only [Option.bind_eq_bind]
  rw [if_neg (by omega), length, Option.bind_some, day, Option.bind_some, if_neg (by omega), behind,
    m.time.clock.readTimeOfDay?_text whole]
  rfl

/-- The numbers of a time of day pass their check. -/
theorem Clock.check_fields (c : Clock) :
    ClockReading.check ⟨[c.hour, c.minute, c.second], c.micro, false⟩ = .ok c := by
  -- No number is as large as its bound.
  exact (dif_neg (Nat.not_le.mpr c.hour.isLt)).trans <| (dif_neg (Nat.not_le.mpr c.minute.isLt)).trans <|
    (dif_neg (Nat.not_le.mpr c.second.isLt)).trans (dif_neg (Nat.not_le.mpr c.micro.isLt))

/-- An offset passes its check. -/
theorem checkOffset_val (offset : Option Offset) : checkOffset (offset.map (·.val)) = .ok offset := by
  -- The offset carries that it is in range.
  cases offset with
  | none => rfl
  | some o => exact dif_pos o.property

/-- A moment in the standard form is read back as it was. -/
theorem Moment.ofIso_isoText {m : Moment} (whole : ∀ o ∈ m.offset, IsWholeMinutes o) :
    Moment.ofIso m.isoText = .ok m := by
  -- The parts are read back, and each of them passes its check.
  rw [ofIso, isoText, String.toList_ofList, Moment.readParts?_textWith whole]
  simp only [checkOffset_val, Date.check_toDayReading, Clock.check_fields]
  rfl

end Joinery
