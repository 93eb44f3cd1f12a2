import Joinery.Number.Decimal
import Joinery.Proofs.Number.Spelling
import Mathlib.Data.List.Forall2

/-! A text is read as a finite decimal exactly when it spells that decimal. -/

namespace Joinery

/-- Characters that are digits of these values, one for each. -/
def SpellsRun (cs : List Char) (digits : List Nat) : Prop :=
  List.Forall₂ (fun c digit => digitValue? c = some digit) cs digits

/-- Digits behind a point, or nothing. -/
inductive SpellsPart : List Char → List Nat → Prop where
  /-- Without a point there are no digits. -/
  | silent : SpellsPart [] []
  /-- There may be none behind it. -/
  | point {cs : List Char} {digits : List Nat} (run : SpellsRun cs digits) :
    SpellsPart ('.' :: cs) digits

/-- A power of ten: a letter, a sign and digits, or nothing. -/
inductive SpellsPower : List Char → Int → Prop where
  /-- Nothing is the power zero. -/
  | silent : SpellsPower [] 0
  /-- There is at least one digit behind the letter. -/
  | letter {mark : Char} {sign cs : List Char} {negative : Bool} {digits : List Nat}
    (letter : mark = 'e' ∨ mark = 'E') (spelled : SpellsSign sign negative)
    (run : SpellsRun cs digits) (filled : digits ≠ []) :
    SpellsPower (mark :: (sign ++ cs)) (signed negative (digitsValue digits))

/--
Characters that spell the magnitude of a decimal: digits with at most one point, and a power of ten.

All digits are kept, also zeros at the end. The power of the first and the last digit are limited.
-/
inductive SpellsMagnitude (negative : Bool) : List Char → Decimal → Prop where
  /-- There is a digit before the point or behind it. -/
  | intro {whole part scale : List Char} {front back : List Nat} {power : Int}
    (wholeSpelled : SpellsRun whole front) (partSpelled : SpellsPart part back)
    (powerSpelled : SpellsPower scale power) (filled : front ++ back ≠ [])
    (high : power - back.length + digitCount (digitsValue (front ++ back)) - 1 ≤
      Decimal.largestExponent)
    (low : Decimal.smallestExponent ≤ power - back.length) :
    SpellsMagnitude negative (whole ++ (part ++ scale))
      (.finite negative (digitsValue (front ++ back)) (power - back.length))

/-- A text that spells a decimal: a sign and a magnitude, with blanks around them and underscores anywhere. -/
def SpellsDecimal (text : List Char) (d : Decimal) : Prop :=
  ∃ front core back sign body negative, text = front ++ core ++ back ∧ AllBlank front ∧
    AllBlank back ∧ core.filter (· ≠ '_') = sign ++ body ∧ SpellsSign sign negative ∧
    SpellsMagnitude negative body d

section Characters

variable {c mark : Char} {cs rest : List Char} {digits : List Nat}

/-- A plain digit is read as the digit that it stands for. -/
theorem asciiDigit?_plainCharacter (c : Char) : asciiDigit? (plainCharacter c) = digitValue? c := by
  unfold plainCharacter
  cases read : digitValue? c with
  | some digit => exact asciiDigit?_digitChar digit (digitValue?_bounded read).1
  | none =>
    -- What is no digit of any script is none of ASCII.
    simp only
    split
    · decide
    · cases ascii : asciiDigit? c with
      | none => rfl
      | some digit =>
        rw [digitValue?_of_asciiDigit? ascii] at read
        contradiction

/-- The marks of a decimal stand for themselves alone. -/
theorem plainCharacter_eq_iff (member : mark ∈ ['.', 'e', 'E', '+', '-']) :
    plainCharacter c = mark ↔ c = mark := by
  -- A mark is no digit, and it is not what stands for a character of another kind.
  have known : ∀ mark ∈ ['.', 'e', 'E', '+', '-'], plainCharacter mark = mark ∧ ' ' ≠ mark ∧
      ∀ digit < 10, digitChar digit ≠ mark := List.all_iff_forall_prop.mp (by decide)
  obtain ⟨own, noSpace, noDigit⟩ := known mark member
  refine ⟨fun same => ?_, fun same => same ▸ own⟩
  unfold plainCharacter at same
  cases read : digitValue? c with
  | some digit =>
    rw [read] at same
    exact absurd same (noDigit digit (digitValue?_bounded read).1)
  | none =>
    rw [read] at same
    simp only at same
    split at same
    · exact absurd same noSpace
    · exact same

/-- A run of digits that ends is read as its values. -/
theorem asciiDigits_append (run : SpellsRun cs digits) (ends : ∀ c ∈ rest.head?, digitValue? c = none) :
    asciiDigits ((cs ++ rest).map plainCharacter) = (digits, rest.map plainCharacter) := by
  -- The run is read digit by digit, up to a character that is none.
  induction run with
  | nil =>
    cases rest with
    | nil => rfl
    | cons c others =>
      simp only [List.nil_append, List.map_cons, asciiDigits, asciiDigit?_plainCharacter, ends c rfl]
  | cons read _ ih =>
    simp only [List.cons_append, List.map_cons, asciiDigits, asciiDigit?_plainCharacter, read, ih]

/-- Any characters are a run of digits, which is read, and a rest that begins with no digit. -/
theorem exists_run (cs : List Char) : ∃ run digits rest, cs = run ++ rest ∧ SpellsRun run digits ∧
    ∀ c ∈ rest.head?, digitValue? c = none := by
  -- The run goes on as long as there are digits, and the rest begins where the first one is missing.
  induction cs with
  | nil => exact ⟨[], [], [], rfl, .nil, nofun⟩
  | cons c others ih =>
    cases read : digitValue? c with
    | none =>
      refine ⟨[], [], c :: others, rfl, .nil, ?_⟩
      rintro _ ⟨⟩
      exact read
    | some digit =>
      obtain ⟨run, digits, rest, rfl, spelled, ends⟩ := ih
      exact ⟨c :: run, digit :: digits, rest, rfl, .cons read spelled, ends⟩

/-- Characters are all digits exactly when they are a run. -/
theorem allDigits?_eq_some_iff :
    allDigits? (cs.map plainCharacter) = some digits ↔ SpellsRun cs digits := by
  -- Each character has to be a digit by itself.
  induction cs generalizing digits with
  | nil => simp [allDigits?, SpellsRun, List.forall₂_nil_left_iff, eq_comm]
  | cons c rest ih =>
    simp only [allDigits?] at ih ⊢
    simp only [List.map_cons, List.mapM_cons, asciiDigit?_plainCharacter, Option.bind_eq_bind,
      Option.bind_eq_some_iff, ih]
    constructor
    · rintro ⟨digit, read, others, run, same⟩
      cases same
      exact .cons read run
    · rintro (_ | ⟨read, run⟩)
      exact ⟨_, read, _, run, rfl⟩

/-- A sign is split off before or after digits are made plain. -/
theorem splitSign_map (cs : List Char) : splitSign (cs.map plainCharacter) =
    ((splitSign cs).1, (splitSign cs).2.map plainCharacter) := by
  -- A character is plain or stands for one, and only the marks themselves become marks.
  cases cs with
  | nil => rfl
  | cons c rest =>
    by_cases minus : c = '-'
    · subst minus
      rfl
    · by_cases plus : c = '+'
      · subst plus
        rfl
      · have plain : plainCharacter c ≠ '+' ∧ plainCharacter c ≠ '-' := by
          rw [Ne, Ne, plainCharacter_eq_iff (by decide), plainCharacter_eq_iff (by decide)]
          exact ⟨plus, minus⟩
        rw [List.map_cons, splitSign_eq_self (by simpa using plain),
          splitSign_eq_self (by simpa using ⟨plus, minus⟩)]
        rfl

end Characters

section Readers

variable {cs : List Char} {negative : Bool} {d : Decimal}

/-- A run of digits has no sign in front. -/
theorem SpellsRun.head {digits : List Nat} (run : SpellsRun cs digits) :
    ∀ c ∈ cs.head?, c ≠ '+' ∧ c ≠ '-' := by
  -- A digit is not one of the two signs.
  cases run with
  | nil => nofun
  | cons read _ =>
    rintro _ ⟨⟩
    refine ⟨?_, ?_⟩ <;> rintro rfl <;> contradiction

/-- A power of ten is read exactly when it is spelled. -/
theorem readExponent?_eq_some_iff {power : Int} :
    readExponent? (cs.map plainCharacter) = some power ↔ SpellsPower cs power := by
  -- An exponent is missing, or it is a letter, a sign and a run of digits.
  cases cs with
  | nil =>
    simp only [List.map_nil, readExponent?, Option.some.injEq]
    constructor
    · rintro rfl
      exact .silent
    · rintro ⟨⟩
      rfl
  | cons c rest =>
    -- The wide forms of the letter are none of its spellings.
    have letter : (plainCharacter c = 'e' ∨ plainCharacter c = 'E') ↔ (c = 'e' ∨ c = 'E') := by
      rw [plainCharacter_eq_iff (by decide), plainCharacter_eq_iff (by decide)]
    simp only [List.map_cons, readExponent?, letter, splitSign_map]
    constructor
    · intro read
      split at read
      · rename_i mark
        split at read
        · rename_i digit digits all
          cases read
          obtain ⟨sign, spelled, parts⟩ := splitSign_spells rest
          have written := SpellsPower.letter mark spelled (allDigits?_eq_some_iff.mp all)
            (List.cons_ne_nil _ _)
          rwa [← parts] at written
        · contradiction
      · contradiction
    -- A spelled exponent has its mark, and its sign ends before a digit.
    · rintro (_ | ⟨mark, spelled, run, filled⟩)
      rw [if_pos mark, splitSign_append spelled run.head, allDigits?_eq_some_iff.mpr run]
      rename_i digits
      cases digits with
      | nil => contradiction
      | cons digit others => rfl

/-- A number is kept when its first and its last digit are within the limits. -/
theorem Decimal.inRange?_eq_some_iff {coefficient : Nat} {exponent : Int} :
    inRange? negative coefficient exponent = some d ↔
      d = .finite negative coefficient exponent ∧
        exponent + digitCount coefficient - 1 ≤ largestExponent ∧ smallestExponent ≤ exponent := by
  -- The test is a conjunction of the two limits.
  rw [inRange?, Option.ite_none_right_eq_some, Option.some.injEq, and_comm, eq_comm]

/-- A power of ten begins with no digit and no point. -/
theorem SpellsPower.head {power : Int} (spelled : SpellsPower cs power) :
    ∀ c ∈ cs.head?, digitValue? c = none ∧ c ≠ '.' := by
  -- It begins with its letter, if it is there at all.
  cases spelled with
  | silent => nofun
  | letter mark =>
    rintro _ ⟨⟩
    rcases mark with rfl | rfl <;> decide

/-- Characters are digits, digits behind a point if there is one, and a rest that goes on with neither. -/
theorem exists_parts (cs : List Char) : ∃ whole part rest front back, cs = whole ++ (part ++ rest) ∧
    SpellsRun whole front ∧ SpellsPart part back ∧
    ∀ c ∈ rest.head?, digitValue? c = none ∧ (part = [] → c ≠ '.') := by
  -- The first run ends at a point or at something else, and behind a point there is another run.
  obtain ⟨whole, front, others, rfl, wholeSpelled, ends⟩ := exists_run cs
  by_cases point : others.head? = some '.'
  · obtain ⟨behind, rfl⟩ := List.head?_eq_some_iff.mp point
    obtain ⟨part, back, rest, rfl, partSpelled, ended⟩ := exists_run behind
    exact ⟨whole, '.' :: part, rest, front, back, rfl, wholeSpelled, .point partSpelled,
      fun c first => ⟨ended c first, nofun⟩⟩
  · refine ⟨whole, [], others, front, [], rfl, wholeSpelled, .silent, fun c first => ⟨ends c first, ?_⟩⟩
    rintro - rfl
    exact point first

/-- A number is read part by part. -/
theorem Decimal.readNumber?_parts {whole part rest : List Char} {front back : List Nat}
    (wholeSpelled : SpellsRun whole front) (partSpelled : SpellsPart part back)
    (ends : ∀ c ∈ rest.head?, digitValue? c = none ∧ (part = [] → c ≠ '.')) :
    readNumber? negative ((whole ++ (part ++ rest)).map plainCharacter) =
      if front = [] ∧ back = [] then none
      else (readExponent? (rest.map plainCharacter)).bind fun power =>
        inRange? negative (digitsValue (front ++ back)) (power - back.length) := by
  -- Behind the digits neither a digit nor a point follows.
  have digitless : ∀ c ∈ rest.head?, digitValue? c = none := fun c first => (ends c first).1
  cases partSpelled with
  | silent =>
    -- Without a point the rest comes right behind the first digits.
    rw [List.nil_append, readNumber?, asciiDigits_append wholeSpelled digitless]
    cases rest with
    | nil => rfl
    | cons c others =>
      have noPoint : plainCharacter c ≠ '.' := by
        rw [Ne, plainCharacter_eq_iff (by decide)]
        exact (ends c rfl).2 rfl
      simp only [List.map_cons]
      split
      · rename_i same
        exact absurd (List.cons.inj same).1 noPoint
      · simp only [and_true]
        rfl
  | @point behind _ run =>
    -- A point ends the first digits.
    have start : ∀ c ∈ ('.' :: behind ++ rest).head?, digitValue? c = none := by
      rintro _ ⟨⟩
      decide
    rw [readNumber?, asciiDigits_append wholeSpelled start]
    have plain : plainCharacter '.' = '.' := by decide
    simp only [List.cons_append, List.map_cons, plain, asciiDigits_append run digitless]
    rfl

/-- A number is read exactly when it is spelled. -/
theorem Decimal.readNumber?_eq_some_iff :
    readNumber? negative (cs.map plainCharacter) = some d ↔ SpellsMagnitude negative cs d := by
  -- The parts of the characters are unique, so reading and spelling speak of the same ones.
  constructor
  · intro read
    obtain ⟨whole, part, rest, front, back, rfl, wholeSpelled, partSpelled, ends⟩ := exists_parts cs
    rw [readNumber?_parts wholeSpelled partSpelled ends] at read
    split at read
    · contradiction
    · rename_i filled
      obtain ⟨power, powered, ranged⟩ := Option.bind_eq_some_iff.mp read
      obtain ⟨rfl, high, low⟩ := inRange?_eq_some_iff.mp ranged
      exact .intro wholeSpelled partSpelled (readExponent?_eq_some_iff.mp powered)
        (by simpa using filled) high low
  · rintro ⟨wholeSpelled, partSpelled, powerSpelled, filled, high, low⟩
    have ends := powerSpelled.head
    rw [readNumber?_parts wholeSpelled partSpelled fun c first =>
      ⟨(ends c first).1, fun _ => (ends c first).2⟩, if_neg (by simpa using filled),
      readExponent?_eq_some_iff.mpr powerSpelled]
    exact inRange?_eq_some_iff.mpr ⟨rfl, high, low⟩

/-- What is spelled begins with a digit of any script or with a point. -/
theorem SpellsMagnitude.head (spelled : SpellsMagnitude negative cs d) :
    ∃ c rest, cs = c :: rest ∧ (c = '.' ∨ (digitValue? c).isSome = true) := by
  -- The digits come first, and without them a point does.
  obtain ⟨wholeSpelled, partSpelled, powerSpelled, filled, high, low⟩ := spelled
  cases wholeSpelled with
  | cons read => exact ⟨_, _, rfl, .inr (read ▸ rfl)⟩
  | nil =>
    cases partSpelled with
    | silent => contradiction
    | point => exact ⟨_, _, rfl, .inl rfl⟩

/-- There are no blanks and no underscores among digits. -/
theorem SpellsRun.clean {digits : List Nat} (run : SpellsRun cs digits) :
    ∀ c ∈ cs, isBlank c = false ∧ c ≠ '_' := by
  -- A digit is no blank, and the underscore is no digit.
  induction run with
  | nil => nofun
  | cons read _ ih =>
    refine List.forall_mem_cons.mpr ⟨⟨(digitValue?_bounded read).2, ?_⟩, ih⟩
    rintro rfl
    contradiction

/-- There are none in what is spelled. -/
theorem SpellsMagnitude.clean (spelled : SpellsMagnitude negative cs d) :
    ∀ c ∈ cs, isBlank c = false ∧ c ≠ '_' := by
  -- The parts are digits, a point, a letter and a sign.
  obtain ⟨wholeSpelled, partSpelled, powerSpelled, filled, high, low⟩ := spelled
  simp only [List.forall_mem_append]
  refine ⟨wholeSpelled.clean, ?_, ?_⟩
  · cases partSpelled with
    | silent => nofun
    | point run => exact List.forall_mem_cons.mpr ⟨by decide, run.clean⟩
  · cases powerSpelled with
    | silent => nofun
    | letter mark signSpelled run filled =>
      refine List.forall_mem_cons.mpr ⟨?_, List.forall_mem_append.mpr ⟨signSpelled.clean, run.clean⟩⟩
      rcases mark with rfl | rfl <;> decide

/-- A sign and a magnitude spell a decimal. -/
theorem SpellsMagnitude.decimal {sign : List Char} (signSpelled : SpellsSign sign negative)
    (spelled : SpellsMagnitude negative cs d) : SpellsDecimal (sign ++ cs) d := by
  -- There are no blanks around it and no underscores in it.
  have nothing : AllBlank [] := nofun
  refine ⟨[], sign ++ cs, [], sign, cs, negative, by simp, nothing, nothing, ?_, signSpelled, spelled⟩
  refine List.filter_eq_self.mpr fun c member => ?_
  simpa using ((List.mem_append.mp member).elim (signSpelled.clean c) (spelled.clean c)).2

/-- What is spelled is finite. -/
theorem SpellsMagnitude.finite (spelled : SpellsMagnitude negative cs d) : d.isFinite = true := by
  cases spelled
  rfl

/-- Words for special values begin with a letter. -/
theorem Decimal.readSpecial?_eq_none {c : Char} {rest : List Char}
    (start : c.toLower ≠ 'i' ∧ c.toLower ≠ 'n' ∧ c.toLower ≠ 's') :
    readSpecial? negative (c :: rest) = none := by
  -- A word is found only behind its first letter.
  have word {first : Char} {letters : List Char} (differ : c.toLower ≠ first) :
      lowerAscii (c :: rest) ≠ first :: letters := fun same => differ (List.cons.inj same).1
  have front {first : Char} {letters : List Char} (differ : c.toLower ≠ first) :
      afterWord? (first :: letters) (c :: rest) = none :=
    if_neg fun same => differ (List.cons.inj same).1
  have inf : lowerAscii (c :: rest) ≠ "inf".toList := word start.1
  have infinity : lowerAscii (c :: rest) ≠ "infinity".toList := word start.1
  rw [readSpecial?, if_neg (not_or.mpr ⟨inf, infinity⟩)]
  have nan : afterWord? "nan".toList (c :: rest) = none := front start.2.1
  have snan : afterWord? "snan".toList (c :: rest) = none := front start.2.2
  rw [nan, snan]

/-- Words are never read as finite numbers. -/
theorem Decimal.isFinite_readSpecial? (read : readSpecial? negative cs = some d) :
    d.isFinite = false := by
  -- Each of the words stands for infinity or for no number.
  unfold readSpecial? at read
  split at read
  · cases read
    rfl
  · split at read
    · obtain ⟨_, _, rfl⟩ := Option.map_eq_some_iff.mp read
      rfl
    · obtain ⟨_, _, rfl⟩ := Option.map_eq_some_iff.mp read
      rfl
    · contradiction

/-- What is spelled is no word for a special value. -/
theorem SpellsMagnitude.readSpecial? (spelled : SpellsMagnitude negative cs d) :
    Decimal.readSpecial? negative (cs.map plainCharacter) = none := by
  -- It begins with a digit or a point, and the words begin with letters.
  obtain ⟨c, rest, rfl, start⟩ := spelled.head
  refine Decimal.readSpecial?_eq_none ?_
  have digits : ∀ digit < 10, (digitChar digit).toLower ≠ 'i' ∧ (digitChar digit).toLower ≠ 'n' ∧
      (digitChar digit).toLower ≠ 's' := by decide
  rcases start with rfl | digit
  · decide
  · obtain ⟨value, read⟩ := Option.isSome_iff_exists.mp digit
    rw [plainCharacter, read]
    exact digits value (digitValue?_bounded read).1

/-- A text is read as a finite decimal exactly when it spells that decimal. -/
theorem Decimal.ofText?_finite_iff {text : List Char} :
    ofText? text = some d ∧ d.isFinite = true ↔ SpellsDecimal text d := by
  constructor
  -- Blanks are taken off before underscores are, and the sign comes before everything else.
  · rintro ⟨read, finite⟩
    obtain ⟨front, back, parts, before, behind⟩ := exists_trimChars text
    obtain ⟨sign, signSpelled, joined⟩ := splitSign_spells ((trimChars text).filter (· ≠ '_'))
    rw [ofText?, decimalCharacters, splitSign_map] at read
    refine ⟨front, trimChars text, back, sign, _, _, parts, before, behind, joined, signSpelled, ?_⟩
    rcases Option.or_eq_some_iff.mp read with special | ⟨_, number⟩
    · rw [isFinite_readSpecial? special] at finite
      contradiction
    · exact readNumber?_eq_some_iff.mp number
  · rintro ⟨front, core, back, sign, body, negative, rfl, before, behind, joined, signSpelled, spelled⟩
    -- Nothing but an underscore is dropped, and no blank is among the rest.
    have dark : ∀ c ∈ core, isBlank c = false := by
      intro c member
      by_cases underscore : c = '_'
      · rw [underscore]
        decide
      · have kept : c ∈ sign ++ body := joined ▸ List.mem_filter.mpr ⟨member, by simpa using underscore⟩
        exact ((List.mem_append.mp kept).elim (signSpelled.clean c) (spelled.clean c)).1
    have start : ∀ c ∈ body.head?, c ≠ '+' ∧ c ≠ '-' := by
      obtain ⟨c, rest, rfl, start⟩ := spelled.head
      rintro _ ⟨⟩
      refine ⟨?_, ?_⟩ <;> rintro rfl <;> revert start <;> decide
    rw [ofText?, decimalCharacters, trimChars_of_blanks before dark behind, joined, splitSign_map,
      splitSign_append signSpelled start]
    refine ⟨Option.or_eq_some_iff.mpr (.inr ⟨spelled.readSpecial?, ?_⟩), spelled.finite⟩
    exact readNumber?_eq_some_iff.mpr spelled

end Readers

end Joinery
