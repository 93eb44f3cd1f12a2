import Joinery.Number.Integer
import Joinery.Proofs.Text.Digits
import Joinery.Proofs.Text.Trimming
import Joinery.Proofs.Value.Identity
import Mathlib.Data.Bool.AllAny

/-! A text is read as a whole number exactly when it spells that number. -/

namespace Joinery

/-- Characters that spell digits, with at most one underscore between two of them. -/
inductive SpellsDigits : List Char → List Nat → Prop where
  /-- The last digit. -/
  | last {c : Char} {digit : Nat} (read : digitValue? c = some digit) : SpellsDigits [c] [digit]
  /-- A digit in front of others. -/
  | next {c : Char} {digit : Nat} {cs : List Char} {digits : List Nat}
    (read : digitValue? c = some digit) (others : SpellsDigits cs digits) :
    SpellsDigits (c :: cs) (digit :: digits)
  /-- A digit that an underscore sets apart from others. -/
  | apart {c : Char} {digit : Nat} {cs : List Char} {digits : List Nat}
    (read : digitValue? c = some digit) (others : SpellsDigits cs digits) :
    SpellsDigits (c :: '_' :: cs) (digit :: digits)

/-- Characters that say whether a number is below zero. -/
inductive SpellsSign : List Char → Bool → Prop where
  /-- Nothing is said of a number that is not. -/
  | silent : SpellsSign [] false
  /-- It may have a plus. -/
  | plus : SpellsSign ['+'] false
  /-- A number below zero has a minus. -/
  | minus : SpellsSign ['-'] true

/-- A text that spells a whole number: a sign and digits that are not too many, and blanks around them. -/
def SpellsInteger (text : List Char) (n : Int) : Prop :=
  ∃ front sign body back negative digits, text = front ++ (sign ++ body) ++ back ∧
    AllBlank front ∧ AllBlank back ∧ SpellsSign sign negative ∧ SpellsDigits body digits ∧
    digits.length ≤ longestInteger ∧ n = signed negative (digitsValue digits)

variable {c : Char} {cs : List Char} {digits : List Nat} {negative : Bool}

/-- Spelled digits begin with a digit. -/
theorem SpellsDigits.head (spelled : SpellsDigits cs digits) :
    ∃ c rest digit, cs = c :: rest ∧ digitValue? c = some digit := by
  -- Whatever follows, the first character has been read.
  cases spelled with
  | last read => exact ⟨_, _, _, rfl, read⟩
  | next read => exact ⟨_, _, _, rfl, read⟩
  | apart read => exact ⟨_, _, _, rfl, read⟩

/-- No digits are spelled by what begins with something else. -/
theorem not_spellsDigits_of_mark (mark : digitValue? c = none) : ¬ SpellsDigits (c :: cs) digits := by
  -- The mark would have to be the first digit.
  intro spelled
  obtain ⟨_, _, _, same, read⟩ := spelled.head
  cases same
  rw [mark] at read
  contradiction

/-- There are no blanks among spelled digits. -/
theorem SpellsDigits.dark (spelled : SpellsDigits cs digits) : ∀ c ∈ cs, isBlank c = false := by
  -- Every character is a digit or an underscore.
  induction spelled with
  | last read => simpa using (digitValue?_bounded read).2
  | next read _ ih => exact List.forall_mem_cons.mpr ⟨(digitValue?_bounded read).2, ih⟩
  | apart read _ ih =>
    exact List.forall_mem_cons.mpr ⟨(digitValue?_bounded read).2,
      List.forall_mem_cons.mpr ⟨by decide, ih⟩⟩

/-- Behind a digit the run is read to its end exactly when both together spell digits. -/
theorem digitRun_behind {c : Char} {rest : List Char} {digit : Nat} (read : digitValue? c = some digit)
    (free : ∀ digits, digitRun false rest = some (digits, []) ↔ rest = [] ∧ digits = [] ∨
      SpellsDigits rest digits ∨ ∃ others, rest = '_' :: others ∧ SpellsDigits others digits)
    (digits : List Nat) :
    (∃ others, digitRun false rest = some (others, []) ∧ digit :: others = digits) ↔
      SpellsDigits (c :: rest) digits := by
  -- The digit is the last one, or another one follows, with an underscore between them or without.
  constructor
  · rintro ⟨others, later, rfl⟩
    rcases (free others).mp later with ⟨rfl, rfl⟩ | spelled | ⟨_, rfl, spelled⟩
    · exact .last read
    · exact .next read spelled
    · exact .apart read spelled
  · intro spelled
    cases spelled with
    | last own =>
      cases own.symm.trans read
      exact ⟨[], (free _).mpr (.inl ⟨rfl, rfl⟩), rfl⟩
    | next own others =>
      cases own.symm.trans read
      exact ⟨_, (free _).mpr (.inr (.inl others)), rfl⟩
    | apart own others =>
      cases own.symm.trans read
      exact ⟨_, (free _).mpr (.inr (.inr ⟨_, rfl, others⟩)), rfl⟩

/-- A run of digits is read to the end exactly when digits are spelled, or may stop between two digits. -/
theorem digitRun_spells (cs : List Char) :
    (∀ digits, digitRun true cs = some (digits, []) ↔ SpellsDigits cs digits) ∧
    ∀ digits, digitRun false cs = some (digits, []) ↔ cs = [] ∧ digits = [] ∨
      SpellsDigits cs digits ∨ ∃ rest, cs = '_' :: rest ∧ SpellsDigits rest digits := by
  induction cs with
  | nil =>
    have empty (digits : List Nat) : ¬ SpellsDigits [] digits := nofun
    simp [digitRun, empty, eq_comm]
  | cons c rest ih =>
    obtain ⟨due, free⟩ := ih
    by_cases mark : c = '_'
    · -- An underscore may come after a digit, and has to be followed by one.
      subst mark
      have none (digits : List Nat) : ¬ SpellsDigits ('_' :: rest) digits :=
        not_spellsDigits_of_mark (by decide)
      simp [digitRun, due, none]
    · -- Any other character is a digit, or no digits are spelled.
      cases read : digitValue? c with
      | none =>
        have none (digits : List Nat) : ¬ SpellsDigits (c :: rest) digits :=
          not_spellsDigits_of_mark read
        simp [digitRun, mark, read, none]
      | some digit => simp [digitRun, mark, read, ← digitRun_behind read free]

/-- A sign is split off with what it says. -/
theorem splitSign_spells (cs : List Char) :
    ∃ sign, SpellsSign sign (splitSign cs).1 ∧ cs = sign ++ (splitSign cs).2 := by
  -- There is a minus, a plus, or neither.
  unfold splitSign
  split
  · exact ⟨_, .minus, rfl⟩
  · exact ⟨_, .plus, rfl⟩
  · exact ⟨_, .silent, rfl⟩

/-- What begins with neither sign is left as it is. -/
theorem splitSign_eq_self (start : ∀ c ∈ cs.head?, c ≠ '+' ∧ c ≠ '-') :
    splitSign cs = (false, cs) := by
  -- Only the two signs are split off.
  rw [splitSign.eq_3]
  · rintro rest rfl
    exact (start '-' rfl).2 rfl
  · rintro rest rfl
    exact (start '+' rfl).1 rfl

/-- It is also what remains behind a sign. -/
theorem splitSign_append {sign body : List Char} (spelled : SpellsSign sign negative)
    (start : ∀ c ∈ body.head?, c ≠ '+' ∧ c ≠ '-') : splitSign (sign ++ body) = (negative, body) := by
  -- A sign is followed by the body, and without one the body begins with none.
  cases spelled with
  | minus => rfl
  | plus => rfl
  | silent => exact splitSign_eq_self start

/-- There are no blanks and no underscores in a sign. -/
theorem SpellsSign.clean {sign : List Char} (spelled : SpellsSign sign negative) :
    ∀ c ∈ sign, isBlank c = false ∧ c ≠ '_' := by
  -- There are no more than two signs.
  cases spelled with
  | silent => nofun
  | plus | minus => exact List.all_iff_forall_prop.mp (by decide)

/-- Spelled digits are read with their sign, unless there are too many of them. -/
theorem readInteger_of_spelled {front sign body back : List Char} (before : AllBlank front)
    (signSpelled : SpellsSign sign negative) (spelled : SpellsDigits body digits)
    (behind : AllBlank back) : readInteger (front ++ (sign ++ body) ++ back) =
      if longestInteger < digits.length then .tooLong digits.length
      else .number (signed negative (digitsValue digits)) := by
  -- Blanks are around sign and digits only, and the sign is what stands before the first digit.
  have dark : ∀ c ∈ sign ++ body, isBlank c = false := fun c member =>
    (List.mem_append.mp member).elim (fun inSign => (signSpelled.clean c inSign).1) (spelled.dark c)
  have start : ∀ c ∈ body.head?, c ≠ '+' ∧ c ≠ '-' := by
    obtain ⟨c, rest, digit, rfl, read⟩ := spelled.head
    rintro _ ⟨⟩
    refine ⟨?_, ?_⟩ <;> rintro rfl <;> contradiction
  rw [readInteger, trimChars_of_blanks before dark behind, splitSign_append signSpelled start]
  simp only [((digitRun_spells body).1 digits).mpr spelled, if_true]

/-- A text is read as a whole number exactly when it spells that number. -/
theorem readInteger_eq_number_iff {text : List Char} {n : Int} :
    readInteger text = .number n ↔ SpellsInteger text n := by
  -- Trimming leaves the sign and the body, and the body has to be a run of digits to its end.
  constructor
  -- What is read has passed both tests: the run goes to the end, and it is short enough.
  · intro read
    rw [readInteger] at read
    obtain ⟨front, back, parts, before, behind⟩ := exists_trimChars text
    obtain ⟨sign, signSpelled, joined⟩ := splitSign_spells (trimChars text)
    obtain ⟨negative, body, pair⟩ : ∃ negative body, splitSign (trimChars text) = (negative, body) :=
      ⟨_, _, rfl⟩
    rw [pair] at read signSpelled joined
    rw [joined] at parts
    simp only at read
    split at read
    · contradiction
    · rename_i digits after run
      split at read
      · contradiction
      · split at read
        · rename_i short ended
          cases read
          rw [ended] at run
          exact ⟨front, sign, body, back, negative, digits, parts, before, behind, signSpelled,
            ((digitRun_spells body).1 digits).mp run, by omega, rfl⟩
        · contradiction
  -- What is spelled is put together from the same parts.
  · rintro ⟨front, sign, body, back, negative, digits, rfl, before, behind, signSpelled, spelled,
      short, rfl⟩
    rw [readInteger_of_spelled before signSpelled spelled behind, if_neg (by omega)]

/-- The digits of a number spell it. -/
theorem spellsDigits_decimalDigits (n : Nat) :
    SpellsDigits (decimalDigits n) ((decimalDigits n).map fun c => c.toNat - 48) := by
  -- Each written digit is read as the value that it was written for.
  have digit : ∀ value < 10, digitValue? (digitChar value) =
      some ((digitChar value).toNat - 48) := by decide
  have each : ∀ c ∈ decimalDigits n, digitValue? c = some (c.toNat - 48) := by
    intro c member
    obtain ⟨value, small, rfl⟩ := mem_decimalDigits member
    exact digit value small
  -- The run goes on to the last character, and there are no underscores in it.
  have general : ∀ cs : List Char, cs ≠ [] → (∀ c ∈ cs, digitValue? c = some (c.toNat - 48)) →
      SpellsDigits cs (cs.map fun c => c.toNat - 48) := by
    intro cs filled read
    induction cs with
    | nil => contradiction
    | cons c rest ih =>
      obtain ⟨own, others⟩ := List.forall_mem_cons.mp read
      cases rest with
      | nil => exact .last own
      | cons d rest => exact .next own (ih (List.cons_ne_nil _ _) others)
  exact general _ (decimalDigits_ne_nil n) each

/-- A number is read back from its digits with blanks around them, unless these are too many. -/
theorem readInteger_intDigits {front back : List Char} (n : Int) (before : AllBlank front)
    (behind : AllBlank back) : readInteger (front ++ intDigits n ++ back) =
      if longestInteger < (decimalDigits n.natAbs).length then
        .tooLong (decimalDigits n.natAbs).length
      else .number n := by
  -- A number is written as its sign and the digits of its magnitude.
  obtain ⟨sign, spelled, parts⟩ : ∃ sign, SpellsSign sign (decide (n < 0)) ∧
      intDigits n = sign ++ decimalDigits n.natAbs := by
    unfold intDigits
    by_cases below : n < 0
    · exact ⟨['-'], by simp [below, SpellsSign.minus], by simp [below]⟩
    · exact ⟨[], by simp [below, SpellsSign.silent], by simp [below]⟩
  rw [parts, readInteger_of_spelled before spelled (spellsDigits_decimalDigits _) behind,
    List.length_map, digitsValue_decimalDigits, signed_natAbs]

end Joinery
