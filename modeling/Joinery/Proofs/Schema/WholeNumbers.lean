import Joinery.Filter.Basic
import Joinery.Proofs.Number.Magnitude
import Joinery.Proofs.Number.Spelling
import Joinery.Proofs.Query.Wording
import Joinery.Proofs.Value.Distinction

/-! A value becomes a whole number exactly when it is one that fits into sixty-four bits. -/

namespace Joinery

/-- The whole number that a scalar is, in whatever form, or that its text spells. -/
def Scalar.Denotes : Scalar → Int → Prop
  | .text s, n => SpellsInteger s.toList n
  | scalar, n => scalar.toValue.number? = some (n : ℚ)

variable {levels : Nat} {field : String} {value : Value} {scalar : Scalar} {n : Int} {front back : List Char}

/-- Numbers fit into sixty-four bits between two powers of two. -/
theorem fitsInt64_iff : fitsInt64 n = true ↔ -2 ^ 63 ≤ n ∧ n ≤ 2 ^ 63 - 1 := by
  rw [fitsInt64, Bool.and_eq_true, decide_eq_true_eq, decide_eq_true_eq]
  norm_num

/-- A number is kept exactly when it fits. -/
theorem boundedInteger_eq_ok_iff {k : Int} :
    boundedInteger n = .ok k ↔ n = k ∧ fitsInt64 k = true := by
  -- The bounds are tested, and the number stays itself.
  rw [boundedInteger]
  split
  · rename_i fits
    simp only [Except.ok.injEq]
    exact ⟨fun same => ⟨same, same ▸ fits⟩, And.left⟩
  · rename_i wide
    refine iff_of_false nofun ?_
    rintro ⟨rfl, fits⟩
    exact wide fits

/-- A scalar becomes a whole number exactly when it denotes that number, and the number fits. -/
theorem Scalar.toInteger_eq_ok_iff {k : Int} :
    scalar.toValue.toInteger = .ok k ↔ scalar.Denotes k ∧ fitsInt64 k = true := by
  -- Each kind of scalar has its own way to a whole number.
  cases scalar with
  | null => simp [Denotes, toValue, Value.toInteger, Value.number?]
  | text s =>
    -- The reading of a text has a number, or one of two reasons against it.
    simp only [Denotes, ← readInteger_eq_number_iff, toValue, Value.toInteger]
    split
    · rename_i n read
      rw [read, boundedInteger_eq_ok_iff, IntegerReading.number.injEq]
    · rename_i read
      simp [read]
    · rename_i read
      simp [read]
  | int n =>
    simp only [Denotes, toValue, Value.toInteger, Value.number?, boundedInteger_eq_ok_iff,
      Option.some.injEq, Int.cast_inj]
  | float x =>
    cases x with
    | nan => simp [Denotes, toValue, Value.toInteger, Value.number?, Binary64.toInt?]
    | infinite negative => simp [Denotes, toValue, Value.toInteger, Value.number?, Binary64.toInt?]
    | finite negative mantissa exponent held =>
      simp only [Denotes, toValue, Value.toInteger, Value.number?, Option.some.injEq,
        ← Binary64.toInt?_eq_some_iff held]
      split
      · rename_i n exact
        rw [exact, boundedInteger_eq_ok_iff, Option.some.injEq]
      · rename_i none
        simp [none]
  | bool truth =>
    -- Both truth values are numbers that fit.
    have fits : ∀ b : Bool, fitsInt64 (if b then 1 else 0) = true := by decide
    have same : (if truth then 1 else 0 : ℚ) = ((if truth then 1 else 0 : Int) : ℚ) := by
      cases truth <;> norm_num
    simp only [Denotes, toValue, Value.toInteger, Value.number?, Except.ok.injEq,
      Option.some.injEq, same, Int.cast_inj]
    exact ⟨fun equal => ⟨equal, equal ▸ fits truth⟩, And.left⟩

/-- What is not null is converted, or refused with the value and the reason. -/
theorem bindValue_of_given {type : SemanticType} (given : value.isNull = false) :
    bindValue levels field type value = (value.convert levels type).mapError fun fault =>
      ⟨field, type.name, value, fault.message⟩ := by
  -- Only null is bound without a conversion.
  rw [bindValue, given]
  cases value.convert levels type <;> rfl

/-- What is not null is bound exactly when it is converted. -/
theorem coerce_of_given {type : SemanticType} (given : value.isNull = false) {bound : BoundValue} :
    coerce levels field type value = .ok bound ↔ value.convert levels type = .ok bound := by
  rw [coerce_eq_ok_iff, bindValue_of_given given, mapError_eq_ok]

/-- The value of a scalar can be shown, unless it is a number with too many digits. -/
theorem Scalar.showable_iff (levels : Nat) (scalar : Scalar) : scalar.toValue.Showable levels ↔
    ∀ n, scalar = .int n → isWritable n = true := by
  -- Only whole numbers can have too many digits.
  cases scalar with
  | int n =>
    rw [toValue, Value.showable_int]
    exact ⟨fun written _ same => int.inj same ▸ written, fun each => each n rfl⟩
  | null | text | float | bool =>
    refine iff_of_true ⟨Nat.zero_le _, fun n number => ?_⟩ nofun
    cases number

/-- The value of a scalar fails to be shown only as a number with too many digits. -/
theorem Scalar.unshown_iff (levels : Nat) (scalar : Scalar) {misuse : Misuse} :
    scalar.toValue.Unshown levels misuse ↔
      misuse = .notAllowed unwritableIntegerText ∧ ∃ n, scalar = .int n ∧ isWritable n = false := by
  have shallow : scalar.toValue.depth = 0 := by cases scalar <;> rfl
  rw [Value.Unshown, shallow]
  refine ⟨fun failed => ?_, fun ⟨same, n, number, long⟩ => ?_⟩
  · rcases failed with ⟨_, deep⟩ | ⟨same, n, inside, long⟩
    · exact absurd deep (Nat.not_lt_zero _)
    -- A number that stands in a scalar is that scalar.
    · refine ⟨same, n, ?_, long⟩
      cases scalar with
      | int => cases inside; rfl
      | null | text | float | bool => cases inside
  · exact .inr ⟨same, n, number ▸ .self _, long⟩

/-- A scalar that is not null is bound as a whole number exactly when it denotes it, and the number fits. -/
theorem Scalar.coerce_integer_given (given : scalar ≠ .null) {bound : BoundValue} :
    coerce levels field .integer scalar.toValue = .ok bound ↔
      ∃ k, bound = .integer k ∧ scalar.Denotes k ∧ fitsInt64 k = true := by
  -- A scalar that is not null goes through the conversion.
  have filled : scalar.toValue.isNull = false := by
    cases scalar with
    | null => contradiction
    | text | int | float | bool => rfl
  rw [coerce_of_given filled, Value.convert, map_eq_ok]
  exact exists_congr fun k => by rw [toInteger_eq_ok_iff, and_comm, eq_comm]

/-- A scalar is bound as a whole number exactly when it denotes one that fits; null stays null. -/
theorem Scalar.coerce_integer_eq_ok_iff {bound : BoundValue} :
    coerce levels field .integer scalar.toValue = .ok bound ↔
      scalar = .null ∧ bound = .null ∨
        ∃ k, bound = .integer k ∧ scalar.Denotes k ∧ -2 ^ 63 ≤ k ∧ k ≤ 2 ^ 63 - 1 := by
  -- Null denotes nothing, and is bound as itself.
  by_cases null : scalar = .null
  · subst null
    have nothing (k : Int) : ¬ Denotes .null k := nofun
    simp only [nothing, false_and, and_false, exists_false, or_false, true_and]
    exact ⟨fun same => (Except.ok.inj same).symm, fun same => same ▸ rfl⟩
  · simp only [coerce_integer_given null, fitsInt64_iff, null, false_and, false_or]

/-- A scalar is not bound as a whole number exactly when it denotes none that fits. -/
theorem Scalar.bindValue_integer_error_iff (levels : Nat) (field : String) (scalar : Scalar) :
    (∃ complaint, bindValue levels field .integer scalar.toValue = .error complaint) ↔
      scalar ≠ .null ∧ ∀ k, scalar.Denotes k → k < -2 ^ 63 ∨ 2 ^ 63 - 1 < k := by
  have bounds (bound : BoundValue) :
      bindValue levels field .integer scalar.toValue = .ok bound ↔ _ :=
    coerce_eq_ok_iff.symm.trans coerce_integer_eq_ok_iff
  cases coerced : bindValue levels field .integer scalar.toValue with
  | ok bound =>
    -- What is bound is null, or a number that is denoted and fits.
    refine iff_of_false nofun ?_
    rintro ⟨given, wide⟩
    rcases (bounds bound).mp coerced with ⟨null, _⟩ | ⟨k, _, denoted, low, high⟩
    · exact given null
    · have := wide k denoted
      omega
  | error complaint =>
    refine iff_of_true ⟨complaint, rfl⟩ ⟨?_, fun k denoted => ?_⟩
    · rintro rfl
      contradiction
    · by_contra inside
      have fits := (bounds (.integer k)).mpr (.inr ⟨k, rfl, denoted, by omega, by omega⟩)
      rw [coerced] at fits
      contradiction

/-- A number with too many digits does not fit. -/
theorem wide_of_unwritable (long : isWritable n = false) : n < -2 ^ 63 ∨ 2 ^ 63 - 1 < n := by
  -- The limit of the digits lies far above the bounds.
  have above : 2 ^ 63 < powTen longestInteger := by decide +kernel
  rw [isWritable, decide_eq_false_iff_not] at long
  omega

/-- A number with too many digits is refused without a complaint. -/
theorem coerce_unwritable (long : isWritable n = false) :
    coerce levels field .integer (.int n) = .error (.misuse (.notAllowed unwritableIntegerText)) := by
  obtain ⟨complaint, refused⟩ :=
    (Scalar.bindValue_integer_error_iff levels field (.int n)).mpr
      ⟨nofun, fun k denoted => Int.cast_inj.mp (Option.some.inj denoted) ▸ wide_of_unwritable long⟩
  -- The complaint would show the number.
  rcases coerce_refused refused with ⟨showable, _⟩ | ⟨misuse, unshown, told⟩
  · cases (Value.showable_int.mp showable).symm.trans long
  · exact ((Scalar.unshown_iff levels (.int n)).mp unshown).1 ▸ told

/-- A number of any size and its digits, with blanks around them, are converted alike. -/
theorem toInteger_intDigits (n : Int) (before : AllBlank front) (behind : AllBlank back) :
    (Value.text (String.ofList (front ++ intDigits n ++ back))).toInteger.toOption =
      (Value.int n).toInteger.toOption := by
  simp only [Value.toInteger, String.toList_ofList, readInteger_intDigits n before behind]
  by_cases long : longestInteger < (decimalDigits n.natAbs).length
  · -- Digits that are too many belong to a number that does not fit.
    have wide : fitsInt64 n = false := by
      rw [← Bool.not_eq_true, fitsInt64_iff]
      intro fits
      have short : (decimalDigits n.natAbs).length ≤ 19 :=
        length_decimalDigits_le (by omega) (by decide)
      exact absurd (long.trans_le short) (by decide)
    rw [if_pos long, boundedInteger, wide]
    rfl
  · rw [if_neg long]

/-- A number of any size and its digits, with blanks around them, are bound alike. -/
theorem coerce_intDigits (n : Int) (before : AllBlank front) (behind : AllBlank back)
    {bound : BoundValue} :
    coerce levels field .integer (.text (String.ofList (front ++ intDigits n ++ back))) = .ok bound ↔
      coerce levels field .integer (.int n) = .ok bound := by
  -- The blanks fall away, and the digits are read back as the number.
  rw [coerce_of_given rfl, coerce_of_given rfl, Value.convert, Value.convert, map_eq_ok, map_eq_ok]
  have same := toInteger_intDigits n before behind
  refine exists_congr fun k => and_congr_left fun _ => ⟨fun read => ?_, fun read => ?_⟩
  · exact eq_ok_of_toOption (same ▸ read ▸ rfl)
  · exact eq_ok_of_toOption (same.symm ▸ read ▸ rfl)

/-- A text that is not bound is complained about. -/
theorem coerce_text_refused {type : SemanticType} {s : String}
    (unbound : ∀ bound, coerce levels field type (.text s) ≠ .ok bound) :
    ∃ complaint, coerce levels field type (.text s) = .error (.conversion complaint) := by
  cases refused : bindValue levels field type (.text s) with
  | ok bound => exact absurd (coerce_eq_ok_iff.mpr refused) (unbound bound)
  | error complaint =>
    -- Every text can be shown.
    have showable := (Scalar.showable_iff levels (.text s)).mpr nofun
    exact ⟨complaint, coerce_eq_conversion_iff.mpr ⟨refused, showable⟩⟩

/--
A scalar is bound as a whole number of sixty-four bits exactly when it denotes that number.

Null stays null. Anything else is refused, and told as it was given: numbers that are too large, fractions,
infinite numbers and no numbers, and texts that spell no number. Only a number with too many digits to be
written is never told: the complaint would show it. A number of any size and its digits, with blanks around
them, are bound to the same or both refused, and both are told unless the number cannot be written.
-/
theorem Scalar.coerce_integer_exact (levels : Nat) (field : String) (scalar : Scalar) :
    (∀ bound, coerce levels field .integer scalar.toValue = .ok bound ↔
      scalar = .null ∧ bound = .null ∨
        ∃ k, bound = .integer k ∧ scalar.Denotes k ∧ -2 ^ 63 ≤ k ∧ k ≤ 2 ^ 63 - 1) ∧
    ((∃ complaint, coerce levels field .integer scalar.toValue = .error (.conversion complaint) ∧
        complaint.field = field ∧ complaint.type = "integer" ∧ complaint.value = scalar.toValue) ↔
      scalar ≠ .null ∧ (∀ k, scalar.Denotes k → k < -2 ^ 63 ∨ 2 ^ 63 - 1 < k) ∧
        ∀ n, scalar = .int n → isWritable n = true) ∧
    (∀ misuse, coerce levels field .integer scalar.toValue = .error (.misuse misuse) ↔
      misuse = .notAllowed unwritableIntegerText ∧ ∃ n, scalar = .int n ∧ isWritable n = false) ∧
    ∀ n front back, AllBlank front → AllBlank back →
      let text := Value.text (String.ofList (front ++ intDigits n ++ back))
      (∃ bound, coerce levels field .integer (.int n) = .ok bound ∧
        coerce levels field .integer text = .ok bound) ∨
      (∃ complaint, coerce levels field .integer text = .error (.conversion complaint)) ∧
        (isWritable n = true ∧
            (∃ complaint, coerce levels field .integer (.int n) = .error (.conversion complaint)) ∨
          isWritable n = false ∧
            coerce levels field .integer (.int n) =
              .error (.misuse (.notAllowed unwritableIntegerText))) := by
  refine ⟨fun bound => coerce_integer_eq_ok_iff, ?_, fun misuse => ?_, ?_⟩
  · rw [← and_assoc, ← bindValue_integer_error_iff levels field, ← showable_iff levels]
    constructor
    · rintro ⟨complaint, told, _⟩
      obtain ⟨refused, showable⟩ := coerce_eq_conversion_iff.mp told
      exact ⟨⟨complaint, refused⟩, showable⟩
    · rintro ⟨⟨complaint, refused⟩, showable⟩
      exact ⟨complaint, coerce_eq_conversion_iff.mpr ⟨refused, showable⟩, bindValue_error refused⟩
  · rw [← unshown_iff levels]
    refine ⟨fun failed => (coerce_misuse failed).2, fun unshown => ?_⟩
    obtain ⟨rfl, n, rfl, long⟩ := (unshown_iff levels scalar).mp unshown
    exact coerce_unwritable long
  · intro n front back before behind text
    -- The digits and the number are bound alike, so only the refusals differ.
    have alike (bound : BoundValue) : coerce levels field .integer text = .ok bound ↔
        coerce levels field .integer (.int n) = .ok bound := coerce_intDigits n before behind
    cases refused : bindValue levels field .integer (.int n) with
    | ok bound =>
      have found := coerce_eq_ok_iff.mpr refused
      exact .inl ⟨bound, found, (alike bound).mpr found⟩
    -- Where neither is bound the text has a complaint, and the number one if it can be shown.
    | error complaint =>
      have unbound (bound : BoundValue) : coerce levels field .integer text ≠ .ok bound := by
        intro found
        cases refused.symm.trans (coerce_eq_ok_iff.mp ((alike bound).mp found))
      refine .inr ⟨coerce_text_refused unbound, ?_⟩
      cases written : isWritable n with
      | true =>
        exact .inl ⟨rfl, complaint, coerce_eq_conversion_iff.mpr
          ⟨refused, Value.showable_int.mpr written⟩⟩
      | false => exact .inr ⟨rfl, coerce_unwritable written⟩

/-- The smallest number is bound with blanks around it, and the one below it is refused in both forms. -/
theorem smallestInteger_coerced :
    AllBlank ['\t', ' '] ∧ AllBlank ['\n'] ∧
    coerce 9 "amount" .integer (.text "\t -9223372036854775808\n") =
      .ok (.integer (-9223372036854775808)) ∧
    (∃ complaint, coerce 9 "amount" .integer (.text "\t -9223372036854775809\n") =
      .error (.conversion complaint)) ∧
    ∃ complaint, coerce 9 "amount" .integer (.float .nan) = .error (.conversion complaint) ∧
      complaint.value = .float .nan := by
  -- The last part reads a value that is no number, the other two read digits.
  have before : AllBlank ['\t', ' '] := List.all_iff_forall_prop.mp (by decide)
  have behind : AllBlank ['\n'] := List.all_iff_forall_prop.mp (by decide)
  obtain ⟨_, refused, _, same⟩ := Scalar.coerce_integer_exact 9 "amount" (.float .nan)
  refine ⟨before, behind, ?_, ?_, ?_⟩
  · have text : String.ofList (['\t', ' '] ++ intDigits (-9223372036854775808) ++ ['\n']) =
        "\t -9223372036854775808\n" := by decide +kernel
    have fits : coerce 9 "amount" .integer (.int (-9223372036854775808)) =
        .ok (.integer (-9223372036854775808)) := by rfl
    rcases same _ _ _ before behind with ⟨bound, number, digits⟩ | ⟨_, ⟨_, _, refused⟩ | ⟨_, refused⟩⟩
    · cases fits.symm.trans number
      exact text ▸ digits
    · cases fits.symm.trans refused
    · cases fits.symm.trans refused
  · have text : String.ofList (['\t', ' '] ++ intDigits (-9223372036854775809) ++ ['\n']) =
        "\t -9223372036854775809\n" := by decide +kernel
    rcases same (-9223372036854775809) _ _ before behind with ⟨bound, number, _⟩ | ⟨told, _⟩
    · cases bound <;> cases number
    · exact text ▸ told
  · obtain ⟨complaint, found, _, _, value⟩ := refused.mpr
      ⟨nofun, fun k denoted => (nomatch denoted), nofun⟩
    exact ⟨complaint, found, value⟩

/-- Not every whole number that does not fit is refused with a complaint. -/
theorem longInteger_not_told : ¬ ∀ n : Int, n < -2 ^ 63 ∨ 2 ^ 63 - 1 < n →
    ∃ complaint, coerce 9 "amount" .integer (.int n) = .error (.conversion complaint) := by
  intro told
  -- The number is one that cannot even be written into a complaint.
  have long : isWritable (powTen longestInteger) = false := by decide +kernel
  obtain ⟨complaint, refused⟩ := told _ (wide_of_unwritable long)
  cases (coerce_unwritable long).symm.trans refused

end Joinery
