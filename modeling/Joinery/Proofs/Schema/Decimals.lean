import Joinery.Proofs.Number.RoundTrip
import Joinery.Proofs.Schema.WholeNumbers

/-! A value becomes the decimal that it is written as, unless it is a number that is not finite. -/

namespace Joinery

/-- The decimal that a value is written as, always a number. -/
inductive Value.WrittenAs : Value → Decimal → Prop where
  /-- A truth value is zero or one. -/
  | bool (truth : Bool) : WrittenAs (.bool truth) (.finite false (if truth then 1 else 0) 0)
  /-- A whole number has all its digits. -/
  | int (n : Int) : WrittenAs (.int n) (.finite (n < 0) n.natAbs 0)
  /-- A text spells it, with zeros at the end kept. -/
  | text {s : String} {d : Decimal} (spelled : SpellsDecimal s.toList d) : WrittenAs (.text s) d
  /-- A floating-point number is written with the fewest digits that read back as it, the nearest of those. -/
  | float {x : Binary64} {d : Decimal} (spelled : SpellsDecimal x.text.toList d)
    (short : x.IsShortest d) : WrittenAs (.float x) d

/-- The decimal that a floating-point number becomes although it is not finite. -/
inductive Value.Nonfinite : Value → Decimal → Prop where
  /-- No number stays none. -/
  | nan : Nonfinite (.float .nan) (.nan false false 0)
  /-- An infinite one keeps its side. -/
  | infinite (negative : Bool) : Nonfinite (.float (.infinite negative)) (.infinite negative)

/-- What cannot become a decimal: texts that spell no number, and what is no scalar. -/
def Value.NoDecimal : Value → Prop
  | .null | .bool _ | .int _ | .float _ => False
  | .text s => ∀ d, ¬ SpellsDecimal s.toList d
  | .decimal _ | .moment _ | .date _ | .list _ | .map _ => True

variable {levels : Nat} {field : String} {value : Value} {d : Decimal}

/-- A decimal that is spelled is a number. -/
theorem SpellsDecimal.finite {text : List Char} (spelled : SpellsDecimal text d) :
    d.isFinite = true :=
  (Decimal.ofText?_finite_iff.mpr spelled).2

/-- What a value is written as is a number. -/
theorem Value.WrittenAs.finite (written : value.WrittenAs d) : d.isFinite = true := by
  -- Truths and whole numbers are numbers, and what is spelled is finite.
  cases written with
  | bool => rfl
  | int => rfl
  | text spelled => exact spelled.finite
  | float spelled => exact spelled.finite

/-- A floating-point number that is not finite becomes a decimal that is not finite either. -/
theorem Value.Nonfinite.not_finite (special : value.Nonfinite d) : d.isFinite = false := by
  cases special <;> rfl

/-- A finite floating-point number becomes the decimal that its text spells. -/
theorem Binary64.toDecimal_eq_iff {x : Binary64} (finite : x.isFinite = true) :
    x.toDecimal = d ↔ SpellsDecimal x.text.toList d ∧ x.IsShortest d := by
  -- A text spells one decimal only, and the text of a finite number spells its shortest one.
  obtain ⟨own, spelled, short⟩ := exists_text finite
  have read := (Decimal.ofText?_finite_iff.mpr spelled).1
  rw [toDecimal, read, Option.getD_some]
  constructor
  · rintro rfl
    exact ⟨spelled, short⟩
  · rintro ⟨other, _⟩
    exact Option.some.inj (read.symm.trans (Decimal.ofText?_finite_iff.mpr other).1)

/-- A number that is not finite becomes what its text is a word for, and spells no number. -/
theorem Binary64.toDecimal_of_word {x : Binary64} {special : Decimal}
    (word : Decimal.ofText? x.text.toList = some special) (notFinite : special.isFinite = false) :
    x.toDecimal = special ∧ ∀ d, ¬ SpellsDecimal x.text.toList d := by
  -- What is spelled is finite, and the word stands for something that is not.
  refine ⟨by rw [toDecimal, word, Option.getD_some], fun d spelled => ?_⟩
  obtain ⟨read, finite⟩ := Decimal.ofText?_finite_iff.mpr spelled
  rw [Option.some.inj (read.symm.trans word), notFinite] at finite
  exact Bool.false_ne_true finite

/-- A text becomes the decimal that it spells. -/
theorem Value.toDecimal_text {s : String} :
    (Value.text s).toDecimal = .ok d ↔ SpellsDecimal s.toList d := by
  -- The text is read first, and what is not finite is refused afterwards.
  rw [← Decimal.ofText?_finite_iff, toDecimal]
  cases read : Decimal.ofText? s.toList with
  | none => exact iff_of_false nofun nofun
  | some own =>
    dsimp only
    split
    · rename_i finite
      rw [Except.ok.injEq, Option.some.injEq]
      exact ⟨fun same => ⟨same, same ▸ finite⟩, And.left⟩
    · rename_i special
      refine iff_of_false nofun ?_
      rintro ⟨same, finite⟩
      exact special ((Option.some.inj same) ▸ finite)

/-- A value becomes exactly the decimal that it is written as, unless it is not finite. -/
theorem Value.toDecimal_eq_ok_iff :
    value.toDecimal = .ok d ↔ value.WrittenAs d ∨ value.Nonfinite d := by
  -- Floating-point numbers are the only values that go through their text without a look at what it says.
  cases value with
  | bool truth =>
    have made : (Value.bool truth).toDecimal =
        .ok (.finite false (if truth then 1 else 0) 0) := by cases truth <;> rfl
    rw [made, Except.ok.injEq]
    exact ⟨fun same => .inl (same ▸ .bool truth), fun | .inl (.bool _) => rfl⟩
  | int n =>
    rw [toDecimal, Except.ok.injEq]
    exact ⟨fun same => .inl (same ▸ .int n), fun | .inl (.int _) => rfl⟩
  | text s =>
    rw [toDecimal_text]
    exact ⟨fun spelled => .inl (.text spelled), fun | .inl (.text spelled) => spelled⟩
  | float x =>
    rw [toDecimal, Except.ok.injEq]
    cases x with
    | finite =>
      rw [Binary64.toDecimal_eq_iff rfl]
      exact ⟨fun ⟨spelled, short⟩ => .inl (.float spelled short),
        fun | .inl (.float spelled short) => ⟨spelled, short⟩⟩
    -- The words for what is no number are read as decimals, though they spell none.
    | nan =>
      have word : Decimal.ofText? (Binary64.text .nan).toList = some (.nan false false 0) := by
        decide +kernel
      obtain ⟨made, unspelled⟩ := Binary64.toDecimal_of_word word rfl
      rw [made]
      exact ⟨fun same => .inr (same ▸ .nan),
        fun | .inl (.float spelled _) => absurd spelled (unspelled d) | .inr .nan => rfl⟩
    | infinite negative =>
      have word : Decimal.ofText? (Binary64.text (.infinite negative)).toList =
          some (.infinite negative) := by cases negative <;> decide +kernel
      obtain ⟨made, unspelled⟩ := Binary64.toDecimal_of_word word rfl
      rw [made]
      exact ⟨fun same => .inr (same ▸ .infinite negative),
        fun | .inl (.float spelled _) => absurd spelled (unspelled d) | .inr (.infinite _) => rfl⟩
  -- All other values are refused, and written as nothing.
  | null | decimal | moment | date | list | map =>
    exact iff_of_false nofun (fun | .inl written => nomatch written)

/-- Whatever cannot become a decimal does not, and everything else that is not null does. -/
theorem Value.noDecimal_iff :
    value.NoDecimal ↔ value ≠ .null ∧ ∀ d, ¬ (value.WrittenAs d ∨ value.Nonfinite d) := by
  -- Only a text that spells nothing, and what is no scalar, is left without a decimal.
  cases value with
  | null => exact ⟨False.elim, fun ⟨given, _⟩ => given rfl⟩
  | bool truth => exact ⟨False.elim, fun ⟨_, nothing⟩ => nothing _ (.inl (.bool truth))⟩
  | int n => exact ⟨False.elim, fun ⟨_, nothing⟩ => nothing _ (.inl (.int n))⟩
  | text s =>
    exact ⟨fun nothing => ⟨nofun, fun d => fun | .inl (.text spelled) => nothing d spelled⟩,
      fun ⟨_, nothing⟩ d spelled => nothing d (.inl (.text spelled))⟩
  | float x =>
    refine ⟨False.elim, fun ⟨_, nothing⟩ => ?_⟩
    cases x with
    | nan => exact nothing _ (.inr .nan)
    | infinite negative => exact nothing _ (.inr (.infinite negative))
    | finite negative mantissa exponent held =>
      obtain ⟨d, spelled, short⟩ :=
        Binary64.exists_text (rfl : (Binary64.finite negative mantissa exponent held).isFinite = true)
      exact nothing d (.inl (.float spelled short))
  | decimal | moment | date | list | map =>
    exact ⟨fun _ => ⟨nofun, fun d => fun | .inl written => nomatch written⟩, fun _ => trivial⟩

/-- A text that is a word for a special value is refused. -/
theorem Value.coerce_special {s : String} {special : Decimal}
    (word : Decimal.ofText? s.toList = some special) (notFinite : special.isFinite = false) :
    coerce levels field .decimal (.text s) =
      .error (.conversion ⟨field, "decimal", .text s, "Expected a finite decimal number"⟩) := by
  -- A text can always be shown, so the complaint is made.
  have showable := (Scalar.showable_iff levels (.text s)).mpr nofun
  refine coerce_eq_conversion_iff.mpr ⟨?_, showable⟩
  rw [bindValue_of_given rfl, convert, toDecimal, word]
  simp only [notFinite]
  rfl

/-- A value is bound as a decimal exactly when it is written as one, or is one that is no number; null stays null. -/
theorem Value.coerce_decimal_eq_ok_iff {bound : BoundValue} :
    coerce levels field .decimal value = .ok bound ↔ value = .null ∧ bound = .null ∨
      ∃ d, bound = .decimal d ∧ (value.WrittenAs d ∨ value.Nonfinite d) := by
  -- Null stays null, and everything else is converted.
  by_cases null : value = .null
  · subst null
    have nothing (d : Decimal) : ¬ (WrittenAs .null d ∨ Nonfinite .null d) :=
      fun | .inl written => nomatch written
    simp only [nothing, and_false, exists_false, or_false, true_and]
    exact ⟨fun same => (Except.ok.inj same).symm, fun same => same ▸ rfl⟩
  · have given : value.isNull = false := by
      cases value with
      | null => contradiction
      | _ => rfl
    rw [coerce_of_given given, convert, map_eq_ok]
    simp only [null, false_and, false_or]
    exact exists_congr fun d => by rw [toDecimal_eq_ok_iff, and_comm, eq_comm]

/-- A value is not bound as a decimal exactly when it cannot become one. -/
theorem Value.bindValue_decimal_error_iff (levels : Nat) (field : String) :
    (∃ complaint, bindValue levels field .decimal value = .error complaint) ↔ value.NoDecimal := by
  have bounds (bound : BoundValue) : bindValue levels field .decimal value = .ok bound ↔ _ :=
    coerce_eq_ok_iff.symm.trans coerce_decimal_eq_ok_iff
  rw [noDecimal_iff]
  cases coerced : bindValue levels field .decimal value with
  | ok bound =>
    refine iff_of_false nofun ?_
    rintro ⟨given, none⟩
    rcases (bounds bound).mp coerced with ⟨null, _⟩ | ⟨d, _, known⟩
    · exact given null
    · exact none d known
  | error complaint =>
    -- Null and whatever is known as a decimal would have been bound.
    refine iff_of_true ⟨complaint, rfl⟩ ⟨?_, fun d known => ?_⟩
    · rintro rfl
      contradiction
    · cases coerced.symm.trans ((bounds (.decimal d)).mpr (.inr ⟨d, rfl, known⟩))

/--
A value is bound as the decimal that it is written as, which is a number, and null stays null.

Texts that spell no number are refused, and so is what is no scalar; the complaint shows the value, so it is made
when the value can be shown. A text that is a word for infinity or for no number is refused with that reason, but
a floating-point number that is not finite is not refused: it is bound as a decimal that is not finite either.
-/
theorem Value.coerce_decimal_written (levels : Nat) (field : String) (value : Value) :
    (∀ bound, coerce levels field .decimal value = .ok bound ↔ value = .null ∧ bound = .null ∨
      ∃ d, bound = .decimal d ∧
        (value.WrittenAs d ∧ d.isFinite = true ∨ value.Nonfinite d ∧ d.isFinite = false)) ∧
    ((∃ fault, coerce levels field .decimal value = .error fault) ↔ value.NoDecimal) ∧
    ((∃ error, coerce levels field .decimal value = .error (.conversion error) ∧ error.field = field ∧
        error.type = "decimal" ∧ error.value = value) ↔ value.NoDecimal ∧ value.Showable levels) ∧
    ∀ s special, Decimal.ofText? s.toList = some special → special.isFinite = false →
      coerce levels field .decimal (.text s) =
        .error (.conversion ⟨field, "decimal", .text s, "Expected a finite decimal number"⟩) := by
  -- What it is written as is finite, and what is not written is bound all the same when it is no number.
  refine ⟨fun bound => ?_, ?_, ?_, fun s special => coerce_special⟩
  · rw [coerce_decimal_eq_ok_iff]
    refine or_congr_right (exists_congr fun d => and_congr_right fun _ => or_congr ?_ ?_)
    · exact ⟨fun written => ⟨written, written.finite⟩, And.left⟩
    · exact ⟨fun special => ⟨special, special.not_finite⟩, And.left⟩
  · rw [← bindValue_decimal_error_iff levels field, coerce]
    cases bindValue levels field .decimal value with
    | ok bound =>
      -- Neither is a fault.
      refine iff_of_false ?_ ?_ <;> rintro ⟨_, ⟨⟩⟩
    | error complaint => exact iff_of_true ⟨_, rfl⟩ ⟨_, rfl⟩
  · rw [← bindValue_decimal_error_iff levels field]
    constructor
    · rintro ⟨complaint, told, _⟩
      obtain ⟨refused, showable⟩ := coerce_eq_conversion_iff.mp told
      exact ⟨⟨complaint, refused⟩, showable⟩
    · rintro ⟨⟨complaint, refused⟩, showable⟩
      exact ⟨complaint, coerce_eq_conversion_iff.mpr ⟨refused, showable⟩, bindValue_error refused⟩

/-- The smallest positive floating-point number. -/
def smallestFloat : Binary64 := .finite false 1 (-1074) (by decide)

/-- It is bound with one digit, the nearest of five that read back as it. -/
theorem smallestFloat_coerced :
    coerce 9 "price" .decimal (.float smallestFloat) = .ok (.decimal (.finite false 5 (-324))) ∧
      Value.WrittenAs (.float smallestFloat) (.finite false 5 (-324)) := by
  -- The digit is found by the search for the shortest decimal.
  have made : coerce 9 "price" .decimal (.float smallestFloat) =
      .ok (.decimal (.finite false 5 (-324))) := by
    have read : smallestFloat.toDecimal = .finite false 5 (-324) := by
      decide +kernel
    rw [coerce_of_given rfl, Value.convert, Value.toDecimal, read]
    rfl
  refine ⟨made, ?_⟩
  rcases ((Value.coerce_decimal_written 9 "price" _).1 _).mp made with
    ⟨null, _⟩ | ⟨d, same, ⟨written, _⟩ | ⟨special, _⟩⟩
  · contradiction
  · exact BoundValue.decimal.inj same ▸ written
  · contradiction

/-- Not every value that is bound as a decimal is bound as a number. -/
theorem nonfinite_not_refused : ¬ ∀ value bound, coerce 9 "price" .decimal value = .ok bound →
    bound = .null ∨ ∃ d, bound = .decimal d ∧ d.isFinite = true := by
  intro numbers
  -- The value that is no number is bound as it is.
  have made : coerce 9 "price" .decimal (.float .nan) = .ok (.decimal (.nan false false 0)) := by rfl
  rcases numbers _ _ made with null | ⟨d, same, finite⟩
  · contradiction
  · cases same
    contradiction

end Joinery
