import Joinery.Text.LowerCase
import Mathlib.Data.List.Basic

/-! The case of ASCII letters is lost when a text is put in lower case. -/

namespace Joinery

/-- Two texts that differ in the case of ASCII letters only. -/
def SameLetters (text other : String) : Prop :=
  other.toList.map Char.toLower = text.toList.map Char.toLower

instance (text other : String) : Decidable (SameLetters text other) :=
  inferInstanceAs (Decidable (_ = _))

/-- A text has its own letters. -/
theorem SameLetters.refl (text : String) : SameLetters text text := rfl

/-- Texts put together from parts have the letters of the parts. -/
theorem SameLetters.append {front frontToo back backToo : String} (first : SameLetters front frontToo)
    (second : SameLetters back backToo) : SameLetters (front ++ back) (frontToo ++ backToo) := by
  -- The small letters of both sides are compared, and they are put together as the texts are.
  rw [SameLetters] at first second ⊢
  rw [String.toList_append, String.toList_append, List.map_append, List.map_append, first, second]

/-- What sees no difference between a capital letter and its small form sees none on any character. -/
theorem apply_toLower {α : Type} {f : Char → α} (capitals : ∀ n : Fin 26,
    f (Char.ofNat (65 + n)).toLower = f (Char.ofNat (65 + n))) (c : Char) :
    f c.toLower = f c := by
  by_cases capital : 65 ≤ c.toNat ∧ c.toNat ≤ 90
  · have own := capitals ⟨c.toNat - 65, by omega⟩
    rwa [show 65 + (c.toNat - 65) = c.toNat by omega, Char.ofNat_toNat] at own
  · -- Nothing but the capital letters is changed.
    have unchanged : c.toLower = c := dif_neg capital
    rw [unchanged]

/-- A letter and its small form have one form in lower case. -/
theorem lowerChar_toLower (c : Char) : lowerChar c.toLower = lowerChar c :=
  apply_toLower (by decide +kernel) c

/-- Small letters are cased where capital ones are. -/
theorem isCased_toLower (c : Char) : isCased c.toLower = isCased c :=
  apply_toLower (by decide +kernel) c

/-- No letter is passed over in one case and not in the other. -/
theorem isCaseIgnorable_toLower (c : Char) : isCaseIgnorable c.toLower = isCaseIgnorable c :=
  apply_toLower (by decide +kernel) c

/-- The letter that has a final form is not an ASCII letter in either case. -/
theorem toLower_eq_sigma (c : Char) : c.toLower.toNat = 0x3A3 ↔ c.toNat = 0x3A3 := by
  -- Whether a character is that letter survives its lower-case form.
  have same : (c.toLower.toNat == 0x3A3) = (c.toNat == 0x3A3) :=
    apply_toLower (f := fun c => c.toNat == 0x3A3) (by decide +kernel) c
  simpa only [beq_eq_beq] using same

/-- Whether a word goes on does not depend on the case of ASCII letters. -/
theorem continuesWord_toLower (rest : List Char) :
    continuesWord (rest.map Char.toLower) = continuesWord rest := by
  -- What is passed over and what is cased are both blind to the case of letters.
  have passed : isCaseIgnorable ∘ Char.toLower = isCaseIgnorable := funext isCaseIgnorable_toLower
  rw [continuesWord, continuesWord, List.dropWhile_map, passed]
  cases rest.dropWhile isCaseIgnorable with
  | nil => rfl
  | cons c _ => exact isCased_toLower c

/-- Lowering from left to right does not depend on it either. -/
theorem lowerFrom_toLower (afterCased : Bool) (cs : List Char) :
    lowerFrom afterCased (cs.map Char.toLower) = lowerFrom afterCased cs := by
  -- Each character is lowered alike, and leaves the same surroundings for the next one.
  induction cs generalizing afterCased with
  | nil => rfl
  | cons c rest ih =>
    rw [List.map_cons, lowerFrom, lowerFrom, lowerChar_toLower, isCased_toLower,
      isCaseIgnorable_toLower, continuesWord_toLower, ih]
    simp only [toLower_eq_sigma]

/-- Texts with the same letters have one form in lower case. -/
theorem SameLetters.lowered {text other : String} (same : SameLetters text other) :
    Joinery.lowered other = Joinery.lowered text := by
  rw [Joinery.lowered, Joinery.lowered, ← lowerFrom_toLower, same, lowerFrom_toLower]

end Joinery
