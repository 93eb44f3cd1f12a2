import Joinery.Text.Blank
import Mathlib.Data.List.TakeWhile

/-! A text is blanks, what is left without them, and blanks again. -/

namespace Joinery

/-- Characters that are all blank. -/
def AllBlank (cs : List Char) : Prop :=
  ∀ c ∈ cs, isBlank c = true

/-- Blanks in front are left out. -/
theorem dropWhile_blank {front rest : List Char} (blank : AllBlank front) :
    (front ++ rest).dropWhile isBlank = rest.dropWhile isBlank :=
  List.dropWhile_append_of_pos blank

/-- What begins with no blank is left as it is. -/
theorem dropWhile_of_head {cs : List Char} (dark : ∀ c ∈ cs.head?, isBlank c = false) :
    cs.dropWhile isBlank = cs := by
  -- Only the first character is looked at.
  cases cs with
  | nil => rfl
  | cons c rest => rw [List.dropWhile_cons_of_neg (by simp [dark c rfl])]

/-- A text is blanks, what is left without them, and blanks. -/
theorem exists_trimChars (cs : List Char) : ∃ front back,
    cs = front ++ trimChars cs ++ back ∧ AllBlank front ∧ AllBlank back := by
  -- What is taken off is the blanks in front, and the blanks in front of the text turned around.
  refine ⟨cs.takeWhile isBlank, ((cs.dropWhile isBlank).reverse.takeWhile isBlank).reverse, ?_,
    fun c member => List.mem_takeWhile_imp member,
    fun c member => List.mem_takeWhile_imp (List.mem_reverse.mp member)⟩
  rw [trimChars, List.append_assoc, ← List.reverse_append, List.takeWhile_append_dropWhile,
    List.reverse_reverse, List.takeWhile_append_dropWhile]

/-- Without the blanks around it a text without blanks is left. -/
theorem trimChars_of_blanks {front word back : List Char} (before : AllBlank front)
    (dark : ∀ c ∈ word, isBlank c = false) (behind : AllBlank back) :
    trimChars (front ++ word ++ back) = word := by
  -- The blanks are taken off at both ends, and stop at the word.
  have blank : AllBlank back.reverse := fun c member => behind c (List.mem_reverse.mp member)
  cases word with
  | nil =>
    refine trimChars_eq_nil_of_all fun c member => ?_
    rw [List.append_nil] at member
    exact (List.mem_append.mp member).elim (before c) (behind c)
  | cons first rest =>
    have opened : ∀ c ∈ (first :: rest ++ back).head?, isBlank c = false := by
      rintro c ⟨⟩
      exact dark _ List.mem_cons_self
    have closed : ∀ c ∈ (first :: rest).reverse.head?, isBlank c = false := fun c last =>
      dark c (List.mem_reverse.mp (List.mem_of_head? last))
    rw [trimChars, List.append_assoc, dropWhile_blank before, dropWhile_of_head opened,
      List.reverse_append, dropWhile_blank blank, dropWhile_of_head closed, List.reverse_reverse]

end Joinery
