import Joinery.Text.LowerCase
import Mathlib.Data.Bool.AllAny
import Mathlib.Data.List.Basic

/-! A text in lower case stays as it is when it is put in lower case again. -/

namespace Joinery

/-- Whether a run moves a code point. -/
def LowerRun.moves (run : LowerRun) (code : Nat) : Bool :=
  run.first ≤ code && code ≤ run.last && (code - run.first) % run.step = 0

/-- Whether the code points to which a run leads are left alone by another one. -/
def LowerRun.leadsOut (run other : LowerRun) : Bool :=
  let start := (run.first + run.shift).toNat
  start + (run.last - run.first) < other.first || other.last < start ||
    (run.first == run.last || run.step == 2) && other.step == 2 && start % 2 != other.first % 2

/-- All runs, and one for the dotted capital letter, whose lower case form is two characters. -/
def changingRuns : List LowerRun :=
  ⟨0x130, 0x130, 1, 0⟩ :: lowerRuns

/-- No run leads to code points that are changed again. -/
theorem lowerRuns_leadOut :
    lowerRuns.all (fun run => changingRuns.all run.leadsOut) = true := by
  decide +kernel

/-- Every run leads to code points. -/
theorem lowerRuns_shift : ∀ run ∈ lowerRuns, 0 ≤ run.first + run.shift := by
  decide +kernel

/-- Whether a character is its own lower case form, wherever it stands. -/
def IsLower (c : Char) : Prop :=
  ∀ run ∈ changingRuns, run.moves c.toNat = false

instance (c : Char) : Decidable (IsLower c) :=
  inferInstanceAs (Decidable (∀ _ ∈ _, _))

variable {c : Char} {cs : List Char}

/-- Such a character is not the dotted capital letter. -/
theorem IsLower.ne_dotted (lower : IsLower c) : c.toNat ≠ 0x130 := by
  -- The first of the runs moves it.
  intro same
  have unmoved := lower _ List.mem_cons_self
  rw [same] at unmoved
  contradiction

/-- It is not the letter that has a final form. -/
theorem IsLower.ne_sigma (lower : IsLower c) : c.toNat ≠ 0x3A3 := by
  -- One of the runs moves it.
  intro same
  have inside : ∃ run ∈ changingRuns, run.moves 0x3A3 = true := by
    decide +kernel
  obtain ⟨run, member, moved⟩ := inside
  rw [← same, lower run member] at moved
  contradiction

/-- It is no capital letter of ASCII. -/
theorem IsLower.toLower (lower : IsLower c) : c.toLower = c := by
  -- The first of the runs moves the capitals.
  refine dif_neg fun capital => ?_
  have inside : (⟨0x41, 0x5A, 1, 32⟩ : LowerRun) ∈ lowerRuns := List.mem_cons_self
  have unmoved := lower _ (List.mem_cons_of_mem _ inside)
  have first : 65 ≤ c.toNat := capital.1
  have last : c.toNat ≤ 90 := capital.2
  simp [LowerRun.moves, first, last, Nat.mod_one] at unmoved

/-- What no run moves is left as it is. -/
theorem IsLower.lowerChar (lower : IsLower c) : lowerChar c = [c] := by
  -- The three cases are ASCII, the dotted letter, and the runs.
  unfold Joinery.lowerChar
  split
  · rw [lower.toLower]
  · rw [if_neg lower.ne_dotted]
    have none : lowerRuns.find? (·.moves c.toNat) = none :=
      List.find?_eq_none.mpr fun run member => by
        simp [lower run (List.mem_cons_of_mem _ member)]
    unfold LowerRun.moves at none
    rw [none]

/-- A run that leads out of another one leads to code points that this one does not move. -/
theorem LowerRun.moves_eq_false {run other : LowerRun} {code : Nat}
    (positive : 0 ≤ run.first + run.shift) (out : run.leadsOut other = true)
    (moved : run.moves code = true) :
    other.moves (code + run.shift).toNat = false := by
  simp only [moves, Bool.and_eq_true, decide_eq_true_eq] at moved
  simp only [leadsOut, Bool.and_eq_true, Bool.or_eq_true, decide_eq_true_eq, beq_iff_eq,
    bne_iff_ne] at out
  obtain ⟨⟨low, high⟩, place⟩ := moved
  rw [Bool.eq_false_iff]
  intro again
  simp only [moves, Bool.and_eq_true, decide_eq_true_eq] at again
  obtain ⟨⟨low', high'⟩, place'⟩ := again
  -- The two intervals lie apart, or both runs go in steps of two from points of different parity.
  rcases out with (before | behind) | ⟨⟨single, double⟩, parity⟩
  · omega
  · omega
  · rw [double] at place'
    rcases single with single | step
    · omega
    · rw [step] at place
      omega

/-- What is no code point of a character stands for the first one. -/
theorem toNat_ofNat (code : Nat) :
    (Char.ofNat code).toNat = code ∨ (Char.ofNat code).toNat = 0 := by
  -- A number that is no code point becomes zero.
  by_cases valid : code.isValidChar
  · rw [Char.ofNat, dif_pos valid]
    exact .inl rfl
  · rw [Char.ofNat, dif_neg valid]
    exact .inr rfl

/-- The lower case form of a character that a run moves. -/
theorem isLower_moved {run : LowerRun} {code : Nat} (member : run ∈ lowerRuns)
    (moved : run.moves code = true) : IsLower (Char.ofNat (code + run.shift).toNat) := by
  -- What is moved out of its run lies in no run at all.
  have positive := lowerRuns_shift run member
  have out := List.all_eq_true.mp (List.all_eq_true.mp lowerRuns_leadOut run member)
  intro other inside
  rcases toNat_ofNat (code + run.shift).toNat with same | zero
  · rw [same]
    exact LowerRun.moves_eq_false positive (out other inside) moved
  · have first : IsLower (Char.ofNat 0) := by decide +kernel
    rw [zero]
    exact first other inside

/-- A character that no run moves is a lower case form, unless it is the dotted letter. -/
theorem isLower_of_unmoved (none : ∀ run ∈ lowerRuns, run.moves c.toNat = false)
    (plain : c.toNat ≠ 0x130) : IsLower c := by
  intro run inside
  -- The dotted letter is what the first of all runs moves.
  rcases List.mem_cons.mp inside with rfl | inside
  · rw [Bool.eq_false_iff]
    intro same
    simp only [LowerRun.moves, Bool.and_eq_true, decide_eq_true_eq] at same
    omega
  · exact none run inside

/-- The small letters of ASCII are lower case forms, and so is all else in it. -/
theorem isLower_toLower (ascii : c.toNat < 128) : IsLower c.toLower := by
  by_cases capital : 65 ≤ c.toNat ∧ c.toNat ≤ 90
  · have small : ∀ n : Fin 26, IsLower (Char.ofNat (65 + n)).toLower := by decide +kernel
    have own := small ⟨c.toNat - 65, by omega⟩
    rwa [show 65 + (c.toNat - 65) = c.toNat by omega, Char.ofNat_toNat] at own
  · -- Only the first run begins among the characters of ASCII.
    have unchanged : c.toLower = c := dif_neg capital
    have above : ∀ run ∈ lowerRuns, (run.first = 65 ∧ run.last = 90) ∨ 128 ≤ run.first := by
      decide +kernel
    rw [unchanged]
    refine isLower_of_unmoved (fun run inside => Bool.eq_false_iff.mpr fun moved => ?_) (by omega)
    simp only [LowerRun.moves, Bool.and_eq_true, decide_eq_true_eq] at moved
    have place := above run inside
    omega

/-- The lower case form of a character consists of characters that are lower case forms themselves. -/
theorem isLower_of_mem_lowerChar {d : Char} (member : d ∈ lowerChar c) : IsLower d := by
  unfold lowerChar at member
  -- ASCII and the dotted letter have their own cases; what is left is moved by a run or by none.
  split at member
  · rename_i ascii
    rw [List.mem_singleton.mp member]
    exact isLower_toLower ascii
  · split at member
    · have both : ∀ d ∈ ['i', Char.ofNat 0x307], IsLower d :=
        List.all_iff_forall_prop.mp (by decide +kernel)
      exact both d member
    · rename_i plain
      split at member
      · rename_i run found
        rw [List.mem_singleton.mp member]
        have moved := List.find?_some found
        exact isLower_moved (List.mem_of_find?_eq_some found) moved
      · rename_i none
        rw [List.mem_singleton.mp member]
        refine isLower_of_unmoved (fun run inside => ?_) plain
        have unmoved := List.find?_eq_none.mp none run inside
        exact Bool.eq_false_iff.mpr unmoved

/-- A text in lower case consists of such characters. -/
theorem isLower_of_mem_lowerFrom {afterCased : Bool} {d : Char} (member : d ∈ lowerFrom afterCased cs) :
    IsLower d := by
  induction cs generalizing afterCased with
  | nil => contradiction
  | cons c rest ih =>
    rw [lowerFrom, List.mem_append] at member
    rcases member with here | later
    · split at here
      · -- The final form of sigma is a small letter.
        rw [List.mem_singleton.mp here]
        decide +kernel
      · exact isLower_of_mem_lowerChar here
    · exact ih later

/-- Such characters are left as they are, from left to right. -/
theorem lowerFrom_eq_self (lower : ∀ c ∈ cs, IsLower c) (afterCased : Bool) :
    lowerFrom afterCased cs = cs := by
  -- The induction is on the characters from the left, since what stood before can matter.
  induction cs generalizing afterCased with
  | nil => rfl
  | cons c rest ih =>
    rw [List.forall_mem_cons] at lower
    have other : ¬ (c.toNat = 0x3A3 ∧ afterCased = true ∧ continuesWord rest = false) :=
      fun final => lower.1.ne_sigma final.1
    rw [lowerFrom, if_neg other, lower.1.lowerChar, ih lower.2, List.singleton_append]

/-- Putting a text in lower case twice is the same as once. -/
@[simp] theorem lowered_lowered (text : String) : lowered (lowered text) = lowered text := by
  rw [lowered, lowered, String.toList_ofList,
    lowerFrom_eq_self (fun _ => isLower_of_mem_lowerFrom)]

end Joinery
