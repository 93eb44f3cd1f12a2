import Joinery.Proofs.Text.LetterCase
import Joinery.Proofs.Text.Trimming
import Joinery.Schema.Document

/-! Which texts have the form of names, and which ones have that of an order. -/

namespace Joinery

section Names

/-- Letters, digits and underscores of ASCII, and no digit in front. -/
structure IsPlainName (name : String) : Prop where
  /-- There is something in it. -/
  filled : name ≠ ""
  /-- All characters are letters, digits or underscores. -/
  characters : ∀ c ∈ name.toList, c.isAlphanum = true ∨ c = '_'
  /-- The first one is no digit. -/
  start : ∀ c ∈ name.toList.head?, c.isDigit = false

/-- The letters of ASCII are two ranges. -/
theorem isAlpha_iff {c : Char} : c.isAlpha = true ↔
    (65 ≤ c.toNat ∧ c.toNat ≤ 90) ∨ (97 ≤ c.toNat ∧ c.toNat ≤ 122) := by
  -- The two ranges are those of the capitals and of the small letters.
  delta Char.isAlpha Char.isUpper Char.isLower
  simp only [Bool.or_eq_true, Bool.and_eq_true, decide_eq_true_eq, ge_iff_le,
    UInt32.le_iff_toNat_le]
  exact Iff.rfl

/-- The digits of ASCII are one range. -/
theorem isDigit_iff {c : Char} : c.isDigit = true ↔ 48 ≤ c.toNat ∧ c.toNat ≤ 57 := by
  simp only [Char.isDigit, Bool.and_eq_true, decide_eq_true_eq, ge_iff_le, UInt32.le_iff_toNat_le]
  exact Iff.rfl

/-- A name begins with a letter or an underscore. -/
theorem isNameStart_iff {c : Char} : isNameStart c = true ↔ c.isAlpha = true ∨ c = '_' := by
  -- Letters are tested by their ranges.
  rw [isAlpha_iff]
  simp only [isNameStart, Bool.or_eq_true, Bool.and_eq_true, decide_eq_true_eq, Char.le_def,
    UInt32.le_iff_toNat_le]
  exact Iff.rfl

/-- It goes on with letters, digits and underscores. -/
theorem isNamePart_iff {c : Char} : isNamePart c = true ↔ c.isAlphanum = true ∨ c = '_' := by
  -- Letters and the underscore can stand at the start, and digits come beside them.
  rw [isNamePart, Bool.or_eq_true, isNameStart_iff, Char.isAlphanum, Bool.or_eq_true, isDigit_iff]
  simp only [Bool.and_eq_true, decide_eq_true_eq, Char.le_def, UInt32.le_iff_toNat_le]
  change _ ∨ (48 ≤ c.toNat ∧ c.toNat ≤ 57) ↔ _
  tauto

/-- A plain name is what begins and goes on like one. -/
theorem isPlainName_iff {name : String} : IsPlainName name ↔
    ∃ first rest, name.toList = first :: rest ∧ isNameStart first = true ∧
      rest.all isNamePart = true := by
  -- The characters are those of a name, and the first one is no digit.
  constructor
  · rintro ⟨filled, characters, start⟩
    cases written : name.toList with
    | nil => exact absurd (String.toList_eq_nil_iff.mp written) filled
    | cons first rest =>
      rw [written] at characters start
      have digitless := start first rfl
      rw [List.forall_mem_cons] at characters
      refine ⟨first, rest, rfl, isNameStart_iff.mpr ?_, List.all_eq_true.mpr fun c member =>
        isNamePart_iff.mpr (characters.2 c member)⟩
      simpa [Char.isAlphanum, digitless] using characters.1
  · rintro ⟨first, rest, written, start, parts⟩
    rw [List.all_eq_true] at parts
    refine ⟨fun empty => ?_, ?_, ?_⟩
    · simp [empty] at written
    · rw [written, List.forall_mem_cons]
      exact ⟨isNamePart_iff.mp (by simp [isNamePart, start]),
        fun c member => isNamePart_iff.mp (parts c member)⟩
    · -- No digit is among the characters that a name may begin with.
      rw [written]
      rintro c ⟨⟩
      rcases isNameStart_iff.mp start with letter | rfl
      · rw [← Bool.not_eq_true, isDigit_iff]
        have range := isAlpha_iff.mp letter
        omega
      · decide

/-- Nothing is in a plain name that no name goes on with. -/
theorem IsPlainName.not_mem {name : String} (plain : IsPlainName name) {c : Char}
    (strange : isNamePart c = false) : c ∉ name.toList := by
  -- Every character of a plain name is one that a name goes on with.
  intro member
  have part := isNamePart_iff.mpr (plain.characters c member)
  exact absurd part (by simp [strange])

/-- Leaving out a line end leaves the text, or all of it but the line end. -/
theorem withoutLineEnd_cases (cs : List Char) :
    (withoutLineEnd cs = cs ∧ cs.getLast? ≠ some '\n') ∨ cs = withoutLineEnd cs ++ ['\n'] := by
  -- The line end is the last character, or there is none.
  unfold withoutLineEnd
  split
  · rename_i ended
    exact .inr (List.dropLast_append_getLast? '\n' ended).symm
  · rename_i open_
    exact .inl ⟨rfl, open_⟩

/-- A text without a line end is left as it is. -/
theorem withoutLineEnd_of_not_mem {cs : List Char} (plain : '\n' ∉ cs) : withoutLineEnd cs = cs :=
  if_neg fun ended => plain (List.mem_of_getLast? ended)

/-- A text has the form of a name exactly when it is a plain name without the line end. -/
theorem isName_iff_withoutLineEnd {name : String} :
    isName name = true ↔ IsPlainName (String.ofList (withoutLineEnd name.toList)) := by
  -- Both are tests of the first character and of all others.
  rw [isPlainName_iff, String.toList_ofList, isName]
  cases withoutLineEnd name.toList <;> simp

/-- What has the form of a name is a plain name, or one with a line end behind it. -/
theorem isName_iff {name : String} :
    isName name = true ↔ IsPlainName name ∨ ∃ plain, IsPlainName plain ∧ name = plain ++ "\n" := by
  -- At most one line end was left out.
  rw [isName_iff_withoutLineEnd]
  constructor
  · intro plain
    rcases withoutLineEnd_cases name.toList with ⟨whole, _⟩ | ended
    · rw [whole, String.ofList_toList] at plain
      exact .inl plain
    · refine .inr ⟨_, plain, ?_⟩
      rw [← String.toList_inj, String.toList_append, String.toList_ofList]
      exact ended
  · rintro (plain | ⟨plain, formed, rfl⟩)
    · rwa [withoutLineEnd_of_not_mem (plain.not_mem (by decide)), String.ofList_toList]
    · have left : withoutLineEnd (plain ++ "\n").toList = plain.toList := by
        have ended : (plain ++ "\n").toList = plain.toList ++ ['\n'] := String.toList_append ..
        rw [ended, withoutLineEnd, if_pos (by simp), List.dropLast_concat]
      rwa [left, String.ofList_toList]

/-- What has the form of a name is a plain one exactly when there is no line end in it. -/
theorem isPlainName_iff_of_isName {name : String} (named : isName name = true) :
    IsPlainName name ↔ '\n' ∉ name.toList := by
  -- What begins like a name is one, or is one with a line end behind it.
  refine ⟨fun plain => plain.not_mem (by decide), fun unbroken => ?_⟩
  rcases isName_iff.mp named with plain | ⟨plain, _, rfl⟩
  · exact plain
  · exact absurd (by simp) unbroken

end Names

section Directions

/-- A letter in its small form; that of the long s is the usual one. -/
def smallLetter (c : Char) : Char :=
  if c = 'ſ' then 's' else c.toLower

/-- What follows a field in a term of an order: blanks, with a direction between them at most. -/
inductive IsDirected (small : Char → Char) : List Char → Prop where
  /-- No direction is said. -/
  | silent {blanks : List Char} (blank : AllBlank blanks) : IsDirected small blanks
  /-- A direction stands apart from the field, in letters of either case. -/
  | said {front word back : List Char} (before : AllBlank front) (apart : front ≠ [])
    (spelled : word.map small = "asc".toList ∨ word.map small = "desc".toList)
    (behind : AllBlank back) : IsDirected small (front ++ word ++ back)

/-- Every other letter has the usual small form. -/
theorem smallLetter_of_ne {c : Char} (short : c ≠ 'ſ') : smallLetter c = c.toLower :=
  if_neg short

/-- A letter of the alphabet is what is that letter in its small form. -/
theorem isLetter_iff {letter c : Char} (alphabetic : letter ≠ 'ſ') :
    isLetter letter c = true ↔ smallLetter c = letter := by
  -- The long s is a letter of its own until it is made small.
  unfold isLetter smallLetter
  by_cases long : c = 'ſ'
  · subst long
    have itself : 'ſ'.toLower = 'ſ' := by decide
    simp [itself, Ne.symm alphabetic, eq_comm]
  · simp [long]

/-- A word is spelled by what is the word in its small form. -/
theorem spellsWord_iff (word cs : List Char) (alphabetic : 'ſ' ∉ word) :
    spellsWord word cs = true ↔ cs.map smallLetter = word := by
  unfold spellsWord
  -- The word and the characters are read side by side.
  induction word generalizing cs with
  | nil => cases cs <;> simp
  | cons letter rest ih =>
    rw [List.mem_cons, not_or] at alphabetic
    cases cs with
    | nil => simp
    | cons c others =>
      have tail := ih others alphabetic.2
      rw [Bool.and_eq_true, decide_eq_true_eq] at tail
      rw [List.map_cons, List.cons.injEq, ← tail, ← isLetter_iff (Ne.symm alphabetic.1)]
      simp only [List.length_cons, Nat.add_right_cancel_iff, List.zip_cons_cons, List.all_cons,
        Bool.and_eq_true, decide_eq_true_eq]
      tauto

/-- Small letters are blank where their other forms are. -/
theorem isBlank_smallLetter (c : Char) : isBlank (smallLetter c) = isBlank c := by
  -- The long s becomes an s; every other character becomes its lower-case form.
  unfold smallLetter
  split
  · rename_i long
    subst long
    decide
  · exact apply_toLower (by decide +kernel) c

/-- There is no blank in what spells a direction. -/
theorem not_blank_of_direction {word : List Char}
    (spelled : word.map smallLetter = "asc".toList ∨ word.map smallLetter = "desc".toList) :
    ∀ c ∈ word, isBlank c = false := by
  -- The letters of both words are not blank, and blanks stay blanks in small form.
  intro c member
  have dark : ("asc".toList ++ "desc".toList).all (fun c => !isBlank c) = true := by decide
  have letter := List.mem_map_of_mem (f := smallLetter) member
  have inside : smallLetter c ∈ "asc".toList ++ "desc".toList := by
    rcases spelled with ascending | descending
    · exact List.mem_append_left _ (ascending ▸ letter)
    · exact List.mem_append_right _ (descending ▸ letter)
  simpa [isBlank_smallLetter] using List.all_eq_true.mp dark _ inside

/-- What follows a field is accepted exactly when it is a direction or none, the long s being an s. -/
theorem isDirection_iff {rest : List Char} : isDirection rest = true ↔ IsDirected smallLetter rest := by
  -- The test is about what is left without blanks.
  have words : isDirection rest = true ↔ trimChars rest = [] ∨ rest.head?.any isBlank = true ∧
      ((trimChars rest).map smallLetter = "asc".toList ∨
        (trimChars rest).map smallLetter = "desc".toList) := by
    simp only [isDirection, Bool.or_eq_true, Bool.and_eq_true, List.isEmpty_iff,
      spellsWord_iff "asc".toList _ (by decide),
      spellsWord_iff "desc".toList _ (by decide)]
  rw [words]
  constructor
  · obtain ⟨front, back, parts, before, behind⟩ := exists_trimChars rest
    rintro (none | ⟨start, spelled⟩)
    · rw [none, List.append_nil] at parts
      rw [parts]
      exact .silent fun c member => (List.mem_append.mp member).elim (before c) (behind c)
    · have dark := not_blank_of_direction spelled
      generalize trimChars rest = word at parts spelled dark
      subst parts
      refine .said before (fun none => ?_) spelled behind
      -- Without a blank in front the direction itself would have to begin with one.
      subst none
      cases word with
      | nil => simp at spelled
      | cons c others =>
        have blank : isBlank c = true := by simpa using start
        exact absurd blank (by simp [dark c List.mem_cons_self])
  -- A direction is found again when the blanks around it are taken off.
  · rintro (⟨blank⟩ | ⟨before, apart, spelled, behind⟩)
    · exact .inl (trimChars_eq_nil_of_all blank)
    · rename_i front word back
      have dark := not_blank_of_direction spelled
      rw [trimChars_of_blanks before dark behind]
      refine .inr ⟨?_, spelled⟩
      cases front with
      | nil => contradiction
      | cons c others => simpa using before c List.mem_cons_self

/-- What follows a field begins with a blank, if there is anything. -/
theorem IsDirected.blank_of_head {small : Char → Char} {cs : List Char}
    (directed : IsDirected small cs) : ∀ c ∈ cs.head?, isBlank c = true := by
  intro c first
  -- A said direction has a blank before it.
  cases directed with
  | silent blank => exact blank c (List.mem_of_head? first)
  | @said front _ _ before apart _ _ =>
    cases front with
    | nil => contradiction
    | cons head rest =>
      cases first
      exact before _ List.mem_cons_self

/-- Nothing but blanks and the letters of a direction follows a field. -/
theorem IsDirected.not_mem {small : Char → Char} {cs : List Char} (directed : IsDirected small cs)
    {c : Char} (dark : isBlank c = false) (strange : small c ∉ "asc".toList ++ "desc".toList) :
    c ∉ cs := by
  have unblank {blanks : List Char} (blank : AllBlank blanks) : c ∉ blanks := fun member =>
    absurd (blank _ member) (by simp [dark])
  cases directed with
  | silent blank => exact unblank blank
  | said before _ spelled behind =>
    rw [List.mem_append, List.mem_append]
    rintro ((front | letter) | back)
    · exact unblank before front
    · -- A character of the word is a letter of the direction in its small form.
      have found := List.mem_map_of_mem (f := small) letter
      rcases spelled with ascending | descending
      · exact strange (List.mem_append_left _ (ascending ▸ found))
      · exact strange (List.mem_append_right _ (descending ▸ found))
    · exact unblank behind back

/-- A direction is one under every reading of letters that agrees on it. -/
theorem IsDirected.congr {small other : Char → Char} {cs : List Char} (directed : IsDirected small cs)
    (alike : ∀ c ∈ cs, other c = small c) : IsDirected other cs := by
  -- Only the word itself is read by its letters.
  cases directed with
  | silent blank => exact .silent blank
  | @said front word back before apart spelled behind =>
    have same : word.map other = word.map small := List.map_congr_left fun c member =>
      alike c (List.mem_append_left _ (List.mem_append_right _ member))
    exact .said before apart (same ▸ spelled) behind

end Directions

section Orders

variable {entity : EntitySchema} {small : Char → Char} {term : List Char}

/-- A term of an order: one field of the entity, and behind it a direction at most. -/
def EntitySchema.OrderTerm (small : Char → Char) (entity : EntitySchema) (term : List Char) : Prop :=
  ∃ front field tail, term = front ++ field.toList ++ tail ∧ AllBlank front ∧ IsPlainName field ∧
    entity.declares field = true ∧ IsDirected small tail

/-- An order of an entity: terms with commas between them; the empty text has none. -/
def EntitySchema.OrderList (small : Char → Char) (entity : EntitySchema) (order : String) : Prop :=
  ∃ terms : List String, order = ",".intercalate terms ∧
    ∀ term ∈ terms, entity.OrderTerm small term.toList

/-- No character that a name goes on with is blank. -/
theorem not_blank_of_isNamePart {c : Char} (part : isNamePart c = true) : isBlank c = false := by
  -- The blanks have no code among those of the digits and the letters.
  have range : (48 ≤ c.toNat ∧ c.toNat ≤ 57) ∨ (65 ≤ c.toNat ∧ c.toNat ≤ 122) := by
    rcases isNamePart_iff.mp part with letter | rfl
    · rw [Char.isAlphanum, Bool.or_eq_true, isAlpha_iff, isDigit_iff] at letter
      omega
    · decide
  by_contra blank
  obtain ⟨⟨low, high⟩, member, inside⟩ :=
    (CharRanges.covers_iff _ _).mp (Bool.not_eq_false _ ▸ blank)
  simp only [blankRanges, List.mem_cons, Prod.mk.injEq, List.not_mem_nil, or_false] at member
  omega

/-- What is read as a field of a term stands between blanks and a direction, or nothing. -/
theorem parts_of_orderedField? {field : String} (read : orderedField? term = some field) :
    ∃ front tail, term = front ++ field.toList ++ tail ∧ AllBlank front ∧ IsPlainName field ∧
      IsDirected smallLetter tail := by
  unfold orderedField? at read
  dsimp only at read
  -- The term is its blanks and a body, and the body is a name and what follows it.
  have whole := List.takeWhile_append_dropWhile (p := isBlank) (l := term)
  generalize term.dropWhile isBlank = body at read whole
  have name := List.takeWhile_append_dropWhile (p := isNamePart) (l := body)
  split at read
  · contradiction
  · rename_i first rest written
    split at read
    · rename_i formed
      cases read
      rw [Bool.and_eq_true, isDirection_iff] at formed
      have parts : ∀ c ∈ first :: rest, isNamePart c = true := fun c member =>
        List.mem_takeWhile_imp (written ▸ member)
      rw [written] at name
      have tail : body.drop (rest.length + 1) = body.dropWhile isNamePart := by
        rw [← List.length_cons (a := first)]
        nth_rewrite 1 [← name]
        exact List.drop_left ..
      refine ⟨term.takeWhile isBlank, body.dropWhile isNamePart, ?_,
        fun c member => List.mem_takeWhile_imp member, isPlainName_iff.mpr ?_, tail ▸ formed.2⟩
      · rw [String.toList_ofList, List.append_assoc, name, whole]
      · exact ⟨first, rest, String.toList_ofList, formed.1,
          List.all_eq_true.mpr fun c member => parts c (List.mem_cons_of_mem _ member)⟩
    · contradiction

/-- A name that stands there is read as the field. -/
theorem orderedField?_of_parts {front tail : List Char} {field : String} (blank : AllBlank front)
    (plain : IsPlainName field) (directed : IsDirected smallLetter tail) :
    orderedField? (front ++ field.toList ++ tail) = some field := by
  obtain ⟨first, rest, written, start, parts⟩ := isPlainName_iff.mp plain
  have all : ∀ c ∈ field.toList, isNamePart c = true := fun c member =>
    isNamePart_iff.mpr (plain.characters c member)
  have opened : ∀ c ∈ (field.toList ++ tail).head?, isBlank c = false := by
    rw [written]
    rintro c ⟨⟩
    exact not_blank_of_isNamePart (all _ (written ▸ List.mem_cons_self))
  -- The name ends where a direction or the whole term does, since no name goes on with a blank.
  have closed : tail.takeWhile isNamePart = [] := by
    cases tail with
    | nil => rfl
    | cons c others =>
      refine List.takeWhile_cons_of_neg fun part => ?_
      exact absurd (directed.blank_of_head c rfl) (by simp [not_blank_of_isNamePart part])
  -- The blanks go first, then the name, and the direction is left.
  have body : (front ++ field.toList ++ tail).dropWhile isBlank = field.toList ++ tail := by
    rw [List.append_assoc, dropWhile_blank blank, dropWhile_of_head opened]
  have name : (field.toList ++ tail).takeWhile isNamePart = field.toList := by
    rw [List.takeWhile_append_of_pos all, closed, List.append_nil]
  have direction : isDirection ((first :: rest ++ tail).drop (rest.length + 1)) = true := by
    rw [← List.length_cons (a := first), List.drop_left]
    exact isDirection_iff.mpr directed
  rw [written] at body name
  unfold orderedField?
  simp only [written, body, name, start, direction, Bool.and_self, if_true]
  rw [← written, String.ofList_toList]

/-- The field that is read in a term is the name that a direction or nothing follows. -/
theorem orderedField?_eq_some_iff {field : String} : orderedField? term = some field ↔
    ∃ front tail, term = front ++ field.toList ++ tail ∧ AllBlank front ∧ IsPlainName field ∧
      IsDirected smallLetter tail := by
  constructor
  · exact parts_of_orderedField?
  · rintro ⟨front, tail, rfl, blank, plain, directed⟩
    exact orderedField?_of_parts blank plain directed

/-- An entity accepts exactly the terms that name one of its fields, the long s being an s. -/
theorem EntitySchema.acceptsTerm_iff :
    entity.acceptsTerm term = true ↔ entity.OrderTerm smallLetter term := by
  -- A term is accepted by the field that is read in it.
  unfold acceptsTerm OrderTerm
  rw [Option.any_eq_true]
  simp only [orderedField?_eq_some_iff]
  grind

/-- Nothing but blanks, a name and the letters of a direction is in a term. -/
theorem EntitySchema.OrderTerm.not_mem (ordered : entity.OrderTerm small term) {c : Char}
    (dark : isBlank c = false) (strange : isNamePart c = false)
    (unspelled : small c ∉ "asc".toList ++ "desc".toList) : c ∉ term := by
  -- Each of the three parts is made of other characters.
  obtain ⟨front, field, tail, rfl, blank, plain, _, directed⟩ := ordered
  rw [List.mem_append, List.mem_append]
  rintro ((before | name) | behind)
  · exact absurd (blank _ before) (by simp [dark])
  · exact plain.not_mem strange name
  · exact directed.not_mem dark unspelled behind

/-- A term in ASCII letters is one without a long s. -/
theorem EntitySchema.orderTerm_toLower_iff :
    entity.OrderTerm Char.toLower term ↔ entity.OrderTerm smallLetter term ∧ 'ſ' ∉ term := by
  -- Away from the long s the two readings of letters agree.
  have alike {tail : List Char} (short : 'ſ' ∉ tail) : ∀ c ∈ tail, smallLetter c = c.toLower :=
    fun c member => smallLetter_of_ne fun long => short (long ▸ member)
  constructor
  · intro ordered
    refine ⟨?_, ordered.not_mem (by decide) (by decide) (by decide)⟩
    obtain ⟨front, field, tail, same, blank, plain, declared, directed⟩ := ordered
    have short : 'ſ' ∉ tail := directed.not_mem (by decide) (by decide)
    exact ⟨front, field, tail, same, blank, plain, declared, directed.congr (alike short)⟩
  · rintro ⟨⟨front, field, tail, rfl, blank, plain, declared, directed⟩, short⟩
    rw [List.mem_append, not_or] at short
    exact ⟨front, field, tail, rfl, blank, plain, declared,
      directed.congr fun c member => (alike short.2 c member).symm⟩

/-- Texts with commas between them have in them what the texts have. -/
theorem mem_intercalate_comma {c : Char} (apart : c ≠ ',') {terms : List String} :
    c ∈ (",".intercalate terms).toList ↔ ∃ term ∈ terms, c ∈ term.toList := by
  induction terms with
  | nil => simp
  -- Each comma joins one term to the rest.
  | cons term rest ih =>
    cases rest with
    | nil => simp
    | cons next others =>
      rw [String.intercalate_cons_cons, String.toList_append, String.toList_append, List.mem_append,
        List.mem_append, ih, List.exists_mem_cons_iff]
      simp [apart]

/-- Nothing but commas stands between the terms of an order. -/
theorem EntitySchema.OrderList.not_mem {order : String} (listed : entity.OrderList small order)
    {c : Char} (apart : c ≠ ',') (dark : isBlank c = false) (strange : isNamePart c = false)
    (unspelled : small c ∉ "asc".toList ++ "desc".toList) : c ∉ order.toList := by
  -- A character that is no comma comes from one of the terms.
  obtain ⟨terms, rfl, ordered⟩ := listed
  rw [mem_intercalate_comma apart]
  rintro ⟨term, member, found⟩
  exact (ordered term member).not_mem dark strange unspelled found

/-- An order in ASCII letters is one without a long s. -/
theorem EntitySchema.orderList_toLower_iff {order : String} :
    entity.OrderList Char.toLower order ↔ entity.OrderList smallLetter order ∧ 'ſ' ∉ order.toList := by
  -- This is the statement about terms, for each of them.
  constructor
  · rintro ⟨terms, rfl, ordered⟩
    simp only [orderTerm_toLower_iff] at ordered
    refine ⟨⟨terms, rfl, fun term member => (ordered term member).1⟩, ?_⟩
    rw [mem_intercalate_comma (by decide)]
    rintro ⟨term, member, found⟩
    exact (ordered term member).2 found
  · rintro ⟨⟨terms, rfl, ordered⟩, short⟩
    rw [mem_intercalate_comma (by decide)] at short
    exact ⟨terms, rfl, fun term member => orderTerm_toLower_iff.mpr
      ⟨ordered term member, fun found => short ⟨term, member, found⟩⟩⟩

/-- The parts of a text between commas are all of it. -/
theorem intercalate_splitCommas (cs : List Char) :
    ",".intercalate ((splitCommas cs).map String.ofList) = String.ofList cs := by
  -- A comma opens a part, and any other character goes to the front of the first one.
  have parts : [','].intercalate (splitCommas cs) = cs := by
    induction cs with
    | nil => rfl
    | cons c rest ih =>
      unfold splitCommas
      cases others : splitCommas rest with
      | nil =>
        rw [others] at ih
        rw [← ih]
        rfl
      | cons part parts =>
        rw [others] at ih
        -- A comma in front closes an empty part; another character goes on with the first part.
        dsimp only
        split
        · rename_i comma
          rw [List.intercalate_cons_cons, ih, comma]
          rfl
        · cases parts with
          | nil => simpa [List.intercalate_singleton] using ih
          | cons next parts =>
            rw [List.intercalate_cons_cons] at ih ⊢
            rw [List.cons_append, List.cons_append, ih]
  rw [← String.toList_inj, String.toList_intercalate, List.map_map, String.toList_ofList]
  simpa [Function.comp_def] using parts

/-- The order of an entity is a list of its terms where each of them is accepted. -/
theorem EntitySchema.orderList_of_accepted
    (accepted : ∀ term ∈ entity.orderTerms, entity.acceptsTerm term = true) {order : String}
    (given : entity.defaultOrderBy = some order) : entity.OrderList smallLetter order := by
  -- An empty order has no terms at all.
  simp only [orderTerms, given] at accepted
  by_cases empty : order = ""
  · exact ⟨[], empty, by simp⟩
  · rw [if_neg empty] at accepted
    refine ⟨(splitCommas order.toList).map String.ofList, ?_, fun term member => ?_⟩
    -- Joining what was split at the commas gives the order back.
    · rw [intercalate_splitCommas, String.ofList_toList]
    · obtain ⟨part, inside, rfl⟩ := List.mem_map.mp member
      rw [String.toList_ofList]
      exact acceptsTerm_iff.mp (accepted part inside)

end Orders

end Joinery
