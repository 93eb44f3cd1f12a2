import Joinery.Proofs.Text.Digits
import Joinery.Statement.Rendering
import Mathlib.Data.List.Basic

/-! The places that are read back from the text of a statement are those of its predicates, in order. -/

namespace Joinery

/-- Whether a character ends the name of a place. -/
def endsPlace (c : Char) : Bool :=
  c = ' ' || c = ')'

/-- The names behind colons, each one up to the character that ends it. -/
def placesFrom : List Char → List String
  | [] => []
  | c :: rest =>
    if c = ':' then String.ofList (rest.takeWhile (!endsPlace ·)) :: placesFrom rest
    else placesFrom rest

/-- The places in a text, in the order in which they are read. -/
def placesIn (text : String) : List String :=
  placesFrom text.toList

/-- A text in which no place begins. -/
def Placeless (text : String) : Prop :=
  ':' ∉ text.toList

instance (text : String) : Decidable (Placeless text) :=
  inferInstanceAs (Decidable (¬ _))

/-- A text that ends the name of a place that stands before it; the empty one goes on to nothing. -/
def StartsApart (text : String) : Prop :=
  ∀ c ∈ text.toList.head?, endsPlace c = true

section Texts

variable {first second : String}

/-- No place begins in two texts together when none begins in either. -/
theorem Placeless.append (one : Placeless first) (two : Placeless second) :
    Placeless (first ++ second) := by
  -- It is the colon that begins a place, and no colon comes in where texts meet.
  unfold Placeless at *
  rw [String.toList_append, List.mem_append, not_or]
  exact ⟨one, two⟩

/-- No place begins in texts that are put together when none begins in any of them. -/
theorem Placeless.intercalate {separator : String} {texts : List String}
    (between : Placeless separator) (each : ∀ text ∈ texts, Placeless text) :
    Placeless (separator.intercalate texts) := by
  -- The separator stands between the first text and the rest.
  induction texts with
  | nil => exact List.not_mem_nil
  | cons text rest ih =>
    cases rest with
    | nil =>
      rw [String.intercalate_singleton]
      exact each text (by simp)
    | cons next rest =>
      rw [String.intercalate_cons_cons]
      refine ((each text (by simp)).append between).append (ih fun other member => ?_)
      exact each other (List.mem_cons_of_mem _ member)

/-- Two texts go on to nothing or to the end of a place when each of them does. -/
theorem StartsApart.append (one : StartsApart first) (two : StartsApart second) :
    StartsApart (first ++ second) := by
  unfold StartsApart at *
  rw [String.toList_append]
  -- If nothing is in the first text, the second one decides.
  cases begun : first.toList with
  | nil => exact two
  | cons c rest =>
    rw [begun] at one
    exact one

/-- A text begins as its first part does. -/
theorem startsApart_of_cons {c : Char} {rest : List Char} (begun : first.toList = c :: rest)
    (ends : endsPlace c = true) (second : String) : StartsApart (first ++ second) := by
  -- The first character is known, and it ends a place.
  intro found member
  rw [String.toList_append, begun] at member
  cases member
  exact ends

/-- A text without places adds none. -/
theorem placesIn_append_of_placeless (plain : Placeless first) (second : String) :
    placesIn (first ++ second) = placesIn second := by
  unfold placesIn
  unfold Placeless at plain
  rw [String.toList_append]
  -- No character of the first text is a colon, so each one is passed over.
  generalize first.toList = text at plain ⊢
  induction text with
  | nil => rfl
  | cons c rest ih =>
    rw [List.mem_cons, not_or] at plain
    rw [List.cons_append, placesFrom, if_neg (Ne.symm plain.1)]
    exact ih plain.2

/-- There are no places in a text in which none begins. -/
theorem placesIn_eq_nil (plain : Placeless first) : placesIn first = [] := by
  have whole := placesIn_append_of_placeless plain ""
  rwa [String.append_empty] at whole

/-- A name is read no further where a text that starts apart goes on. -/
theorem takeWhile_append_apart (name : List Char) (apart : StartsApart second) :
    (name ++ second.toList).takeWhile (!endsPlace ·) = name.takeWhile (!endsPlace ·) := by
  induction name with
  | nil =>
    -- The name ends here: the second text is empty, or begins with what ends a place.
    cases begun : second.toList with
    | nil => rfl
    | cons c rest =>
      have ends : endsPlace c = true := apart c (by rw [begun]; rfl)
      simp [ends]
  | cons c rest ih => rw [List.cons_append, List.takeWhile_cons, List.takeWhile_cons, ih]

/-- The places of two texts follow each other when the second one starts apart. -/
theorem placesIn_append (first : String) (apart : StartsApart second) :
    placesIn (first ++ second) = placesIn first ++ placesIn second := by
  unfold placesIn
  rw [String.toList_append]
  -- A name that begins in the first text is not continued by the second one.
  induction first.toList with
  | nil => rfl
  | cons c rest ih =>
    rw [List.cons_append, placesFrom, placesFrom, ih, takeWhile_append_apart rest apart]
    split
    · rfl
    · rfl

/-- The places of joined texts follow each other when each text starts apart. -/
theorem placesIn_join {texts : List String} (apart : ∀ text ∈ texts, StartsApart text) :
    placesIn (String.join texts) = texts.flatMap placesIn ∧ StartsApart (String.join texts) := by
  -- What follows a text is the rest, which starts apart as well.
  induction texts with
  | nil => exact ⟨rfl, nofun⟩
  | cons text rest ih =>
    obtain ⟨places, begun⟩ := ih fun other member => apart other (List.mem_cons_of_mem _ member)
    rw [String.join_cons]
    refine ⟨?_, (apart text (by simp)).append begun⟩
    rw [placesIn_append text begun, places, List.flatMap_cons]

/-- The places of texts that hold together follow each other. -/
theorem placesIn_conjunction (texts : List String) :
    placesIn (" AND ".intercalate texts) = texts.flatMap placesIn := by
  -- A blank ends the last place of the text before the word.
  induction texts with
  | nil => rfl
  | cons text rest ih =>
    cases rest with
    | nil => rw [String.intercalate_singleton, List.flatMap_singleton]
    | cons next rest =>
      have apart : StartsApart (" AND " ++ " AND ".intercalate (next :: rest)) :=
        startsApart_of_cons rfl rfl _
      rw [String.intercalate_cons_cons, String.append_assoc, placesIn_append text apart,
        placesIn_append_of_placeless (by decide), ih]
      rfl

end Texts

/-- No digit is a colon, and none ends a place. -/
theorem digitChar_plain : ∀ value < 10,
    digitChar value ≠ ':' ∧ endsPlace (digitChar value) = false := by
  decide

/-- No place begins in a number. -/
theorem placeless_intText (n : Int) : Placeless (intText n) := by
  -- No digit is a colon.
  have digits : ':' ∉ decimalDigits n.natAbs := by
    intro member
    obtain ⟨value, small, same⟩ := mem_decimalDigits member
    exact (digitChar_plain value small).1 same.symm
  unfold Placeless intText intDigits
  rw [String.toList_ofList]
  split
  · rw [List.mem_cons, not_or]
    exact ⟨by decide, digits⟩
  · exact digits

/-- The name of a place is a letter and digits. -/
theorem placeholderName_toList (place : Nat) :
    (placeholderName place).toList = 'p' :: decimalDigits place := by
  -- A place is no negative number, so there is no sign.
  unfold placeholderName intText intDigits
  rw [if_neg (by omega), Int.natAbs_natCast, String.toList_append, String.toList_ofList,
    String.toList_ofList]
  rfl

/-- The name of a place is read to its end. -/
theorem placesIn_colon_placeholderName (place : Nat) :
    placesIn (":" ++ placeholderName place) = [placeholderName place] := by
  -- Nothing in the name ends a place, so it is taken whole, and no other place begins in it.
  have whole : (placeholderName place).toList.takeWhile (!endsPlace ·) =
      (placeholderName place).toList := by
    have inside : ∀ c ∈ (placeholderName place).toList, (!endsPlace c) = true := by
      intro c member
      rw [placeholderName_toList, List.mem_cons] at member
      rcases member with rfl | digit
      · rfl
      · obtain ⟨value, small, rfl⟩ := mem_decimalDigits digit
        rw [(digitChar_plain value small).2]
        rfl
    rw [← List.append_nil (placeholderName place).toList, List.takeWhile_append_of_pos inside,
      List.takeWhile_nil]
  have none : Placeless (placeholderName place) := by
    unfold placeholderName
    exact Placeless.append (by decide) (placeless_intText place)
  have rest : placesFrom (placeholderName place).toList = [] := placesIn_eq_nil none
  unfold placesIn
  rw [String.toList_append]
  change placesFrom (':' :: (placeholderName place).toList) = _
  rw [placesFrom, if_pos rfl, whole, rest, String.ofList_toList]

/-- Places are told apart by their names. -/
theorem placeholderName_injective : Function.Injective placeholderName := by
  -- A number can be read back from the digits behind the letter.
  intro first second same
  have texts := congrArg String.toList same
  rw [placeholderName_toList, placeholderName_toList, List.cons.injEq] at texts
  rw [← digitsValue_decimalDigits first, texts.2, digitsValue_decimalDigits]

section Rendering

variable {dialect : Dialect} {source : Option Nat} {name : String}

/-- Quotation marks bring no colon with them. -/
theorem placeless_quoteAlways (plain : Placeless name) : Placeless (dialect.quoteAlways name) := by
  -- A quotation mark is doubled, anything else stays as it is.
  have each : ∀ c ∈ name.toList, ':' ∉ dialect.quotedChar c := by
    intro c member quoted
    have apart : ':' ≠ c := fun same => plain (same ▸ member)
    unfold Dialect.quotedChar doubled at quoted
    repeat' split at quoted
    all_goals simp [apart] at quoted
  have body : ':' ∉ name.toList.flatMap dialect.quotedChar := by
    rw [List.mem_flatMap]
    rintro ⟨c, member, quoted⟩
    exact each c member quoted
  unfold Placeless Dialect.quoteAlways
  rw [String.toList_ofList]
  cases dialect <;> simpa using body

/-- A written name has a colon only if the name has one. -/
theorem placeless_quote (plain : Placeless name) : Placeless (dialect.quote name) := by
  unfold Dialect.quote
  -- It is put in marks, or stays as it is.
  split
  · exact placeless_quoteAlways plain
  · exact plain

/-- The alias of a source has no colon. -/
theorem placeless_sourceAlias (source : Nat) : Placeless (sourceAlias source) :=
  Placeless.append (by decide) (placeless_intText source)

/-- So has a column, behind an alias or alone. -/
theorem placeless_column (plain : Placeless name) : Placeless (dialect.column source name) := by
  -- An alias stands in front of the name, or nothing.
  cases source with
  | none => exact placeless_quote plain
  | some source =>
    exact ((placeless_sourceAlias source).append (by decide)).append (placeless_quote plain)

/-- No comparator is spelled with a colon. -/
theorem placeless_spelling (comparator : Comparator) : Placeless comparator.spelling := by
  cases comparator <;> decide

/-- The place in a predicate is the one that it reads. -/
theorem placesIn_predicate {predicate : Predicate} (plain : Placeless predicate.column) :
    placesIn (dialect.predicate source predicate) =
      predicate.placeholder?.toList.map placeholderName := by
  have column : Placeless (dialect.column source predicate.column) := placeless_column plain
  -- Only a comparison has a place, at the end of its text.
  cases predicate with
  | isNull name => exact placesIn_eq_nil (column.append (by decide))
  | isNotNull name => exact placesIn_eq_nil (column.append (by decide))
  | compare name comparator place =>
    have before : Placeless (dialect.column source name ++ " " ++ comparator.spelling ++ " ") :=
      ((column.append (by decide)).append (placeless_spelling comparator)).append (by decide)
    -- The colon belongs to the place, and the blank before it does not.
    have colon : " :" ++ placeholderName place = " " ++ (":" ++ placeholderName place) := by
      rw [← String.append_assoc]
      rfl
    have text : dialect.predicate source (.compare name comparator place) =
        dialect.column source name ++ " " ++ comparator.spelling ++ " " ++
          (":" ++ placeholderName place) := by
      rw [Dialect.predicate]
      simp only [String.append_assoc, colon]
    rw [text, placesIn_append_of_placeless before, placesIn_colon_placeholderName]
    rfl

/-- The names of the places that predicates read, in order. -/
def placeNames (predicates : List Predicate) : List String :=
  (predicates.filterMap Predicate.placeholder?).map placeholderName

/-- What the texts of predicates say one by one is what the predicates read. -/
theorem flatMap_placesIn {predicates : List Predicate} {write : Predicate → String}
    (each : ∀ predicate ∈ predicates,
      placesIn (write predicate) = predicate.placeholder?.toList.map placeholderName) :
    (predicates.map write).flatMap placesIn = placeNames predicates := by
  unfold placeNames
  -- A predicate without a place adds nothing to either list.
  induction predicates with
  | nil => rfl
  | cons predicate rest ih =>
    rw [List.map_cons, List.flatMap_cons, each predicate (by simp),
      ih fun other member => each other (List.mem_cons_of_mem _ member), List.filterMap_cons]
    cases predicate.placeholder? <;> rfl

/-- The places in a conjunction are those that its predicates read. -/
theorem placesIn_predicates {predicates : List Predicate}
    (plain : ∀ predicate ∈ predicates, Placeless predicate.column) :
    placesIn (dialect.conjunction source predicates) = placeNames predicates := by
  unfold Dialect.conjunction
  -- The places are collected predicate by predicate.
  rw [placesIn_conjunction]
  exact flatMap_placesIn fun predicate member => placesIn_predicate (plain predicate member)

/-- A join in whose names no place begins. -/
structure Join.Plain (join : Join) : Prop where
  /-- None in the table. -/
  table : Placeless join.table
  /-- None in the key. -/
  key : Placeless join.key
  /-- None in the column that the key is compared with. -/
  parent : Placeless join.parent.column
  /-- None in what is ranked by. -/
  ranking : ∀ ranking ∈ join.ranking, Placeless ranking.key ∧ Placeless (ranking.order.getD "")
  /-- None in the columns of its predicates. -/
  columns : ∀ predicate ∈ join.predicates, Placeless predicate.column

/-- A statement in whose names, apart from the labels, no place begins. -/
structure Statement.Plain (statement : Statement) : Prop where
  /-- None in the primary table. -/
  table : Placeless statement.table
  /-- None in the joins. -/
  joins : ∀ join ∈ statement.joins, join.Plain
  /-- None in the columns of the primary predicates. -/
  columns : ∀ predicate ∈ statement.conditions, Placeless predicate.column
  /-- None in the columns by which rows are sorted. -/
  order : ∀ ref ∈ statement.order, Placeless ref.column

/-- No place begins in the order of a ranking unless one begins in its terms. -/
theorem placeless_rankingOrder {order : Option String} (plain : Placeless (order.getD "")) :
    Placeless (dialect.rankingOrder order) := by
  -- Two of the three orders are fixed.
  unfold Dialect.rankingOrder
  split
  · decide
  · decide
  · exact Placeless.append (by decide) plain

/-- The places in the source of a join are those of its ranking's conditions. -/
theorem placesIn_joined {join : Join} (plain : join.Plain) :
    placesIn (dialect.joined join) =
      placeNames ((join.ranking.map Ranking.conditions).getD []) := by
  -- A table has no places, and a ranking has those of its conditions.
  unfold Dialect.joined
  cases ranked : join.ranking with
  | none => exact placesIn_eq_nil (placeless_quote plain.table)
  | some ranking =>
    obtain ⟨key, order⟩ := plain.ranking ranking ranked
    have inside : placesIn (dialect.conjunction none ranking.conditions) =
        placeNames ranking.conditions := by
      refine placesIn_predicates fun predicate member => plain.columns predicate ?_
      rw [Join.predicates, ranked]
      exact List.mem_append_left _ member
    have before : Placeless ("SELECT *, ROW_NUMBER() OVER (PARTITION BY " ++
        dialect.quote ranking.key ++ dialect.rankingOrder ranking.order ++ ") AS _rn FROM " ++
        dialect.quote join.table) :=
      ((((show Placeless "SELECT *, ROW_NUMBER() OVER (PARTITION BY " by decide).append
        (placeless_quote key)).append (placeless_rankingOrder order)).append (by decide)).append
        (placeless_quote plain.table)
    have core : placesIn (dialect.ranked join.table ranking.key ranking.order
        (dialect.conjunction none ranking.conditions)) = placeNames ranking.conditions := by
      unfold Dialect.ranked
      rw [placesIn_append_of_placeless before, ← inside]
      split
      -- An empty conjunction is left out, and there are no places in it either.
      · rename_i empty
        rw [empty]
      · exact placesIn_append_of_placeless (by decide) _
    -- The cap of the ranking stands behind a blank and has no colon.
    have close : StartsApart (") ranked WHERE _rn <= " ++ (intText ranking.cap ++ ")")) :=
      startsApart_of_cons rfl rfl _
    have after : Placeless (") ranked WHERE _rn <= " ++ (intText ranking.cap ++ ")")) :=
      Placeless.append (by decide) ((placeless_intText ranking.cap).append (by decide))
    dsimp only
    rw [String.append_assoc, String.append_assoc, String.append_assoc,
      placesIn_append_of_placeless (by decide), placesIn_append _ close, core,
      placesIn_eq_nil after, List.append_nil]
    rfl

/-- The places of predicates follow each other. -/
theorem placeNames_append (first second : List Predicate) :
    placeNames (first ++ second) = placeNames first ++ placeNames second := by
  rw [placeNames, List.filterMap_append, List.map_append, placeNames, placeNames]

/-- What stands between the source of a join and its conditions. -/
def Dialect.joinKeysText (dialect : Dialect) (source : Nat) (join : Join) : String :=
  " " ++ sourceAlias source ++ " ON " ++ (dialect.column (some source) join.key ++ " = " ++
    dialect.column (some join.parent.source) join.parent.column)

/-- A join is its source, its keys and its conditions. -/
theorem Dialect.join_eq (dialect : Dialect) (source : Nat) (join : Join) :
    dialect.join source join =
      " LEFT JOIN " ++ (dialect.joined join ++ (dialect.joinKeysText source join ++
        String.join (join.conditions.map fun p => " AND " ++ dialect.predicate (some source) p))) := by
  -- The texts are put together in another way only.
  unfold Dialect.join Dialect.joinKeysText
  simp only [String.append_assoc]

/-- There is no place in the keys of a join. -/
theorem placeless_joinKeysText {join : Join} (plain : join.Plain) (source : Nat) :
    Placeless (dialect.joinKeysText source join) := by
  -- Neither the word nor the two columns have a colon.
  have on : Placeless (" " ++ sourceAlias source ++ " ON ") :=
    ((show Placeless " " by decide).append (placeless_sourceAlias source)).append (by decide)
  have keys : Placeless (dialect.column (some source) join.key ++ " = " ++
      dialect.column (some join.parent.source) join.parent.column) :=
    ((placeless_column plain.key).append (by decide)).append (placeless_column plain.parent)
  exact on.append keys

/-- The places in a join are those that its predicates read, first those inside its ranking. -/
theorem placesIn_join_text {join : Join} (plain : join.Plain) (source : Nat) :
    placesIn (dialect.join source join) = placeNames join.predicates ∧
      StartsApart (dialect.join source join) := by
  have each : ∀ predicate ∈ join.conditions,
      placesIn (" AND " ++ dialect.predicate (some source) predicate) =
        predicate.placeholder?.toList.map placeholderName := by
    intro predicate member
    rw [placesIn_append_of_placeless (by decide)]
    exact placesIn_predicate (plain.columns predicate (List.mem_append_right _ member))
  have begun : ∀ text ∈ join.conditions.map fun p => " AND " ++ dialect.predicate (some source) p,
      StartsApart text := by
    intro text member
    obtain ⟨predicate, _, rfl⟩ := List.mem_map.mp member
    exact startsApart_of_cons rfl rfl _
  have last := (placesIn_join begun).1.trans (flatMap_placesIn each)
  rw [Dialect.join_eq]
  refine ⟨?_, startsApart_of_cons rfl rfl _⟩
  -- What is joined, the keys, and the conditions: places are in the first and in the last of them.
  have apart : StartsApart (dialect.joinKeysText source join ++
      String.join (join.conditions.map fun p => " AND " ++ dialect.predicate (some source) p)) := by
    unfold Dialect.joinKeysText
    simp only [String.append_assoc]
    exact startsApart_of_cons rfl rfl _
  rw [placesIn_append_of_placeless (by decide), placesIn_append _ apart, placesIn_joined plain,
    placesIn_append_of_placeless (placeless_joinKeysText plain source), last, Join.predicates,
    placeNames_append]

/-- The places in joins that follow each other are those that their predicates read, join by join. -/
theorem placesIn_joins {joins : List Join} {write : Nat → Join → String}
    (each : ∀ join ∈ joins, ∀ position, placesIn (write position join) = placeNames join.predicates ∧
      StartsApart (write position join)) :
    placesIn (String.join (joins.mapIdx write)) = placeNames (joins.flatMap Join.predicates) ∧
      StartsApart (String.join (joins.mapIdx write)) := by
  -- The position of a join changes its alias, and none of its places.
  induction joins generalizing write with
  | nil => exact ⟨rfl, nofun⟩
  | cons join rest ih =>
    obtain ⟨places, begun⟩ := each join (by simp) 0
    obtain ⟨others, apart⟩ := @ih (fun position => write (position + 1)) fun other member position =>
      each other (List.mem_cons_of_mem _ member) (position + 1)
    rw [List.mapIdx_cons, String.join_cons]
    refine ⟨?_, begun.append apart⟩
    rw [placesIn_append _ apart, places, others, List.flatMap_cons, placeNames_append]

/-- The cap of a statement brings no place with it, whatever stands before it. -/
theorem placesIn_capRows (sql : String) (cap : Int) :
    placesIn (dialect.capRows sql cap) = placesIn sql := by
  -- A cap begins with a blank in every dialect.
  have limit : StartsApart (" LIMIT " ++ intText cap) := startsApart_of_cons rfl rfl _
  have offset : StartsApart (" OFFSET 0 ROWS FETCH NEXT " ++ (intText cap ++ " ROWS ONLY")) :=
    startsApart_of_cons rfl rfl _
  have plain := placeless_intText cap
  unfold Dialect.capRows
  -- There is no colon in what the cap adds.
  split
  · rw [String.append_assoc, String.append_assoc, placesIn_append _ offset,
      placesIn_eq_nil (Placeless.append (by decide) (plain.append (by decide))), List.append_nil]
  · rw [String.append_assoc, placesIn_append _ limit,
      placesIn_eq_nil (Placeless.append (by decide) plain), List.append_nil]

/-- What stands before a statement stands before the capped one. -/
theorem capRows_append (first second : String) (cap : Int) :
    dialect.capRows (first ++ second) cap = first ++ dialect.capRows second cap := by
  unfold Dialect.capRows
  -- The cap follows whatever there is.
  cases dialect <;> simp only [String.append_assoc]

/-- The written conditions of a statement, if there are any. -/
def Dialect.conditionsText (dialect : Dialect) (conditions : List Predicate) : String :=
  if conditions.isEmpty then "" else " WHERE " ++ dialect.conjunction (some 0) conditions

/-- The places in the conditions of a statement are those that they read. -/
theorem placesIn_conditionsText {conditions : List Predicate}
    (plain : ∀ predicate ∈ conditions, Placeless predicate.column) :
    placesIn (dialect.conditionsText conditions) = placeNames conditions ∧
      StartsApart (dialect.conditionsText conditions) := by
  unfold Dialect.conditionsText
  -- Without conditions there is no text.
  split
  · rename_i none
    rw [List.isEmpty_iff.mp none]
    exact ⟨rfl, nofun⟩
  · rw [placesIn_append_of_placeless (by decide), placesIn_predicates plain]
    exact ⟨rfl, startsApart_of_cons rfl rfl _⟩

/-- The written order of a statement. -/
def Dialect.orderText (dialect : Dialect) (order : List ColumnRef) : String :=
  " ORDER BY " ++
    ", ".intercalate (order.map fun ref => dialect.column (some ref.source) ref.column)

/-- What follows the word behind the returned columns of a statement. -/
def Dialect.statementTail (dialect : Dialect) (statement : Statement) : String :=
  dialect.capRows
    (dialect.quote statement.table ++ " t0" ++
      (String.join (statement.joins.mapIdx fun position => dialect.join (position + 1)) ++
        (dialect.conditionsText statement.conditions ++ dialect.orderText statement.order)))
    statement.cap

/-- A statement is its returned columns and what follows them. -/
theorem Dialect.statement_eq (dialect : Dialect) (statement : Statement) :
    dialect.statement statement =
      "SELECT " ++ ", ".intercalate (statement.columns.map dialect.selected) ++ " FROM " ++
        dialect.statementTail statement := by
  -- The cap is left to the end.
  unfold Dialect.statementTail
  rw [← capRows_append]
  simp only [Dialect.statement, Dialect.conditionsText, Dialect.orderText, String.append_assoc]

/-- There is no place in an order. -/
theorem placeless_orderText {order : List ColumnRef} (plain : ∀ ref ∈ order, Placeless ref.column) :
    Placeless (dialect.orderText order) := by
  -- Each part of the order is a column.
  refine Placeless.append (by decide) (Placeless.intercalate (by decide) fun text member => ?_)
  obtain ⟨ref, inside, rfl⟩ := List.mem_map.mp member
  exact placeless_column (plain ref inside)

/--
Behind the returned columns the places in a statement are those that its predicates read, in the
order of the statement.
-/
theorem Statement.Plain.placesIn_tail {statement : Statement} (plain : statement.Plain)
    (dialect : Dialect) :
    placesIn (dialect.statementTail statement) = statement.placeholders.map placeholderName := by
  -- Part by part, as the statement is written: table, joins, conditions, order, cap.
  have front : Placeless (dialect.quote statement.table ++ " t0") :=
    (placeless_quote plain.table).append (by decide)
  have joins : placesIn (String.join
      (statement.joins.mapIdx fun position => dialect.join (position + 1))) =
        placeNames (statement.joins.flatMap Join.predicates) :=
    (placesIn_joins fun join member position =>
      placesIn_join_text (plain.joins join member) (position + 1)).1
  have conditions : placesIn (dialect.conditionsText statement.conditions) =
        placeNames statement.conditions ∧
      StartsApart (dialect.conditionsText statement.conditions) :=
    placesIn_conditionsText plain.columns
  have order : Placeless (dialect.orderText statement.order) := placeless_orderText plain.order
  have sorted : StartsApart (dialect.orderText statement.order) := startsApart_of_cons rfl rfl _
  unfold Dialect.statementTail
  rw [placesIn_capRows, placesIn_append_of_placeless front,
    placesIn_append _ (conditions.2.append sorted), joins, placesIn_append _ sorted, conditions.1,
    placesIn_eq_nil order, List.append_nil, ← placeNames_append]
  rfl

end Rendering

end Joinery
