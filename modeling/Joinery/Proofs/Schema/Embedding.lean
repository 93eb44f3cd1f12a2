import Joinery.Proofs.Schema.Naming
import Joinery.Proofs.Schema.Relationships

/-! What is taken from a schema document into statements as it stands: names and orders, but for two letters. -/

namespace Joinery

/--
Every table and every field has a plain name, or one with a line end behind it, and every order lists fields
with a direction at most, in letters of either case or with a long s.

So a name is plain exactly without a line end, and an order is one of ASCII letters exactly without a long s.
-/
theorem Registry.embedded_texts_formed {document : Value} {registry : Registry}
    (read : ofDocument document = .ok registry) {key : String} {entity : EntitySchema}
    (inside : (key, entity) ∈ registry.entities) :
    (∀ name ∈ entity.tableName :: entity.fieldNames,
      (IsPlainName name ∨ ∃ plain, IsPlainName plain ∧ name = plain ++ "\n") ∧
        (IsPlainName name ↔ '\n' ∉ name.toList)) ∧
    ∀ order ∈ entity.defaultOrderBy, entity.OrderList smallLetter order ∧
      (entity.OrderList Char.toLower order ↔ 'ſ' ∉ order.toList) := by
  -- The entity was checked when it was read, with the patterns that let a line end and a long s pass.
  have formed := EntitySchema.wellFormed_of_checked ((loaded_of_ofDocument read).checked _ _ inside)
  constructor
  · intro name member
    have named : isName name = true := by
      rcases List.mem_cons.mp member with rfl | field
      · exact formed.table
      · exact formed.fields name field
    exact ⟨isName_iff.mp named, isPlainName_iff_of_isName named⟩
  · intro order given
    have listed := EntitySchema.orderList_of_accepted formed.order given
    exact ⟨listed, EntitySchema.orderList_toLower_iff.trans (and_iff_right listed)⟩

/-- The document of pets in a table, which have an age under a name and an order. -/
def herdDocument (table age order : String) : Value :=
  .map [("entities", .map [
    ("Pet", entityDocument table [("id", "integer"), (age, "integer")] [] (.text order) [])])]

/-- The registry of pets whose names are plain, with both directions in an order full of blanks. -/
def herdRegistry : Registry :=
  (Registry.ofDocument (herdDocument "pet" "age" " age dESc,\tid\nAsc ")).toOption.get
    (by decide +kernel)

/-- The entity of these pets. -/
def herdEntity : EntitySchema := (herdRegistry.entities.get? "pet").get (by decide +kernel)

/-- The pets have plain names and an order in ASCII letters. -/
theorem herdEntity_texts_formed :
    Registry.ofDocument (herdDocument "pet" "age" " age dESc,\tid\nAsc ") = .ok herdRegistry ∧
    ("pet", herdEntity) ∈ herdRegistry.entities ∧
    herdEntity.tableName = "pet" ∧ herdEntity.fieldNames = ["id", "age"] ∧
    herdEntity.defaultOrderBy = some " age dESc,\tid\nAsc " ∧
    (∀ name ∈ ["pet", "id", "age"], IsPlainName name) ∧
    herdEntity.OrderList Char.toLower " age dESc,\tid\nAsc " := by
  -- The document is read, and nothing in its names and orders is out of the ordinary.
  have read : Registry.ofDocument (herdDocument "pet" "age" " age dESc,\tid\nAsc ") =
      .ok herdRegistry := eq_ok_get _
  have inside : ("pet", herdEntity) ∈ herdRegistry.entities :=
    Entries.mem_of_get? (Option.some_get _).symm
  have table : herdEntity.tableName = "pet" := by decide +kernel
  have fields : herdEntity.fieldNames = ["id", "age"] := by decide +kernel
  have order : herdEntity.defaultOrderBy = some " age dESc,\tid\nAsc " := by decide +kernel
  -- In these texts there is no line end and no long s, so they are as plain as the theorem makes them.
  obtain ⟨names, orders⟩ := Registry.embedded_texts_formed read inside
  rw [table, fields] at names
  refine ⟨read, inside, table, fields, order, fun name member => ?_, ?_⟩
  · refine (names name member).2.mpr ?_
    revert name
    decide
  · exact (orders _ order).2.mpr (by decide)

/-- The registry of pets with a line end in two names, and a long s in the order. -/
def brokenRegistry : Registry :=
  (Registry.ofDocument (herdDocument "pet\n" "age\n" "id deſc")).toOption.get (by decide +kernel)

/-- The entity of these pets. -/
def brokenEntity : EntitySchema := (brokenRegistry.entities.get? "pet").get (by decide +kernel)

/-- A table and a field whose names end in a line end are accepted, and so is a direction with a long s. -/
theorem Registry.embedded_texts_broken :
    ¬ (∀ document registry, Registry.ofDocument document = .ok registry →
      ∀ key entity, (key, entity) ∈ registry.entities →
        (∀ name ∈ entity.tableName :: entity.fieldNames, IsPlainName name) ∧
        ∀ order ∈ entity.defaultOrderBy, entity.OrderList Char.toLower order) ∧
    Registry.ofDocument (herdDocument "pet\n" "age\n" "id deſc") = .ok brokenRegistry ∧
    ("pet", brokenEntity) ∈ brokenRegistry.entities ∧
    (brokenEntity.tableName = "pet\n" ∧ ¬ IsPlainName brokenEntity.tableName) ∧
    ("age\n" ∈ brokenEntity.fieldNames ∧ ¬ IsPlainName "age\n") ∧
    (brokenEntity.defaultOrderBy = some "id deſc" ∧
      ¬ brokenEntity.OrderList Char.toLower "id deſc") := by
  -- The document is read all the same.
  have read : Registry.ofDocument (herdDocument "pet\n" "age\n" "id deſc") = .ok brokenRegistry :=
    eq_ok_get _
  have inside : ("pet", brokenEntity) ∈ brokenRegistry.entities :=
    Entries.mem_of_get? (Option.some_get _).symm
  have table : brokenEntity.tableName = "pet\n" := by decide +kernel
  have order : brokenEntity.defaultOrderBy = some "id deſc" := by decide +kernel
  -- A plain name has no line end in it, and an order in ASCII letters no long s.
  have broken (name : String) (ended : '\n' ∈ name.toList) : ¬ IsPlainName name := fun plain =>
    plain.not_mem (by decide) ended
  have long : ¬ brokenEntity.OrderList Char.toLower "id deſc" := fun listed =>
    (EntitySchema.orderList_toLower_iff.mp listed).2 (by decide)
  refine ⟨fun formed => ?_, read, inside, ⟨table, table ▸ broken _ (by decide)⟩,
    ⟨by decide +kernel, broken _ (by decide)⟩, order, long⟩
  exact long ((formed _ _ read _ _ inside).2 _ order)

end Joinery
