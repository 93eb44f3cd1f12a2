import Joinery.Customers.Tables
import Joinery.Database.Engine

/-!
The database keeps customers in the order of their identifiers and in that of their addresses.

Going by the addresses, it comes across customers with one address as they are stored; going by the
identifiers, in the order of those, and then it has to sort. Which way it goes is a matter of what it expects
to cost less, and no statement says so.
-/

namespace Joinery

/-- Puts an item behind those at the front of a list that come before it. -/
def insertBehind {α : Type} (before : α → α → Bool) (item : α) : List α → List α
  | [] => [item]
  | first :: rest =>
    if before first item then first :: insertBehind before item rest else item :: first :: rest

/-- Items in order, where those of one place stay as they came. -/
def arrange {α : Type} (before : α → α → Bool) (items : List α) : List α :=
  items.foldr (insertBehind before) []

/-- An item that is put into a list is one more item. -/
theorem perm_insertBehind {α : Type} (before : α → α → Bool) (item : α) (items : List α) :
    (insertBehind before item items).Perm (item :: items) := by
  -- Whether it goes first or moves past the first item, nothing is lost.
  induction items with
  | nil => exact .refl _
  | cons first rest ih =>
    rw [insertBehind]
    split
    · exact (ih.cons first).trans (.swap item first rest)
    · exact .refl _

/-- Items in order are the same items. -/
theorem perm_arrange {α : Type} (before : α → α → Bool) (items : List α) :
    (arrange before items).Perm items := by
  -- Each item is put into what the others have become.
  induction items with
  | nil => exact .refl _
  | cons item rest ih => exact (perm_insertBehind before item _).trans (ih.cons item)

/-- Whether a condition leaves out single addresses. -/
def Predicate.excludesAddress : Predicate → Bool
  | .compare column .notEqual _ | .compare column .notIn _ => column == "email"
  | _ => false

/-- Whether a condition sets a bound to the identifiers. -/
def Predicate.boundsIdentifier : Predicate → Bool
  | .compare column .greater _ | .compare column .atLeast _ => column == customerTable.key
  | .compare column .less _ | .compare column .atMost _ => column == customerTable.key
  | _ => false

/--
Whether customers are come across by their identifiers where their addresses set the order.

A bound on the identifiers makes that possible, and it pays when few customers are wanted, or when many
addresses are left out, unless those conditions come first: then they are checked without looking at the customers.
-/
def Statement.goesByIdentifier (statement : Statement) : Bool :=
  let excluding := statement.conditions.filter (·.excludesAddress)
  let leading := statement.conditions.takeWhile (·.excludesAddress)
  statement.table == customerTable.name && statement.joins.isEmpty &&
    statement.order == [⟨0, "email"⟩] && statement.conditions.any (·.boundsIdentifier) &&
    statement.conditions.all (fun predicate =>
      predicate.excludesAddress || predicate.boundsIdentifier) &&
    (statement.cap ≤ 10 || 16 ≤ excluding.length && leading.length < 16)

/-- The engine that comes across customers by one of the two orders in which it keeps them. -/
def Engine.indexed : Engine :=
  { Engine.stored with
    gather := fun database statement _ rows =>
      if statement.goesByIdentifier then
        let table := database.tableOrEmpty statement.table
        let identifier (joined : JoinedRow) : Cell :=
          table.cell customerTable.key (joined.headD [])
        arrange (fun a b => (identifier a).order (identifier b) == .lt) rows
      else rows
    gather_perm := fun database statement _ rows => by
      dsimp only
      split
      · exact perm_arrange _ rows
      · exact .refl _ }

end Joinery
