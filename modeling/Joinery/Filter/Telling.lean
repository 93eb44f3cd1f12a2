import Joinery.Filter.Condition
import Joinery.Query.Fault

/-! Filters are read, and what is wrong with them is told. -/

namespace Joinery

/-- The conditions of a filter on an entity, and the keys that are not open; a complaint is told. -/
def Filter.toConditions (levels : Nat) (entity : EntitySchema) (filter : Option Filter) :
    Except PlanFault Reading :=
  (Filter.read entity filter).mapError fun cause => (PlanFault.rejected cause).raised levels

end Joinery
