/-!
# Query forms

The six shapes of a derived query: what it does with the rows it finds, and whether it looks at
all rows or only at those that meet conditions.
-/

namespace EntityStore.Query

/-- The shape of a derived query. -/
inductive Form where
  | selectAll
  | selectFiltered
  | count
  | countFiltered
  | deleteAll
  | deleteFiltered
  deriving DecidableEq, Repr

namespace Form

/-- The name of a form in messages and records. -/
def label : Form → String
  | .selectAll => "select_all"
  | .selectFiltered => "select_filtered"
  | .count => "count"
  | .countFiltered => "count_filtered"
  | .deleteAll => "delete_all"
  | .deleteFiltered => "delete_filtered"

/-- The form with a name. -/
def ofLabel? : String → Option Form
  | "select_all" => some .selectAll
  | "select_filtered" => some .selectFiltered
  | "count" => some .count
  | "count_filtered" => some .countFiltered
  | "delete_all" => some .deleteAll
  | "delete_filtered" => some .deleteFiltered
  | _ => none

/-- Whether a query of this form has conditions. -/
def isFiltered : Form → Bool
  | .selectFiltered => true
  | .countFiltered => true
  | .deleteFiltered => true
  | _ => false

end Form

end EntityStore.Query
