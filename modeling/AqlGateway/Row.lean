import AqlGateway.Value.Basic

/-!
# Rows

A row of a result: the names of its columns and its values.

* `Row.get?` — the value of the first column with a name;
* `Row.first?` — the value of the first column.
-/

namespace AqlGateway

/-- A row of a result. There may be more or fewer values than columns. -/
structure Row where
  columns : List String
  values : List Value
  deriving DecidableEq, Repr, Inhabited

namespace Row

/-- The value of the first column with a name. -/
def get? (row : Row) (column : String) : Option Value :=
  (row.columns.findIdx? (· == column)).bind (row.values[·]?)

def first? (row : Row) : Option Value := row.values.head?

end Row

end AqlGateway
