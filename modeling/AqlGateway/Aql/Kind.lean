import AqlGateway.Text.Split

/-!
# Statement kinds

The eight kinds of statement, the keyword that each begins with, the name that messages give it,
and the token that confirms it for one table.
-/

namespace AqlGateway.Aql

/-- What a statement does. -/
inductive Kind
  | createTable
  | insert
  | select
  | update
  | delete
  | dropTable
  | listTables
  | count
  deriving DecidableEq, Repr

namespace Kind

/-- Every kind, in the order in which a text is tried for them. -/
def all : List Kind :=
  [createTable, insert, select, update, delete, dropTable, listTables, count]

def keyword : Kind → String
  | createTable => "LAHAN"
  | insert => "TANAM KE"
  | select => "PANEN"
  | update => "PUPUK"
  | delete => "GUSUR DARI"
  | dropTable => "BAKAR LAHAN"
  | listTables => "LIHAT LAHAN"
  | count => "HITUNG"

/-- The name that messages give this kind. -/
def name : Kind → String
  | createTable => "create-table"
  | insert => "insert"
  | select => "select"
  | update => "update"
  | delete => "delete"
  | dropTable => "drop-table"
  | listTables => "list-tables"
  | count => "count"

/-- The token that confirms a statement of this kind for `table`. -/
def confirmationToken (kind : Kind) (table : String) : String :=
  "CONFIRM_" ++ kind.keyword.map (fun c => if c = ' ' then '_' else c) ++ "_" ++ table

/-- Every kind is listed. -/
theorem mem_all (kind : Kind) : kind ∈ all := by
  cases kind <;> decide

end Kind

end AqlGateway.Aql
