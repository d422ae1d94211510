import AqlGateway.Executor.Operations
import AqlGateway.Repository.Store
import AqlGateway.Tree.Code
import AqlGateway.Tree.Row

/-!
# Trees in a relational database

Each operation is one statement of the guarded executor. Criteria, order and page of a list are
part of the statement.

* `Relational.store` — the operations.
-/

namespace AqlGateway.Relational

open Aql

variable {σ : Type} (executor : Executor σ)

def column (name value : String) : Option Predicate := some (.eq name (.text value))

def findOne (field value : String) : SessionM σ Tree := do
  let cursor ← executor.select Tree.table "*" (column field value)
  match cursor.first with
  | .ok (some row) => pure (Tree.ofRow row)
  | .ok none => throw (notFound field value)
  | .error e => throw e

/-- The order and page of a list as the tail of a condition, none when the page is everything. -/
def page? (filter : TreeFilter) : Option Predicate :=
  let limit := if filter.limit = 0 then "" else " LIMIT " ++ toString filter.limit
  let offset := if filter.offset = 0 then "" else " OFFSET " ++ toString filter.offset
  if filter.limit = 0 ∧ filter.offset = 0 then none
  else some (.raw ("1=1 ORDER BY code" ++ limit ++ offset))

/-- The condition of a list: the criteria, then the page. -/
def listCondition (filter : TreeFilter) : Option Predicate :=
  Predicate.all? (filter.predicate?.toList ++ (page? filter).toList)

def findAll (filter : TreeFilter) : SessionM σ (List Tree) := do
  let cursor ← executor.select Tree.table "*" (listCondition filter)
  match cursor.collect with
  | .ok rows => pure (rows.map Tree.ofRow)
  | .error e => throw e

/-- The condition under which the row with the highest code comes first and alone. -/
def highestCode : Predicate := .raw "1=1 ORDER BY code DESC LIMIT 1"

def rowNumber (row : Option Row) : UInt64 :=
  (((row.bind Row.first?).bind Value.asText?).bind Tree.codeNumber?).getD 0

/-- The code behind the highest one. -/
def nextCode : SessionM σ String := do
  let cursor ← executor.select Tree.table "code" (some highestCode)
  match cursor.first with
  | .ok row => match Tree.nextCodeAfter (rowNumber row) with
    | .ok code => pure code
    | .error e => throw e
  | .error e => throw e

def create (tree : Tree) : SessionM σ Unit := do
  let pairs := tree.insertPairs
  let _ ← executor.insert Tree.table (pairs.map Prod.fst) (pairs.map Prod.snd)

/-- Writes assignments to the tree with an id. -/
def write (id : String) (assignments : List Assignment) : SessionM σ Unit := do
  let _ ← executor.update Tree.table assignments (column "id" id)

def delete (id : String) : SessionM σ Unit := do
  let _ ← executor.delete Tree.table (column "id" id)

def store : TreeStore (SessionM σ) where
  create := create executor
  findById := findOne executor "id"
  findByCode := findOne executor "code"
  findAll := findAll executor
  update now tree := write executor tree.id (tree.updateAssignments now)
  updateStatus now id status healthScore :=
    write executor id (Tree.statusAssignments status healthScore now)
  delete := delete executor
  nextCode := nextCode executor
  countByLocation location := executor.count Tree.table (column "location_id" location)
  countByStatus status := executor.count Tree.table (column "status" status.name)

end AqlGateway.Relational
