import AqlGateway.Aql.Statement
import AqlGateway.Tree.Status

/-!
# Trees

* `Tree` — a tree as either store keeps it; what a store did not say is zero, empty or unset;
* `Tree.columns`, `Tree.values` — the columns of the table and a tree's values in their order;
* `Tree.insertPairs` — the columns and values of an insert, without unset dates;
* `Tree.updateAssignments`, `statusAssignments` — what the two updates write.
-/

namespace AqlGateway

structure Tree where
  id : String := ""
  /-- A code for people, such as `C001`. -/
  code : String := ""
  speciesId : String := ""
  locationId : String := ""
  plantingDate : Option Date := none
  ageYears : Int64 := 0
  heightMeters : Binary64 := Binary64.zero false
  diameterCm : Binary64 := Binary64.zero false
  status : Option Status := none
  healthScore : Int64 := 0
  notes : String := ""
  registeredBy : String := ""
  createdAt : Option Instant := none
  updatedAt : Option Instant := none
  deriving DecidableEq, Repr

namespace Tree

open Aql

def table : String := "trees"

/-- The columns of the table, in the order of an insert. -/
def columns : List String :=
  ["id", "code", "species_id", "location_id", "planting_date", "age_years", "height_meters",
    "diameter_cm", "status", "health_score", "notes", "registered_by", "created_at", "updated_at"]

def dateColumns : List String := ["planting_date", "created_at", "updated_at"]

/-- The value of a field that may be unset. -/
def optionalValue {α : Type} (value : α → Value) : Option α → Value
  | none => .null
  | some a => value a

def statusValue (status : Status) : Value := .text status.name

/-- The values of a tree in the order of the columns. -/
def values (tree : Tree) : List Value :=
  [.text tree.id, .text tree.code, .text tree.speciesId, .text tree.locationId,
    optionalValue .date tree.plantingDate, .integer tree.ageYears, .real tree.heightMeters,
    .real tree.diameterCm, optionalValue statusValue tree.status, .integer tree.healthScore,
    .text tree.notes, .text tree.registeredBy, optionalValue .timestamp tree.createdAt,
    optionalValue .timestamp tree.updatedAt]

/-- The columns and values of an insert. Unset dates are left out, so that the table's defaults
apply to them. -/
def insertPairs (tree : Tree) : List (String × Value) :=
  (columns.zip tree.values).filter fun (column, value) =>
    !(value.isNull && dateColumns.contains column)

/-- The assignments of a full update. What identifies a tree and who registered it when is left
alone, and an unset planting date keeps the stored one. -/
def updateAssignments (tree : Tree) (now : Instant) : List Assignment :=
  [⟨"species_id", .text tree.speciesId⟩, ⟨"location_id", .text tree.locationId⟩]
    ++ (tree.plantingDate.map fun date => Assignment.mk "planting_date" (.date date)).toList
    ++ [⟨"age_years", .integer tree.ageYears⟩, ⟨"height_meters", .real tree.heightMeters⟩,
      ⟨"diameter_cm", .real tree.diameterCm⟩, ⟨"status", optionalValue statusValue tree.status⟩,
      ⟨"health_score", .integer tree.healthScore⟩, ⟨"notes", .text tree.notes⟩,
      ⟨"updated_at", .timestamp now⟩]

/-- The assignments of an update of the status alone. -/
def statusAssignments (status : Status) (healthScore : Int64) (now : Instant) : List Assignment :=
  [⟨"status", statusValue status⟩, ⟨"health_score", .integer healthScore⟩,
    ⟨"updated_at", .timestamp now⟩]

end Tree

end AqlGateway
