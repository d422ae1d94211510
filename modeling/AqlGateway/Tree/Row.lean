import AqlGateway.Row
import AqlGateway.Tree.Basic

/-!
# Trees in rows

A row is read leniently: a missing column, a null and a value of another type leave the field at
its zero value.

* `Tree.ofRow` — the tree of a row.
-/

namespace AqlGateway.Tree

def rowText (row : Row) (column : String) : String :=
  match row.get? column with
  | none => ""
  | some .null => ""
  | some value => value.shown

/-- The date of a column that holds a date, an instant or the text of a date. -/
def rowDate? (row : Row) (column : String) : Option Date :=
  match row.get? column with
  | some (.date d) => some d
  | some (.timestamp t) => some t.date
  | some (.text s) => Date.ofText? s
  | _ => none

/-- The instant of a column that holds an instant or its text. -/
def rowInstant? (row : Row) (column : String) : Option Instant :=
  match row.get? column with
  | some (.timestamp t) => some t
  | some (.text s) => Instant.ofText? s
  | _ => none

def rowInteger (row : Row) (column : String) : Int64 :=
  ((row.get? column).bind Value.asInteger?).getD 0

def rowReal (row : Row) (column : String) : Binary64 :=
  ((row.get? column).bind Value.asReal?).getD (Binary64.zero false)

def ofRow (row : Row) : Tree where
  id := rowText row "id"
  code := rowText row "code"
  speciesId := rowText row "species_id"
  locationId := rowText row "location_id"
  plantingDate := rowDate? row "planting_date"
  ageYears := rowInteger row "age_years"
  heightMeters := rowReal row "height_meters"
  diameterCm := rowReal row "diameter_cm"
  status := Status.ofField? (rowText row "status")
  healthScore := rowInteger row "health_score"
  notes := rowText row "notes"
  registeredBy := rowText row "registered_by"
  createdAt := rowInstant? row "created_at"
  updatedAt := rowInstant? row "updated_at"

end AqlGateway.Tree
