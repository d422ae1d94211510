import AqlGateway.Table
import AqlGateway.Tree.Record

/-!
# Showing payloads

* `renderPayload` — rows as a table and their number, anything else as text or indented JSON.
-/

namespace AqlGateway.Shell

/-- The columns of records in the order in which they first appear. -/
def columnsOf (records : List Record) : List String :=
  records.foldl (fun columns record =>
    (record.map Prod.fst).foldl (fun acc key => if acc.contains key then acc else acc ++ [key])
      columns) []

def cell (record : Record) (column : String) : String :=
  match Json.lookup? column record with
  | none => ""
  | some .null => ""
  | some (.string s) => s
  | some other => other.compact

def recordTable (records : List Record) : Table :=
  let columns := columnsOf records
  ⟨columns, records.map fun record => columns.map (cell record)⟩

/-- A payload that is not a list of rows. -/
def renderOther : Json → String
  | .null => "OK"
  | .string text => text
  | other => other.pretty

def renderPayload (data : Json) : String :=
  match parseRecords data with
  | .ok [] => Table.rowCount 0
  | .ok records => (recordTable records).render ++ "\n" ++ Table.rowCount records.length
  | .error _ => renderOther data

end AqlGateway.Shell
