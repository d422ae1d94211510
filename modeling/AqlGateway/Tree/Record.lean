import AqlGateway.Json.Reader
import AqlGateway.Tree.Basic

/-!
# Trees in JSON records

A record is the members of a JSON object. It is read as leniently as a row.

* `getString`, `getInteger`, `getReal` — what a record says about a key;
* `Tree.ofRecord` — the tree of a record;
* `parseRecords` — the records in the payload of a response.
-/

namespace AqlGateway

/-- The members of a JSON object. -/
abbrev Record := List (String × Json)

/-- The text of a key: a string as it is, anything else but null as its JSON text. -/
def getString (record : Record) (key : String) : String :=
  match Json.lookup? key record with
  | none => ""
  | some .null => ""
  | some (.string s) => s
  | some other => other.compact

def Json.number? : Json → Option Binary64
  | integer n => some (Binary64.ofInt n.value)
  | real x => some x
  | _ => none

/-- The real number of a key, zero when it holds no number. -/
def getReal (record : Record) (key : String) : Binary64 :=
  ((Json.lookup? key record).bind Json.number?).getD (Binary64.zero false)

/-- The whole part of a key's number, zero when it holds no number. -/
def getInteger (record : Record) (key : String) : Int64 :=
  match (Json.lookup? key record).bind Json.number? with
  | some x => x.truncate
  | none => 0

namespace Tree

def ofRecord (record : Record) : Tree where
  id := getString record "id"
  code := getString record "code"
  speciesId := getString record "species_id"
  locationId := getString record "location_id"
  plantingDate := Date.ofText? (getString record "planting_date")
  ageYears := getInteger record "age_years"
  heightMeters := getReal record "height_meters"
  diameterCm := getReal record "diameter_cm"
  status := Status.ofField? (getString record "status")
  healthScore := getInteger record "health_score"
  notes := getString record "notes"
  registeredBy := getString record "registered_by"
  createdAt := Instant.ofText? (getString record "created_at")
  updatedAt := Instant.ofText? (getString record "updated_at")

end Tree

/-! ### Payloads -/

/-- Whether a text reports a failure of the engine. -/
def reportsFailure (text : String) : Bool := "Error".toList.isPrefixOf text.toList

/-- The records of the items of a list; none of them when one item is no object. -/
def recordsOf : List Json → Except Error (List Record)
  | [] => .ok []
  | .object members :: rest => (recordsOf rest).map (members :: ·)
  | other :: _ => .error (.protocol ("expected a row object, got " ++ other.compact))

/-- The records of a payload that is a document. -/
def documentRecords : Json → Except Error (List Record)
  | .null => .ok []
  | .array items => recordsOf items
  | other => .error (.protocol ("expected a list of rows, got " ++ other.compact))

/-- The records of a payload: a document, or the text of one. A text that begins with `Error`
reports a failure of the engine. -/
def parseRecords : Json → Except Error (List Record)
  | .string text =>
    if reportsFailure text then .error (.engine text)
    else match Json.read? text with
      | some document => documentRecords document
      | none => .error .parse
  | document => documentRecords document

end AqlGateway
