import AqlGateway.Error
import AqlGateway.Postgres.Numeric
import AqlGateway.Row

/-!
# Columns of results

* `ColumnType` — the types of columns, and their names;
* `Datum` — a value as the database sends it;
* `ColumnType.read?` — the value of a datum, none for a type that is not read;
* `decodeRow` — the row of data, or the error of the first column that cannot be read.
-/

namespace AqlGateway.Postgres

inductive ColumnType
  | int2 | int4 | int8 | oid | time
  | float4 | float8 | numeric | bool
  | date | timestamp | timestamptz | uuid
  | text | varchar | char | name
  | json | jsonb | bytea
  deriving DecidableEq, Repr, Inhabited

namespace ColumnType

def all : List ColumnType :=
  [int2, int4, int8, oid, time, float4, float8, numeric, bool, date, timestamp, timestamptz, uuid,
    text, varchar, char, name, json, jsonb, bytea]

def sqlName : ColumnType → String
  | int2 => "INT2"
  | int4 => "INT4"
  | int8 => "INT8"
  | oid => "OID"
  | time => "TIME"
  | float4 => "FLOAT4"
  | float8 => "FLOAT8"
  | numeric => "NUMERIC"
  | bool => "BOOL"
  | date => "DATE"
  | timestamp => "TIMESTAMP"
  | timestamptz => "TIMESTAMPTZ"
  | uuid => "UUID"
  | text => "TEXT"
  | varchar => "VARCHAR"
  | char => "CHAR"
  | name => "NAME"
  | json => "JSON"
  | jsonb => "JSONB"
  | bytea => "BYTEA"

def ofSqlName? (s : String) : Option ColumnType := all.find? fun type => type.sqlName == s

end ColumnType

/-- A value as the database sends it. -/
inductive Datum
  | null
  | integer (n : Int64)
  | real (x : Binary64)
  /-- A decimal number, or none for what is not a number. -/
  | numeric (n : Option Numeric)
  | boolean (b : Bool)
  | date (d : Date)
  | instant (t : Instant)
  | text (s : String)
  deriving DecidableEq, Repr, Inhabited

/-! ### Reading values -/

/-- The text of a UUID: lower-case digits in groups of 8, 4, 4, 4 and 12. -/
def uuidText (s : String) : String :=
  let digits := (s.toList.filter (· != '-')).map Char.toLower
  let group (start length : Nat) := (digits.drop start).take length
  String.ofList (['-'].intercalate [group 0 8, group 8 4, group 12 4, group 16 4, group 20 12])

/-- An instant to the microsecond, without leap seconds. -/
def microsecondInstant? (t : Instant) : Option Instant :=
  let micros := t.unixSeconds * 1000000 + t.nanos / 1000
  Instant.ofUnix? (micros.fdiv 1000000) ((micros.fmod 1000000).toNat * 1000)

def ColumnType.read? : ColumnType → Datum → Option Value
  | _, .null => some .null
  | .int2, .integer n => some (.integer n)
  | .int4, .integer n => some (.integer n)
  | .int8, .integer n => some (.integer n)
  | .float4, .real x => some (.real x.single)
  | .float8, .real x => some (.real x)
  | .numeric, .numeric n => (n.bind Numeric.fitted?).map fun n => .real n.toReal
  | .bool, .boolean b => some (.boolean b)
  | .date, .date d => some (.date d)
  | .timestamp, .instant t => (microsecondInstant? t).map .timestamp
  | .timestamptz, .instant t => (microsecondInstant? t).map .timestamp
  | .uuid, .text s => some (.text (uuidText s))
  | .text, .text s => some (.text s)
  | .varchar, .text s => some (.text s)
  | .char, .text s => some (.text s)
  | .name, .text s => some (.text s)
  | _, _ => none

structure Column where
  name : String
  type : ColumnType
  deriving DecidableEq, Repr, Inhabited

/-- The values of data in columns, the first of which has number `index`. -/
def decodeValues (index : Nat) : List Column → List Datum → Except Error (List Value)
  | [], _ => .ok []
  | column :: columns, data =>
    match column.type.read? (data.head?.getD .null) with
    | none => .error (.database (.columnDecode index))
    | some value => (decodeValues (index + 1) columns data.tail).map (value :: ·)

def decodeRow (columns : List Column) (data : List Datum) : Except Error Row :=
  (decodeValues 0 columns data).map fun values => ⟨columns.map Column.name, values⟩

end AqlGateway.Postgres
