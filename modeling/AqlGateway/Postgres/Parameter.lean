import AqlGateway.Value.Basic

/-!
# Bound parameters

The values of a statement's placeholders travel apart from its text, each in the form of a type
of the database. Days and microseconds are counted from the beginning of the year 2000.

* `Parameter.ofValue` — the form in which a value is bound.
-/

namespace AqlGateway.Postgres

inductive Parameter
  | int8 (n : Int64)
  | float8 (x : Binary64)
  /-- A text, or null. -/
  | text (s : Option String)
  | bool (b : Bool)
  | date (days : Int)
  | timestamptz (microseconds : Int)
  deriving DecidableEq, Repr

/-- Days from 1970-01-01 to 2000-01-01. -/
def epochDay : Int := 10957

/-- Microseconds from the beginning of 2000 to an instant, those of a part of one left out toward
that beginning. -/
def microseconds (t : Instant) : Int :=
  ((t.unixSeconds - epochDay * 86400) * 1000000000 + t.nanos).tdiv 1000

namespace Parameter

/-- The form in which a value is bound. -/
def ofValue : Value → Parameter
  | .null => text none
  | .integer n => int8 n
  | .real x => float8 x
  | .text s => text (some s)
  | .boolean b => bool b
  | .date d => date (d.dayNumber - epochDay)
  | .timestamp t => timestamptz (microseconds t)

end Parameter

end AqlGateway.Postgres
