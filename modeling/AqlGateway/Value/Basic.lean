import AqlGateway.Binary64.Layout
import AqlGateway.Calendar.Instant
import AqlGateway.Text.Quoted

/-!
# Values

The values that statements carry and rows hold.

* `Value.shown` — the text of a value as it is shown;
* `Value.literal` — the value as a literal of a statement: text, dates and instants are quoted;
* `Value.asInteger?`, `asText?`, `asReal?` — what a value is read as.
-/

namespace AqlGateway

inductive Value
  | null
  | integer (n : Int64)
  | real (x : Binary64)
  | text (s : String)
  | boolean (b : Bool)
  | date (d : Date)
  | timestamp (t : Instant)
  deriving DecidableEq, Repr

namespace Value

instance : Inhabited Value := ⟨null⟩

def booleanText (b : Bool) : String := if b then "true" else "false"

def integerText (n : Int) : String :=
  if n < 0 then "-" ++ toString n.natAbs else toString n.natAbs

/-- The text of a value as it is shown. -/
def shown : Value → String
  | null => "NULL"
  | integer n => integerText n.toInt
  | real x => x.plainText
  | text s => s
  | boolean b => booleanText b
  | date d => d.text
  | timestamp t => t.text

def literal : Value → String
  | text s => Text.quoteText s
  | date d => Text.quoteText d.text
  | timestamp t => Text.quoteText t.text
  | value => value.shown

def asInteger? : Value → Option Int64
  | integer n => some n
  | _ => none

def asText? : Value → Option String
  | text s => some s
  | _ => none

/-- The number of a real or integer value. -/
def asReal? : Value → Option Binary64
  | real x => some x
  | integer n => some (Binary64.ofInt n.toInt)
  | _ => none

def isNull : Value → Bool
  | null => true
  | _ => false

end Value

end AqlGateway
