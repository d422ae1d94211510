import AqlGateway.Json.Reader

/-!
# Typed readings of JSON texts

A record is read from an object whose keys are the names of its fields, or from an array that has
the fields in order. Unknown keys are skipped whatever their values are; a known key that comes
twice is refused. A choice between named variants is read from the name, or from an object whose
only key is the name.

* `JsonText.string?`, `bool?`, `int64?`, `real?`, `optional?` — the scalars;
* `JsonText.variant?` — a named variant and what it holds;
* `JsonText.fields?` — the fields of a record.
-/

namespace AqlGateway.JsonText

def string? : JsonText → Option String
  | string raw => text? raw
  | _ => none

def bool? : JsonText → Option Bool
  | bool b => some b
  | _ => none

/-- Nothing, written as `null`. -/
def unit? : JsonText → Option Unit
  | null => some ()
  | _ => none

/-- The signed 64-bit integer of a tree that is one; a number with a point or an exponent is
none. -/
def int64? : JsonText → Option Int64
  | number numeral => match numeral.meaning? with
    | some (.integer n) =>
      if n.value ≤ Int64.maxValue.toInt then some (Int64.ofInt n.value) else none
    | _ => none
  | _ => none

def real? : JsonText → Option Binary64
  | number numeral => match numeral.meaning? with
    | some (.integer n) => some (Binary64.ofInt n.value)
    | some (.real x) => some x
    | none => none
  | _ => none

/-- A value that may be `null` instead. -/
def optional? {α : Type} (read? : JsonText → Option α) : JsonText → Option (Option α)
  | null => some none
  | tree => (read? tree).map some

def variant? : JsonText → Option (String × Option JsonText)
  | string raw => (text? raw).map fun name => (name, none)
  | object [(key, content)] => (text? key).map fun name => (name, some content)
  | _ => none

/-- The name of a variant that holds nothing. -/
def emptyVariant? (tree : JsonText) : Option String := do
  let (name, content) ← variant? tree
  match content with
  | none => pure name
  | some content =>
    let _ ← unit? content
    pure name

/-- How a record is written. -/
inductive Form
  | byKey
  | byPosition
  deriving DecidableEq, Repr

/-- The keys of members as strings. -/
def keys? : List (List Char × JsonText) → Option (List (String × JsonText))
  | [] => some []
  | (key, value) :: rest => do
    let name ← text? key
    let more ← keys? rest
    pure ((name, value) :: more)

/-- The value of one field by its key: none when the key is missing, no reading when it is there
twice. -/
def fieldByKey? (members : List (String × JsonText)) (name : String) :
    Option (Option JsonText) :=
  match members.filter (fun member => member.1 == name) with
  | [] => some none
  | [member] => some (some member.2)
  | _ => none

/-- The fields of a record by their names, and how the record is written. -/
def fields? (names : List String) : JsonText → Option (Form × List (Option JsonText))
  | object members => do
    let members ← keys? members
    let values ← names.mapM (fieldByKey? members)
    pure (.byKey, values)
  | array items =>
    if items.length ≤ names.length then
      some (.byPosition, items.map some ++ List.replicate (names.length - items.length) none)
    else none
  | _ => none

end AqlGateway.JsonText
