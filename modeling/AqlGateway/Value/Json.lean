import AqlGateway.Json.Fields
import AqlGateway.Value.Basic

/-!
# Values as JSON

A value is written under the name of its type, as in `\x7b"Integer":5\x7d`; null is the name alone.

* `Value.json` — the JSON of a value;
* `Value.ofJsonText?` — the value of a JSON text.
-/

namespace AqlGateway.Value

/-- An object with one member. -/
def tagged (name : String) (content : Json) : Json := .object [(name, content)]

def json : Value → Json
  | null => .string "Null"
  | integer n => tagged "Integer" (.ofInt n.toInt)
  | real x => tagged "Real" (.real x)
  | text s => tagged "Text" (.string s)
  | boolean b => tagged "Boolean" (.bool b)
  | date d => tagged "Date" (.string d.text)
  | timestamp t => tagged "Timestamp" (.string t.fullText)

def ofTagged? (name : String) (content : JsonText) : Option Value :=
  match name with
  | "Null" => content.unit?.map fun _ => null
  | "Integer" => content.int64?.map integer
  | "Real" => content.real?.map real
  | "Text" => content.string?.map text
  | "Boolean" => content.bool?.map boolean
  | "Date" => (content.string?.bind Date.ofSpacedText?).map date
  | "Timestamp" => (content.string?.bind Instant.ofSpacedText?).map timestamp
  | _ => none

def ofTree? (tree : JsonText) : Option Value := do
  let (name, content) ← tree.variant?
  match content with
  | some content => ofTagged? name content
  | none => if name = "Null" then some null else none

def ofJsonText? (s : String) : Option Value := (JsonText.read? s).bind ofTree?

end AqlGateway.Value
