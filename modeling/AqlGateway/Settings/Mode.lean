import AqlGateway.Aql.Translation
import AqlGateway.Json.Fields

/-!
# Translation modes as data

A mode is written as its name, or as an object with the name as its only key and nothing in it.

* `Mode.json`, `Mode.ofJson?` — a mode as JSON.
-/

namespace AqlGateway.Aql.Mode

def ofName? (name : String) : Option Mode := all.find? fun mode => mode.name == name

def json (mode : Mode) : Json := .string mode.name

def ofJson? : Json → Option Mode
  | .string name => ofName? name
  | .object [(name, .null)] => ofName? name
  | _ => none

end AqlGateway.Aql.Mode
