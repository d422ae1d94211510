import AqlGateway.Settings.Path

/-!
# Settings from the environment

A variable whose name begins with `SAWITQL_`, in any case, is a setting. Two underscores in the
rest of its name separate the keys of a path: `SAWITQL_REMOTE__PORT` sets `remote.port`.

* `Environment.setting?` — the key and value of a variable;
* `Environment.overlay` — settings with those of an environment over them.
-/

namespace AqlGateway.Settings.Environment

/-- The lower-case form of a character, as far as a name of a setting may hold it: the letters of
ASCII, and the Kelvin sign, whose lower case is one of them. -/
def lower (c : Char) : Char := if c = '\u212a' then 'k' else c.toLower

/-- How the names of the variables begin. -/
def lead : String := "sawitql_"

/-- A name with a point for each two underscores. -/
def dotted : List Char → List Char
  | '_' :: '_' :: s => '.' :: dotted s
  | c :: s => c :: dotted s
  | [] => []

/-- A whole number with an optional sign, if it fits 64 bits. -/
def integer? (s : String) : Option Int64 :=
  let (negative, digits) := Binary64.splitSign s.toList
  if digits.isEmpty || !digits.all Char.isDigit then none
  else
    let n : Int := Binary64.digitsValue 0 digits
    let signed := if negative then -n else n
    if Int64.minValue.toInt ≤ signed ∧ signed ≤ Int64.maxValue.toInt then some (Int64.ofInt signed)
    else none

/-- The entry of a variable's text: a truth value, a whole number, a real number, or text. -/
def entry (s : String) : Entry :=
  if Entry.lowered s = "true" then .boolean true
  else if Entry.lowered s = "false" then .boolean false
  else match integer? s with
    | some n => .integer n
    | none => match Binary64.ofText? s with
      | some x => .real x
      | none => .text s

/-- The key and value of a variable that is a setting. -/
def setting? (name text : String) : Option (String × Entry) :=
  (Text.expect? lead.toList (name.toList.map lower)).map fun rest =>
    (String.ofList (dotted rest), entry text)

/-- An entry with a value set at a key, which is a path if it reads as one. -/
def setKey (key : String) (value : Entry) (root : Entry) : Entry :=
  Entry.setAt value ((Path.ofText? key).getD [.key key]) root

/-- Settings with those of an environment over them. -/
def overlay (environment : List (String × String)) (root : Entry) : Entry :=
  (environment.filterMap fun (name, text) => setting? name text).foldl
    (fun root (key, value) => setKey key value root) root

end AqlGateway.Settings.Environment
