import AqlGateway.Error
import AqlGateway.Text.Split

/-!
# What a program writes

* `Console` — the text on both outputs so far, and the code with which the program ends;
* `Console.say`, `Console.warn` — one more line on the output or on the error output;
* `Console.fail` — the report of the error that ends a program.
-/

namespace AqlGateway

/-- What a program has written, and the code with which it ends. -/
structure Console where
  output : String := ""
  errors : String := ""
  code : Nat := 0
  deriving DecidableEq, Repr, Inhabited

namespace Console

def say (line : String) (console : Console) : Console :=
  { console with output := console.output ++ line ++ "\n" }

/-- Writes a line on the error output. -/
def warn (line : String) (console : Console) : Console :=
  { console with errors := console.errors ++ line ++ "\n" }

/-! ### Reporting the error that ends a program -/

/-- Lines behind a lead, and behind as many blanks from the second on. -/
def indented (lead : String) (text : String) : String :=
  let margin := String.ofList (List.replicate lead.length ' ')
  lead ++ Text.joinWith ("\n" ++ margin)
    ((Text.splitOn '\n' text.toList).map String.ofList)

def numberedLead (n : Nat) : String :=
  let digits := toString n
  String.ofList (List.replicate (5 - digits.length) ' ') ++ digits ++ ": "

/-- The texts of causes, numbered when there are several. -/
def causes : List String → List String
  | [text] => [indented "    " text]
  | texts => texts.zipIdx.map fun (text, n) => indented (numberedLead n) text

/-- The report of an error with a text and the texts of its causes. -/
def report (text : String) (sources : List String) : String :=
  "Error: " ++ text ++ match sources with
    | [] => ""
    | _ => "\n\nCaused by:\n" ++ Text.joinWith "\n" (causes sources)

/-- Reports an error with the texts of its causes and ends with code 1. -/
def fail (text : String) (sources : List String) (console : Console) : Console :=
  { console.warn (report text sources) with code := 1 }

/-- Reports an error of the library and ends with code 1. -/
def failWith (e : Error) (console : Console) : Console := console.fail e.message e.sources

end Console

end AqlGateway
