import AqlGateway.Aql.Translation
import AqlGateway.Command.Console

/-!
# The translator on the command line

Statements come from the arguments, or one a line from the input when the arguments hold none.

* `Translate.Arguments.ofList` — what the arguments ask for;
* `Translate.run` — the SQL of each statement that is not blank, or the error in its place.
-/

namespace AqlGateway.Translate

open Aql

structure Arguments where
  mode : Mode := .strict
  statements : List String := []
  deriving DecidableEq, Repr

def Arguments.addStatement (statement : String) (arguments : Arguments) : Arguments :=
  { arguments with statements := statement :: arguments.statements }

/-- Reads arguments. Options may follow statements; everything behind `--` is a statement. -/
def Arguments.ofList : List String → Arguments
  | [] => {}
  | "--" :: rest => { statements := rest }
  | "--passthrough" :: rest => { ofList rest with mode := .passthrough }
  | statement :: rest => (ofList rest).addStatement statement

/-- The statements to translate. -/
def Arguments.sources (arguments : Arguments) (input : String) : List String :=
  if arguments.statements.isEmpty then (Text.lines input.toList).map String.ofList
  else arguments.statements

def translate (mode : Mode) (console : Console) (statement : String) : Console :=
  match toSql mode statement with
  | .ok sql => console.say sql
  | .error e => { console.warn ("error: " ++ e.message) with code := 1 }

/-- Translates every statement that is not blank; the code is 1 when one of them failed. -/
def run (arguments : List String) (input : String) : Console :=
  let read := Arguments.ofList arguments
  ((read.sources input).filter (!Text.isAllBlank ·)).foldl (translate read.mode) {}

end AqlGateway.Translate
