import AqlGateway.Command.Admin
import AqlGateway.Command.Translate
import AqlGateway.Postgres.Address
import AqlGateway.Postgres.Server
import AqlGateway.Remote.Offline
import AqlGateway.Settings.Load
import AqlGateway.Shell.Launch

/-!
# The command line

The first argument chooses the program: `shell`, `translate` or `admin`. Settings come from the
environment. There is no network here: dials fail at once.
-/

namespace AqlGateway

/-- The bytes of an input. -/
partial def readAll (input : IO.FS.Stream) (start : ByteArray) : IO ByteArray := do
  let bytes ← input.read 65536
  if bytes.isEmpty then pure start else readAll input (start ++ bytes)

def environment : IO (List (String × String)) :=
  Settings.variableNames.filterMapM fun name => do
    let text ← IO.getEnv name
    pure (text.map fun text => (name, text))

/-- Opens a database, which is never reached. -/
def unreachableDatabase (url : String) : Except Error Unit :=
  Postgres.connect url (.unreachable (Remote.Offline.unreachable []))

/-- The outcome of a program for the arguments behind its name, the settings, the bytes of its input
and the time. -/
def program (name : String) (arguments : List String) (settings : Except Error Settings)
    (input : List UInt8) (now : String) : Console :=
  let usage : Console := { errors := "usage: shell | translate | admin\n", code := 2 }
  if name = "shell" then Shell.launch arguments settings Remote.Offline.link input
  else if name = "translate" then
    match Text.Utf8.decode input with
    | .ok text => Translate.run arguments text
    | .error _ => Console.fail Shell.Session.notText [] {}
  else if name = "admin" then
    match Admin.Arguments.ofList? arguments with
    | some arguments =>
      (Admin.run arguments settings unreachableDatabase Postgres.Server.backend now {}).1
    | none => usage
  else usage

end AqlGateway

/-- Runs the program that the first argument names. -/
def main (arguments : List String) : IO UInt32 := do
  let (name, rest) := match arguments with
    | [] => ("shell", [])
    | name :: rest => (name, rest)
  let needsInput := name == "shell" || name == "translate"
  let input ← if needsInput then AqlGateway.readAll (← IO.getStdin) .empty else pure .empty
  let settings := AqlGateway.Settings.load .absent (← AqlGateway.environment)
  let console := AqlGateway.program name rest settings input.toList ""
  (← IO.getStdout).putStr console.output
  (← IO.getStderr).putStr console.errors
  pure (UInt32.ofNat console.code)
