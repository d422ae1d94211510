import AqlGateway.Settings.Basic
import AqlGateway.Settings.Toml.Reader

/-!
# Loading settings

Settings are read from a file, and those of the environment are put over them.

* `Settings.File` — a file of settings, or that there is none;
* `Settings.load` — the settings, or the error that they are not well formed.
-/

namespace AqlGateway.Settings

inductive File
  /-- No file was asked for. -/
  | absent
  /-- A file was asked for that is not there. -/
  | missing
  | text (s : String)
  deriving DecidableEq, Repr

/-- The entries of a file. A key at the top is a path if it reads as one. -/
def File.entry? : File → Option Entry
  | absent => some (.table [])
  | missing => none
  | text s => (Toml.read? s).map fun root =>
    root.members.foldl (fun root (key, value) => Environment.setKey key value root) (.table [])

/-- The settings of a file with those of an environment over them. -/
def load (file : File) (environment : List (String × String)) : Except Error Settings :=
  match file.entry?.bind fun root => ofEntry? (Environment.overlay environment root) with
  | some settings => .ok settings
  | none => .error .settings

end AqlGateway.Settings
