import AqlGateway.Error
import AqlGateway.Text.Blank

/-!
# The state of a tree

* `Status.name` — the word for a status;
* `Status.ofWord?` — the status of exactly such a word;
* `Status.read` — the status of a word in any case, with blanks around it.
-/

namespace AqlGateway

inductive Status
  | healthy
  | sick
  | dead
  | fertilized
  | monitored
  deriving DecidableEq, Repr

namespace Status

def all : List Status := [healthy, sick, dead, fertilized, monitored]

def name : Status → String
  | healthy => "SEHAT"
  | sick => "SAKIT"
  | dead => "MATI"
  | fertilized => "DIPUPUK"
  | monitored => "DIPANTAU"

def ofWord? (word : String) : Option Status := all.find? fun status => status.name == word

/-- The upper-case form of a character where that form is an ASCII letter: the ASCII letters, the
dotless `ı` and the long `ſ`. Other characters have no place in a status and stay as they are. -/
def upper (c : Char) : Char :=
  if c = 'ı' then 'I' else if c = 'ſ' then 'S' else c.toUpper

/-- The status of a text in any case, with blanks around it. -/
def read (text : String) : Except Error Status :=
  match ofWord? (String.ofList ((Text.trim text.toList).map upper)) with
  | some status => .ok status
  | none => .error (.invalidStatus text)

/-- The status of a field; a text that is no status counts as none. -/
def ofField? (text : String) : Option Status :=
  if text = "" then none else (read text).toOption

end Status

end AqlGateway
