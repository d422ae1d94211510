import AqlGateway.Error
import AqlGateway.Text.Blank

/-!
# Request lines

A statement is sent as one line: trimmed, its line breaks replaced by blanks, and a line feed
behind it.

* `requestBody` — the line without its line feed;
* `encodeRequest` — the line, or the error that a blank statement is.
-/

namespace AqlGateway.Remote

open Text

/-- A character of a request line. -/
def flatten (c : Char) : Char := if c = '\r' ∨ c = '\n' then ' ' else c

/-- The characters of a request line in front of its line feed. -/
def requestBody (statement : List Char) : List Char := (trim statement).map flatten

/-- The request line of a statement. -/
def encodeRequest (statement : String) : Except Error String :=
  let body := requestBody statement.toList
  if body.isEmpty then .error .emptyStatement else .ok (String.ofList (body ++ ['\n']))

end AqlGateway.Remote
