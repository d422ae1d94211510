import AqlGateway.Error
import AqlGateway.Json.Fields

/-!
# Response envelopes

The engine answers each request with one line that holds a JSON envelope.

* `Envelope` — success or failure, the payload, the text of a failure and a time stamp;
* `Envelope.result` — the payload of a success, the engine's error of a failure;
* `Envelope.json` — the JSON of an envelope;
* `decodeResponse` — the envelope of a line.
-/

namespace AqlGateway.Remote

structure Envelope where
  success : Bool
  data : Json := .null
  error : Option String := none
  timestamp : String := ""
  deriving Repr, Inhabited

namespace Envelope

def ok (data : Json) (timestamp : String) : Envelope := ⟨true, data, none, timestamp⟩

def failed (text : String) (timestamp : String) : Envelope := ⟨false, .null, some text, timestamp⟩

/-- The payload of a success; the engine's error otherwise. -/
def result (e : Envelope) : Except Error Json :=
  if e.success then .ok e.data else .error (.engine (e.error.getD ""))

/-- The JSON of an envelope; the text of a failure is left out when there is none. -/
def json (e : Envelope) : Json :=
  .object ([("success", .bool e.success), ("data", e.data)]
    ++ (e.error.map fun text => ("error", Json.string text)).toList
    ++ [("timestamp", .string e.timestamp)])

def fieldNames : List String := ["success", "data", "error", "timestamp"]

/-- A field that takes a default when it is missing. -/
def fieldOr {α : Type} (default : α) (read? : JsonText → Option α) : Option JsonText → Option α
  | none => some default
  | some tree => read? tree

def ofFields? : List (Option JsonText) → Option Envelope
  | [success, data, error, timestamp] => do
    let success ← success.bind JsonText.bool?
    let data ← fieldOr .null (JsonText.meaning? (Json.depthLimit - 1)) data
    let error ← fieldOr none (JsonText.optional? JsonText.string?) error
    let timestamp ← fieldOr "" JsonText.string? timestamp
    pure ⟨success, data, error, timestamp⟩
  | _ => none

def ofJsonText? (s : List Char) : Option Envelope := do
  let (_, fields) ← (← JsonText.ofChars? s).fields? fieldNames
  ofFields? fields

end Envelope

/-- A text without the carriage returns at its end. -/
def withoutReturns (s : List Char) : List Char := (s.reverse.dropWhile (· == '\r')).reverse

/-- The envelope of a response line, which must end in a line feed. -/
def decodeResponse (line : String) : Except Error Envelope :=
  match line.toList.reverse with
  | '\n' :: body =>
    match Envelope.ofJsonText? (withoutReturns body.reverse) with
    | some envelope => .ok envelope
    | none => .error .parse
  | _ => .error (.protocol "response line is not newline-terminated")

end AqlGateway.Remote
