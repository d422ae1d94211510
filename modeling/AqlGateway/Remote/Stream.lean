import AqlGateway.Remote.Envelope
import AqlGateway.Text.Utf8

/-!
# Byte streams to an engine

What an engine does on a connection is a list of replies, one for each request line. A stream holds
the replies to come and what has been sent but not read yet. Times are milliseconds.

* `Reply` — what the engine does with a request;
* `Stream.write` — sends a request line, which the engine then answers;
* `readLine?` — the line that a reader gets, the time at which it is complete, and what is left;
* `decodeLine` — the envelope of the bytes of a line.
-/

namespace AqlGateway.Remote

/-- What an engine does with a request. -/
inductive Reply
  /-- It sends bytes after a while, and hangs up behind them unless they end a line. -/
  | bytes (delay : Nat) (data : List UInt8)
  /-- It sends pieces, each after a while of its own, and then goes on waiting for requests, or hangs
  up after a while. -/
  | pieces (parts : List (Nat × List UInt8)) (ending : Option Nat)
  | hangup
  /-- It never answers. -/
  | silent
  /-- Reading the answer fails. -/
  | readError (text : String)
  /-- Writing the next request fails. -/
  | writeError (text : String)
  deriving DecidableEq, Repr

/-- What reaches the reader of a stream, and when. -/
inductive Arrival
  | bytes (time : Nat) (data : List UInt8)
  | ending (time : Nat)
  | failure (time : Nat) (text : String)
  deriving DecidableEq, Repr

/-- A connection as its client sees it: the replies to come and what was sent but not read. -/
structure Stream where
  replies : List Reply
  arrivals : List Arrival
  deriving DecidableEq, Repr

def lineFeed : UInt8 := 10

namespace Reply

def timestamp : String := "2025-01-01T00:00:00Z"

def line (members : List (String × Json)) : List UInt8 :=
  Text.Utf8.encode ((Json.ofMembers (("timestamp", .string timestamp) :: members)).compact ++ "\n")

/-- The reply that a request succeeded with a payload. -/
def data (delay : Nat) (payload : Json) : Reply :=
  .bytes delay (line [("data", payload), ("success", .bool true)])

/-- The reply that a request failed. -/
def fail (delay : Nat) (text : String) : Reply :=
  .bytes delay (line [("error", .string text), ("success", .bool false)])

/-- What reaches the reader because of a reply to a request sent at `now`. -/
def arrivals (now : Nat) : Reply → List Arrival
  | .bytes delay data =>
    if data.getLast? = some lineFeed then [.bytes (now + delay) data]
    else [.bytes (now + delay) data, .ending (now + delay)]
  | .pieces parts ending =>
    parts.map (fun (delay, data) => .bytes (now + delay) data)
      ++ (ending.map fun delay => .ending (now + delay)).toList
  | .hangup => [.ending now]
  | .silent => []
  | .readError text => [.failure now text]
  | .writeError _ => []

end Reply

namespace Stream

/-- A connection on which nothing was sent yet. -/
def fresh (replies : List Reply) : Stream := ⟨replies, []⟩

/-- Sends a request line at `now`. Without a reply left the engine hangs up. -/
def write (stream : Stream) (now : Nat) : Except String Stream :=
  match stream.replies with
  | .writeError text :: _ => .error text
  | reply :: rest => .ok ⟨rest, stream.arrivals ++ reply.arrivals now⟩
  | [] => .ok ⟨[], stream.arrivals ++ Reply.hangup.arrivals now⟩

end Stream

/-! ### Reading lines -/

inductive LineRead
  /-- The bytes up to and with a line feed, or up to the end of the stream. -/
  | line (data : List UInt8)
  | failure (text : String)
  deriving DecidableEq, Repr

/-- The bytes up to and with the first line feed, if there is one, and the bytes behind it. -/
def cutLine? : List UInt8 → Option (List UInt8 × List UInt8)
  | [] => none
  | b :: rest =>
    if b = lineFeed then some ([b], rest)
    else (cutLine? rest).map fun (line, behind) => (b :: line, behind)

/-- The line that a reader gets who has read `start` already, the time at which the reader has it,
and the arrivals left; none when the line is never complete. -/
def readLine? (start : List UInt8) (time : Nat) :
    List Arrival → Option (Nat × LineRead × List Arrival)
  | [] => none
  | .bytes t data :: rest =>
    match cutLine? data with
    | some (line, behind) =>
      let left := if behind.isEmpty then rest else .bytes t behind :: rest
      some (max time t, .line (start ++ line), left)
    | none => readLine? (start ++ data) (max time t) rest
  | .ending t :: rest => some (max time t, .line start, .ending t :: rest)
  | .failure t text :: rest => some (max time t, .failure text, rest)

/-- The time at which a reader who begins at `now` and may wait until `deadline` goes on. -/
def Stream.readTime (stream : Stream) (deadline now : Nat) : Nat :=
  match readLine? [] now stream.arrivals with
  | some (time, _, _) => min time deadline
  | none => deadline

/-- The envelope of the bytes of a line; no bytes at all mean that the engine hung up. -/
def decodeLine (data : List UInt8) : Except Error Envelope :=
  if data.isEmpty then .error .connectionClosed
  else match Text.Utf8.decode data with
    | .ok line => decodeResponse line
    | .error fault => .error (.io fault.message)

def LineRead.envelope : LineRead → Except Error Envelope
  | .line data => decodeLine data
  | .failure text => .error (.io text)

end AqlGateway.Remote
