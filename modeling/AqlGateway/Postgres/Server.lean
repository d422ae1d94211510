import AqlGateway.Executor.Session
import AqlGateway.Postgres.Column
import AqlGateway.Postgres.Parameter

/-!
# The database server

What a server does with the statements that reach it is a list of replies, one for each. A reply
holds the rows, and then perhaps an error.

* `Reply` — what the server sends for a statement; `Reply.items` — what a reader of it gets;
* `Server` — the replies to come, and what has reached the server;
* `Server.backend` — the calls of the database, made to such a server.
-/

namespace AqlGateway.Postgres

open Aql

/-- When a server refuses a statement. -/
inductive Stage
  /-- Before its parameters are bound. -/
  | preparing
  /-- While it runs, behind the rows that it had by then. -/
  | running
  deriving DecidableEq, Repr

structure Refusal where
  stage : Stage
  code : String
  message : String
  deriving DecidableEq, Repr

def Refusal.error (refusal : Refusal) : Error :=
  .database (.refused refusal.code refusal.message)

/-- What a server sends for a statement. -/
structure Reply where
  columns : List Column := []
  rows : List (List Datum) := []
  /-- The tag that says what was done; by default how many rows were selected. -/
  tag : Option String := none
  refusal : Option Refusal := none
  deriving DecidableEq, Repr

namespace Reply

def tagText (reply : Reply) : String :=
  reply.tag.getD ("SELECT " ++ toString reply.rows.length)

/-- The number at the beginning of a word, if it fits 64 bits. -/
def leadingNumber? (word : List Char) : Option Nat :=
  let digits := (match word with
    | '+' :: rest => rest
    | word => word).takeWhile Char.isDigit
  let n := Binary64.digitsValue 0 digits
  if digits.isEmpty ∨ UInt64.size ≤ n then none else some n

/-- The number that ends a tag, zero if there is none. -/
def affected (reply : Reply) : Nat :=
  match (Text.splitOn ' ' reply.tagText.toList).reverse with
  | last :: _ :: _ => (leadingNumber? last).getD 0
  | _ => 0

/-- What a reader gets: the rows, and the error behind them if there is one. -/
def items (reply : Reply) : List Item :=
  match reply.refusal with
  | none => reply.rows.map (decodeRow reply.columns)
  | some refusal => match refusal.stage with
    | .preparing => [.error refusal.error]
    | .running => reply.rows.map (decodeRow reply.columns) ++ [.error refusal.error]

end Reply

/-- The items up to and with the first error. -/
def untilFailure : List Item → List Item
  | [] => []
  | .ok row :: rest => .ok row :: untilFailure rest
  | .error e :: _ => [.error e]

/-! ### The server -/

/-- A statement that reached the server. -/
structure Received where
  sql : String
  /-- The parameters, or none when the statement was refused before they were bound. -/
  parameters : Option (List Parameter)
  deriving DecidableEq, Repr

/-- A server: the replies to come, and what has reached it. -/
structure Server where
  replies : List Reply := []
  log : List Received := []

namespace Server

def push (reply : Reply) (server : Server) : Server :=
  { server with replies := server.replies ++ [reply] }

/-- What is entered into the log for a statement. -/
def received (q : BoundQuery) (reply : Reply) : Received :=
  match reply.refusal with
  | some ⟨.preparing, _, _⟩ => ⟨q.sql, none⟩
  | _ => ⟨q.sql, some (q.params.map Parameter.ofValue)⟩

/-- The reply to a statement; without one left the statement has neither columns nor rows. -/
def answer (q : BoundQuery) : StateM Server Reply := do
  let server ← get
  let reply := server.replies.head?.getD {}
  set (⟨server.replies.tail, server.log ++ [received q reply]⟩ : Server)
  pure reply

def execute (q : BoundQuery) : StateM Server (Except Error Nat) := do
  let reply ← answer q
  match reply.refusal with
  | some refusal => pure (.error refusal.error)
  | none => pure (.ok reply.affected)

/-- The number of rows that may wait between the reader of a reply and its cursor. -/
def bufferSize : Nat := 64

/-- Runs a statement with rows. They are read up to the first error, and an error that comes before
the first row is the error of the query itself. -/
def query (q : BoundQuery) : StateM Server (Except Error Cursor) := do
  let reply ← answer q
  let items := untilFailure reply.items
  pure (Cursor.ofChannel (Channel.ofItems bufferSize items)).primed

/-- Runs a statement for its first row. The reply is read to its end, so that an error of the
server counts wherever it stands. -/
def queryRow (q : BoundQuery) : StateM Server (Except Error (Option Row)) := do
  let reply ← answer q
  match reply.refusal with
  | some refusal => pure (.error refusal.error)
  | none => match reply.rows with
    | [] => pure (.ok none)
    | data :: _ => pure ((decodeRow reply.columns data).map some)

def backend : Backend Server where
  execute := execute
  query := query
  queryRow := queryRow

end Server

end AqlGateway.Postgres
