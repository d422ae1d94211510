import AqlGateway.Aql.Statement
import AqlGateway.Executor.Cursor

/-!
# Backends and sessions

* `Backend` — a relational database, as three calls that change its state;
* `AuditEvent` — an entry of the audit log;
* `Session` — the state of a backend and everything that was done with it, in order;
* `Session.call` — a call of the backend, which is entered into the history;
* `Session.audit` — enters an audit event.
-/

namespace AqlGateway

open Aql

/-- The calls of a relational database with states of type `σ`. -/
structure Backend (σ : Type) where
  /-- Runs a statement without rows; the number of rows that it changed. -/
  execute : BoundQuery → StateM σ (Except Error Nat)
  /-- Runs a statement; a cursor over its rows. -/
  query : BoundQuery → StateM σ (Except Error Cursor)
  /-- Runs a statement; its first row, if there is one. -/
  queryRow : BoundQuery → StateM σ (Except Error (Option Row))

/-- The first row of a cursor, or the error in its place. -/
def Cursor.first (cursor : Cursor) : Except Error (Option Row) :=
  match cursor.next.1 with
  | none => .ok none
  | some (.ok row) => .ok (some row)
  | some (.error e) => .error e

/-- The first row by way of a whole query. -/
def Backend.firstOf {σ : Type} (query : BoundQuery → StateM σ (Except Error Cursor))
    (q : BoundQuery) : StateM σ (Except Error (Option Row)) := do
  match ← query q with
  | .ok cursor => pure cursor.first
  | .error e => pure (.error e)

/-- How serious an audit event is. -/
inductive Level
  | info
  | warn
  | error
  deriving DecidableEq, Repr

def Level.name : Level → String
  | .info => "INFO"
  | .warn => "WARN"
  | .error => "ERROR"

structure AuditEvent where
  level : Level
  message : String
  fields : List (String × String)
  deriving DecidableEq, Repr

inductive Event
  | call (query : BoundQuery)
  | audit (event : AuditEvent)
  deriving DecidableEq, Repr

/-- The state of a backend and the history of a session with it. -/
structure Session (σ : Type) where
  state : σ
  history : List Event

/-- Something done in a session that may fail. -/
abbrev SessionM (σ α : Type) := ExceptT Error (StateM (Session σ)) α

namespace Session

variable {σ α : Type}

def record (event : Event) : SessionM σ Unit :=
  modify fun session => { session with history := session.history ++ [event] }

def audit (event : AuditEvent) : SessionM σ Unit := record (.audit event)

/-- Makes a call of the backend and enters it into the history. -/
def call (run : BoundQuery → StateM σ (Except Error α)) (q : BoundQuery) : SessionM σ α := do
  record (.call q)
  let session ← get
  let (result, state) := run q session.state
  set { session with state := state }
  match result with
  | .ok a => pure a
  | .error e => throw e

/-- The outcome of something done in a session, as a value. -/
def attempt (action : SessionM σ α) : SessionM σ (Except Error α) :=
  ExceptT.mk do
    let outcome ← action.run
    pure (.ok outcome)

def calls (history : List Event) : List BoundQuery :=
  history.filterMap fun
    | .call q => some q
    | .audit _ => none

def audits (history : List Event) : List AuditEvent :=
  history.filterMap fun
    | .call _ => none
    | .audit e => some e

end Session

end AqlGateway
