import AqlGateway.Executor.Session

/-!
# Guarded operations

Every operation on a relational backend goes through here. A statement is checked, rendered with
placeholders and turned into SQL before its values are bound, and a table is dropped only after
the confirmation gate.

* `Executor` — a backend and the way in which unknown text is handled;
* `Executor.createTable`, `insert`, `select`, `update`, `delete`, `listTables`, `count`;
* `DropRequest`, `Executor.dropTable` — the guarded drop.
-/

namespace AqlGateway

open Aql

/-- A backend together with the mode in which its statements are translated. -/
structure Executor (σ : Type) where
  backend : Backend σ
  mode : Mode := .strict

/-- What someone must say to drop a table. -/
structure DropRequest where
  table : String
  confirmation : String
  justification : String
  requestedBy : String
  deriving DecidableEq, Repr

def DropRequest.expectedConfirmation (request : DropRequest) : String :=
  Kind.dropTable.confirmationToken request.table

/-- The metadata that a request lacks, if any. -/
def DropRequest.missing? (request : DropRequest) : Option String :=
  if Text.isAllBlank request.justification then some "justification"
  else if Text.isAllBlank request.requestedBy then some "requester"
  else none

namespace Executor

variable {σ : Type} (executor : Executor σ)

/-- The SQL and parameters of a statement, or the error that keeps it from the backend. -/
def prepareFor (statement : Statement) : SessionM σ BoundQuery :=
  match prepare executor.mode statement with
  | .ok q => pure q
  | .error e => throw e

def execute (statement : Statement) : SessionM σ Nat := do
  let q ← executor.prepareFor statement
  Session.call executor.backend.execute q

def query (statement : Statement) : SessionM σ Cursor := do
  let q ← executor.prepareFor statement
  Session.call executor.backend.query q

/-- Creates a table; the column definitions are passed on as written. -/
def createTable (table columns : String) : SessionM σ Unit := do
  let _ ← executor.execute (.createTable table columns)

def insert (table : String) (columns : List String) (values : List Value) : SessionM σ Nat :=
  executor.execute (.insert table columns values)

def select (table columns : String) (filter : Option Predicate) : SessionM σ Cursor :=
  executor.query (.select table columns filter)

def update (table : String) (assignments : List Assignment) (filter : Option Predicate) :
    SessionM σ Nat :=
  executor.execute (.update table assignments filter)

def delete (table : String) (filter : Option Predicate) : SessionM σ Nat :=
  executor.execute (.delete table filter)

def listTables : SessionM σ Cursor := executor.query .listTables

/-- The number that a count query returned. -/
def countOf (table : String) (row : Option Row) : Except Error Int64 :=
  match (row.bind Row.first?).bind Value.asInteger? with
  | some n => .ok n
  | none => .error (.backend ("COUNT on '" ++ table ++ "' returned no integer"))

def count (table : String) (filter : Option Predicate) : SessionM σ Int64 := do
  let q ← executor.prepareFor (.count table filter)
  let row ← Session.call executor.backend.queryRow q
  match countOf table row with
  | .ok n => pure n
  | .error e => throw e

/-! ### The drop gate -/

/-- The audit event of a drop without the right token. -/
def unconfirmed (request : DropRequest) : AuditEvent :=
  ⟨.error, "security violation: BAKAR LAHAN attempted without confirmation",
    [("table", request.table), ("requested_by", request.requestedBy)]⟩

/-- The audit event of a drop that is refused for something else. -/
def blocked (request : DropRequest) (field text : String) : AuditEvent :=
  ⟨.error, "BAKAR LAHAN blocked",
    [("table", request.table), ("requested_by", request.requestedBy), (field, text)]⟩

/-- The audit event in front of a drop. -/
def initiated (request : DropRequest) (now : String) : AuditEvent :=
  ⟨.warn, "BAKAR LAHAN initiated",
    [("table", request.table), ("justification", request.justification),
      ("requested_by", request.requestedBy), ("timestamp", now)]⟩

/-- The audit event behind a drop that was carried out. -/
def succeeded (request : DropRequest) : AuditEvent :=
  ⟨.info, "BAKAR LAHAN succeeded",
    [("table", request.table), ("requested_by", request.requestedBy)]⟩

/-- The audit event behind a drop that the backend failed to carry out. -/
def failed (request : DropRequest) (e : Error) : AuditEvent :=
  ⟨.error, "BAKAR LAHAN failed", [("table", request.table), ("error", e.message)]⟩

/-- Drops a table after the gate: the token must be the expected one, and justification and
requester must not be blank. The drop itself stands between an event that announces it and one
that tells its outcome. -/
def dropTable (request : DropRequest) (now : String) : SessionM σ Unit := do
  if request.confirmation ≠ request.expectedConfirmation then
    Session.audit (unconfirmed request)
    throw (.confirmationMismatch request.table)
  else match request.missing? with
    | some field =>
      Session.audit (blocked request "missing" field)
      throw (.missingMetadata field)
    | none => match prepare executor.mode (.dropTable request.table) with
      | .error e =>
        Session.audit (blocked request "error" e.message)
        throw e
      | .ok q =>
        Session.audit (initiated request now)
        match ← Session.attempt (Session.call executor.backend.execute q) with
        | .ok _ => Session.audit (succeeded request)
        | .error e =>
          Session.audit (failed request e)
          throw (.dropFailed request.table e)

end Executor

end AqlGateway
