import AqlGateway.Executor.Session

/-!
# A backend that answers from a queue

Every statement succeeds, unless a failure was ordered for the next call. A query takes the next
queued result and has no rows when none is queued.

* `Recording` — the state: queued results, the count of changed rows, and the ordered failure;
* `Recording.backend` — the calls.
-/

namespace AqlGateway

open Aql

/-- The answers that a backend has ready. -/
structure Recording where
  /-- What the next queries answer. -/
  results : List (Except Error Cursor) := []
  /-- The number of rows that every statement without rows reports. -/
  affected : Nat := 0
  /-- The failure of the next call. -/
  failure : Option String := none

namespace Recording

/-- The failure that was ordered for this call, which is then used up. -/
def takeFailure : StateM Recording (Option String) := do
  let state ← get
  set { state with failure := none }
  pure state.failure

def execute (_ : BoundQuery) : StateM Recording (Except Error Nat) := do
  match ← takeFailure with
  | some text => pure (.error (.backend text))
  | none => pure (.ok (← get).affected)

def query (_ : BoundQuery) : StateM Recording (Except Error Cursor) := do
  match ← takeFailure with
  | some text => pure (.error (.backend text))
  | none =>
    let state ← get
    match state.results with
    | [] => pure (.ok (Cursor.ofRows []))
    | result :: rest =>
      set { state with results := rest }
      pure result

/-- The calls of a backend that answers from a queue. -/
def backend : Backend Recording where
  execute := execute
  query := query
  queryRow := Backend.firstOf query

/-- The answer of a query with items of a result: rows in memory, or a channel, looked into ahead
of time if `primed`. -/
def answer (buffer : Option Nat) (primed : Bool) (items : List Item) : Except Error Cursor :=
  let cursor := match buffer with
    | none => Cursor.ofRows (items.filterMap Except.toOption)
    | some n => Cursor.ofChannel (Channel.ofItems n items)
  if primed then cursor.primed else .ok cursor

def push (result : Except Error Cursor) (state : Recording) : Recording :=
  { state with results := state.results ++ [result] }

end Recording

end AqlGateway
