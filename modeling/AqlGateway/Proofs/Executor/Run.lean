import AqlGateway.Executor.Recording
import AqlGateway.Proofs.Executor.DropGate

/-!
# Runs of operations

* `Operation`, `Executor.perform` — an operation with its arguments, and how it is carried out;
* `Executor.runAll`, `Executor.trace` — a run of operations, and what each of them adds to the
  history;
* `history_perform` — a plain operation adds the call of its prepared statement or nothing;
* `history_runAll` — the history of a run is put together from what its operations add;
* `calls_of_run` — whose calls drop a table.
-/

namespace AqlGateway

open Aql

/-! ### Operations -/

inductive Operation
  | createTable (table columns : String)
  | insert (table : String) (columns : List String) (values : List Value)
  | select (table columns : String) (filter : Option Predicate)
  | update (table : String) (assignments : List Assignment) (filter : Option Predicate)
  | delete (table : String) (filter : Option Predicate)
  | listTables
  | count (table : String) (filter : Option Predicate)
  | dropTable (request : DropRequest) (now : String)
  deriving DecidableEq

namespace Operation

def statement : Operation → Statement
  | createTable table columns => .createTable table columns
  | insert table columns values => .insert table columns values
  | select table columns filter => .select table columns filter
  | update table assignments filter => .update table assignments filter
  | delete table filter => .delete table filter
  | listTables => .listTables
  | count table filter => .count table filter
  | dropTable request _ => .dropTable request.table

def kind (operation : Operation) : Kind := operation.statement.kind

end Operation

namespace Executor

variable {σ : Type} (executor : Executor σ)

/-- Carries out an operation; its rows and numbers are not kept. -/
def perform : Operation → SessionM σ Unit
  | .createTable table columns => executor.createTable table columns
  | .insert table columns values => do
    let _ ← executor.insert table columns values
  | .select table columns filter => do
    let _ ← executor.select table columns filter
  | .update table assignments filter => do
    let _ ← executor.update table assignments filter
  | .delete table filter => do
    let _ ← executor.delete table filter
  | .listTables => do
    let _ ← executor.listTables
  | .count table filter => do
    let _ ← executor.count table filter
  | .dropTable request now => executor.dropTable request now

/-- The session behind an operation; an error does not end the session. -/
def step (session : Session σ) (operation : Operation) : Session σ :=
  (session.runIn (executor.perform operation)).2

/-- The session behind a run of operations. -/
def runAll (session : Session σ) (operations : List Operation) : Session σ :=
  operations.foldl executor.step session

/-- The operations of a run, each with the events that it adds to the history. -/
def trace (session : Session σ) : List Operation → List (Operation × List Event)
  | [] => []
  | operation :: rest =>
    (operation, (executor.step session operation).history.drop session.history.length)
      :: trace (executor.step session operation) rest

/-- The event of a plain operation: the call of its statement, if the statement is prepared. -/
def callOf (statement : Statement) : List Event :=
  match prepare executor.mode statement with
  | .ok q => [.call q]
  | .error _ => []

/-! ### Plain operations -/

variable {α : Type} {session : Session σ} {statement : Statement}

/-- A statement is prepared and called once, or it is refused before any call. -/
theorem history_prepared {action : BoundQuery → SessionM σ α}
    (haction : ∀ q, (session.runIn (action q)).2.history = session.history ++ [.call q]) :
    (session.runIn (executor.prepareFor statement >>= action)).2.history
      = session.history ++ executor.callOf statement := by
  rw [callOf, prepareFor]
  cases prepare executor.mode statement with
  | ok q => exact haction q
  | error e => exact (List.append_nil _).symm

/-- A statement that cannot be prepared leaves no call in the history. -/
theorem history_execute :
    (session.runIn (executor.execute statement)).2.history
      = session.history ++ executor.callOf statement :=
  executor.history_prepared fun q => session.history_call _ q

theorem history_query :
    (session.runIn (executor.query statement)).2.history
      = session.history ++ executor.callOf statement :=
  executor.history_prepared fun q => session.history_call _ q

/-- The count is read off the answer behind the call. -/
theorem history_count {table : String} {filter : Option Predicate} :
    (session.runIn (executor.count table filter)).2.history
      = session.history ++ executor.callOf (.count table filter) := by
  refine executor.history_prepared fun q => ?_
  rw [Session.snd_runIn_bind, Session.history_call]
  intro row behind
  cases countOf table row <;> rfl

/-- A plain operation adds the call of its statement, or nothing. -/
theorem history_perform {operation : Operation} (h : operation.kind ≠ .dropTable) :
    (executor.step session operation).history
      = session.history ++ executor.callOf operation.statement := by
  have discard {β : Type} (action : SessionM σ β) :
      (session.runIn (do let _ ← action)).2.history = (session.runIn action).2.history :=
    congrArg Session.history (session.snd_runIn_discard action)
  cases operation with
  | createTable table columns => exact (discard _).trans executor.history_execute
  | insert table columns values => exact (discard _).trans executor.history_execute
  | select table columns filter => exact (discard _).trans executor.history_query
  | update table assignments filter => exact (discard _).trans executor.history_execute
  | delete table filter => exact (discard _).trans executor.history_execute
  | listTables => exact (discard _).trans executor.history_query
  | count table filter => exact (discard _).trans executor.history_count
  | dropTable request now => exact absurd rfl h

/-! ### The history of a run -/

/-- What an operation may add to the history. -/
inductive Adds : Operation → List Event → Prop
  | plain {operation : Operation} :
      operation.kind ≠ .dropTable → Adds operation (executor.callOf operation.statement)
  | drop {request : DropRequest} {now : String} {state behind : σ} {events : List Event}
      {result : Except Error Unit} :
      DropRun executor.backend request now state events result behind →
      Adds (.dropTable request now) events

/-- Each operation adds events of its own kind to the history, and nothing else. -/
theorem adds_step (session : Session σ) (operation : Operation) :
    ∃ events, (executor.step session operation).history = session.history ++ events ∧
      executor.Adds operation events := by
  by_cases hkind : operation.kind = .dropTable
  · cases operation with
    | dropTable request now =>
      obtain ⟨events, result, behind, hrun, hdrop⟩ :=
        dropRun_of_dropTable executor request now session
      refine ⟨events, ?_, .drop hdrop⟩
      show (session.runIn (executor.dropTable request now)).2.history = _
      rw [hrun]
    | _ => exact absurd hkind (by simp [Operation.kind, Operation.statement, Statement.kind])
  · exact ⟨_, executor.history_perform hkind, .plain hkind⟩

/-- The history of a run is what was there before, and what each operation added to it. -/
theorem history_runAll (session : Session σ) (operations : List Operation) :
    (executor.runAll session operations).history
      = session.history ++ (executor.trace session operations).flatMap Prod.snd := by
  induction operations generalizing session with
  | nil => exact (List.append_nil _).symm
  | cons operation rest ih =>
    obtain ⟨events, hhistory, -⟩ := executor.adds_step session operation
    rw [trace, List.flatMap_cons, hhistory, List.drop_left, ← List.append_assoc, ← hhistory]
    exact ih (executor.step session operation)

theorem map_fst_trace (session : Session σ) (operations : List Operation) :
    (executor.trace session operations).map Prod.fst = operations := by
  induction operations generalizing session with
  | nil => rfl
  | cons operation rest ih => rw [trace, List.map_cons, ih]

/-- So does every operation of a run. -/
theorem adds_of_mem_trace {operations : List Operation} {entry : Operation × List Event}
    (h : entry ∈ executor.trace session operations) : executor.Adds entry.1 entry.2 := by
  induction operations generalizing session with
  | nil => exact absurd h (by simp [trace])
  | cons operation rest ih =>
    rw [trace, List.mem_cons] at h
    rcases h with rfl | h
    · obtain ⟨events, hhistory, hadds⟩ := executor.adds_step session operation
      rw [hhistory, List.drop_left]
      exact hadds
    · exact ih h

end Executor

/-! ### Whose calls drop a table -/

/-- Neither the SQL nor the text of a statement of another kind begins like a drop. -/
theorem Aql.Kind.eq_dropTable {kind : Kind} {s : List Char}
    (hown : kind.verb.toList ++ [' '] <+: s ∨ kind.keyword.toList <+: s)
    (hdrop : "DROP TABLE".toList <+: s ∨ "BAKAR LAHAN".toList <+: s) : kind = .dropTable := by
  have clash {a b : List Char} (ha : a <+: s) (hb : b <+: s) : a <+: b ∨ b <+: a :=
    List.prefix_or_prefix_of_prefix ha hb
  rcases hown with hown | hown <;> rcases hdrop with hdrop | hdrop <;>
    have h := clash hown hdrop <;> revert h <;> cases kind <;> decide

namespace Executor

variable {σ : Type} (executor : Executor σ) {operation : Operation} {events : List Event}
  {q : BoundQuery}

/-- A call of an operation has the operation's own verb, or is its own text. -/
theorem Adds.sql (h : executor.Adds operation events) (hcall : .call q ∈ events) :
    operation.kind.verb.toList ++ [' '] <+: q.sql.toList ∨
      executor.mode = .passthrough ∧ q.sql = Text.trimText operation.statement.template.1 ∧
        operation.kind.keyword.toList <+: q.sql.toList := by
  cases h with
  | plain hkind =>
    rw [callOf] at hcall
    cases hprepare : prepare executor.mode operation.statement with
    | error e => rw [hprepare] at hcall; exact absurd hcall (by simp)
    | ok q' =>
      rw [hprepare] at hcall
      obtain rfl : q = q' := by simpa using hcall
      exact sql_of_prepare hprepare
  | @drop request now state behind events result hdrop =>
    have hverb : Kind.dropTable.verb.toList ++ [' '] = "DROP TABLE ".toList := by decide
    rw [(hdrop.of_call hcall).2, DropRequest.query, String.toList_append, ← hverb]
    exact .inl (List.prefix_append _ _)

/-- What begins like a drop is called by guarded drops only. -/
theorem Adds.request_of_drop (h : executor.Adds operation events) (hcall : .call q ∈ events)
    (hsql : "DROP TABLE".toList <+: q.sql.toList ∨ "BAKAR LAHAN".toList <+: q.sql.toList) :
    ∃ request now, operation = .dropTable request now ∧ Admitted request := by
  have hkind : operation.kind = .dropTable := by
    refine Kind.eq_dropTable ?_ hsql
    rcases h.sql executor hcall with hverb | ⟨-, -, hkeyword⟩
    · exact .inl hverb
    · exact .inr hkeyword
  cases h with
  | plain hother => exact absurd hkind hother
  | drop hdrop => exact ⟨_, _, rfl, (hdrop.of_call hcall).1⟩

/-- Every call of a run carries SQL with the verb of the operation that makes it, or, in passthrough
mode, the operation's own text. What begins like a drop is called by admitted drops only. -/
theorem calls_of_run (session : Session σ) (operations : List Operation) :
    (executor.trace session operations).map Prod.fst = operations ∧
      (executor.runAll session operations).history
        = session.history ++ (executor.trace session operations).flatMap Prod.snd ∧
      ∀ operation events, (operation, events) ∈ executor.trace session operations →
        ∀ q, .call q ∈ events →
          (operation.kind.verb.toList ++ [' '] <+: q.sql.toList ∨
            executor.mode = .passthrough ∧
              q.sql = Text.trimText operation.statement.template.1 ∧
              operation.kind.keyword.toList <+: q.sql.toList) ∧
          ("DROP TABLE".toList <+: q.sql.toList ∨ "BAKAR LAHAN".toList <+: q.sql.toList →
            ∃ request now, operation = .dropTable request now ∧ Admitted request) := by
  refine ⟨executor.map_fst_trace session operations, executor.history_runAll session operations, ?_⟩
  intro operation events hmem q hcall
  have hadds : executor.Adds operation events := executor.adds_of_mem_trace hmem
  exact ⟨hadds.sql executor hcall, hadds.request_of_drop executor hcall⟩

/-- A listing and a drop on a backend that answers every call. -/
theorem calls_of_run_listing_and_drop :
    let request : DropRequest := ⟨"trees", "CONFIRM_BAKAR_LAHAN_trees", "felled", "budi"⟩
    let run := (⟨Recording.backend, .strict⟩ : Executor Recording).trace ⟨{}, []⟩
      [.listTables, .dropTable request "noon"]
    (Operation.dropTable request "noon",
        [.audit (initiated request "noon"), .call request.query, .audit (succeeded request)]) ∈ run ∧
      Admitted request := by
  intro request run
  have hentry : (Operation.dropTable request "noon",
      [.audit (initiated request "noon"), .call request.query, .audit (succeeded request)]) ∈ run := by
    decide +kernel
  obtain ⟨_, _, heq, hadmitted⟩ :=
    ((calls_of_run ⟨Recording.backend, .strict⟩ ⟨{}, []⟩
      [.listTables, .dropTable request "noon"]).2.2 _ _ hentry request.query (by simp)).2
      (.inl (by decide +kernel))
  cases heq
  exact ⟨hentry, hadmitted⟩

end Executor

end AqlGateway
