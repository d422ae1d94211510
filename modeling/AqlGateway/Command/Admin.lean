import AqlGateway.Command.Console
import AqlGateway.Command.Options
import AqlGateway.Executor.Operations
import AqlGateway.Settings.Basic
import AqlGateway.Table

/-!
# Administration on the command line

Lists tables, counts the rows of one, or drops one through the confirmation gate.

* `Admin.Arguments.ofList?` — what the arguments ask for;
* `Admin.perform` — carries out a task; the lines to show;
* `Admin.run` — the whole program.
-/

namespace AqlGateway.Admin

/-! ### Arguments -/

inductive Task
  | tables
  | count (table : String)
  | dropTable (request : DropRequest)
  deriving DecidableEq, Repr

structure Arguments where
  databaseUrl : Option String
  task : Task
  deriving DecidableEq, Repr

def Arguments.ofList? (arguments : List String) : Option Arguments :=
  let options := Options.ofList [('c', "config")] arguments
  let url := options.value? "database-url"
  match options.others with
  | ["tables"] => some ⟨url, .tables⟩
  | ["count", table] => some ⟨url, .count table⟩
  | ["drop-table", table] => do
    let confirmation ← options.value? "confirm"
    let justification ← options.value? "reason"
    let requestedBy ← options.value? "requested-by"
    pure ⟨url, .dropTable ⟨table, confirmation, justification, requestedBy⟩⟩
  | _ => none

/-! ### Tasks -/

variable {σ : Type}

/-- The lines that show the rows of a list of tables. -/
def tableLines (rows : List Row) : List String :=
  [(Table.mk ["tablename"] (rows.map fun row => row.values.map Value.shown)).render,
    Table.rowCount rows.length]

/-- Carries out a task; the lines to show. -/
def perform (executor : Executor σ) (now : String) : Task → SessionM σ (List String)
  | .tables => do
    let cursor ← executor.listTables
    match cursor.collect with
    | .ok rows => pure (tableLines rows)
    | .error e => throw e
  | .count table => do
    let n ← executor.count table none
    pure [(Value.integer n).shown]
  | .dropTable request => do
    executor.dropTable request now
    pure ["Dropped table " ++ request.table]

/-! ### The program -/

def noDatabase : String := "no database url: pass --database-url or set database.url"

/-- Runs the program with the settings at hand, on a database with a state; `connect` opens it. -/
def run (arguments : Arguments) (settings : Except Error Settings)
    (connect : String → Except Error Unit) (backend : Backend σ) (now : String) (state : σ) :
    Console × σ :=
  let console : Console := {}
  match settings with
  | .error e => (console.fail Settings.unsettled (e.message :: e.sources), state)
  | .ok settings => match arguments.databaseUrl.or settings.database.url with
    | none => (console.fail noDatabase [], state)
    | some url => match connect url with
      | .error e => (console.failWith e, state)
      | .ok () =>
        let executor : Executor σ := ⟨backend, settings.database.mode⟩
        let (outcome, session) := (perform executor now arguments.task).run.run ⟨state, []⟩
        match outcome with
        | .ok lines => (lines.foldl (fun console line => console.say line) console, session.state)
        | .error e => (console.failWith e, session.state)

end AqlGateway.Admin
