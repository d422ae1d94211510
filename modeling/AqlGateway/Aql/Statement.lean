import AqlGateway.Aql.Predicate
import AqlGateway.Aql.Translation

/-!
# Typed statements

* `Statement.validate` — checks the table and column names, and that an insert has as many values
  as columns;
* `Statement.text` — the statement's text with literals, as the remote engine takes it;
* `Statement.template` — the text with numbered placeholders, and the parameters;
* `prepare` — the SQL text and parameters for a relational backend.
-/

namespace AqlGateway.Aql

/-- A column and the value it is set to. -/
structure Assignment where
  column : String
  value : Value
  deriving DecidableEq, Repr

/-- A statement whose values are kept apart from its text. -/
inductive Statement
  | createTable (name columns : String)
  | insert (table : String) (columns : List String) (values : List Value)
  | select (table columns : String) (filter : Option Predicate)
  | update (table : String) (assignments : List Assignment) (filter : Option Predicate)
  | delete (table : String) (filter : Option Predicate)
  | dropTable (name : String)
  | listTables
  | count (table : String) (filter : Option Predicate)
  deriving DecidableEq, Repr

namespace Statement

def kind : Statement → Kind
  | createTable _ _ => .createTable
  | insert _ _ _ => .insert
  | select _ _ _ => .select
  | update _ _ _ => .update
  | delete _ _ => .delete
  | dropTable _ => .dropTable
  | listTables => .listTables
  | count _ _ => .count

def table? : Statement → Option String
  | createTable name _ => some name
  | insert table _ _ => some table
  | select table _ _ => some table
  | update table _ _ => some table
  | delete table _ => some table
  | dropTable name => some name
  | listTables => none
  | count table _ => some table

def filter? : Statement → Option Predicate
  | select _ _ filter => filter
  | update _ _ filter => filter
  | delete _ filter => filter
  | count _ filter => filter
  | _ => none

/-! ### Validation -/

/-- The column names that a statement writes into its text one by one: those of its values, then
those of its filter. -/
def columnNames : Statement → List String
  | insert _ columns _ => columns
  | update _ assignments filter =>
    assignments.map Assignment.column ++ (filter.map Predicate.columns).getD []
  | statement => (statement.filter?.map Predicate.columns).getD []

/-- What an insert with `columns` columns and `values` values is refused for. -/
def arityError (columns values : Nat) : Error :=
  .malformedStatement .insert (toString columns ++ " columns for " ++ toString values ++ " values")

/-- The check that only some kinds have: the arity of an insert, the column list of a select. -/
def validateShape : Statement → Except Error Unit
  | insert _ columns values =>
    if columns.length = values.length then .ok ()
    else .error (arityError columns.length values.length)
  | select _ columns _ => validateColumns columns
  | _ => .ok ()

/-- Checks every table and column name that ends up in the statement's text. -/
def validate (statement : Statement) : Except Error Unit := do
  validateIdentifiers statement.table?.toList
  statement.validateShape
  validateIdentifiers statement.columnNames

/-! ### Rendering -/

def renderFilter (rendering : Rendering) : Option Predicate → Render (Option String)
  | none => pure none
  | some p => do
    let text ← p.render rendering
    pure (some text)

def renderAssignments (rendering : Rendering) : List Assignment → Render (List String)
  | [] => pure []
  | a :: rest => do
    let text ← renderValue rendering a.value
    let texts ← renderAssignments rendering rest
    pure ((a.column ++ "=" ++ text) :: texts)

def render (rendering : Rendering) : Statement → Render String
  | createTable name columns => pure (Template.createTable name columns)
  | insert table columns values => do
    let texts ← renderValues rendering values
    pure (Template.insert table columns texts)
  | select table columns filter => do
    let text ← renderFilter rendering filter
    pure (Template.select table columns text)
  | update table assignments filter => do
    let sets ← renderAssignments rendering assignments
    let text ← renderFilter rendering filter
    pure (Template.update table (Text.joinWith ", " sets) text)
  | delete table filter => do
    let text ← renderFilter rendering filter
    pure (Template.delete table text)
  | dropTable name => pure (Template.dropTable name)
  | listTables => pure Template.listTables
  | count table filter => do
    let text ← renderFilter rendering filter
    pure (Template.count table text)

def text (statement : Statement) : String := (statement.render .inline |>.run []).1

/-- The text of a statement with placeholders, and the parameters. -/
def template (statement : Statement) : String × List Value :=
  statement.render .placeholders |>.run []

end Statement

/-! ### Preparing -/

/-- SQL text together with the values of its placeholders. -/
structure BoundQuery where
  sql : String
  params : List Value
  deriving DecidableEq, Repr

def prepare (mode : Mode) (statement : Statement) : Except Error BoundQuery := do
  statement.validate
  let (text, params) := statement.template
  let sql ← toSql mode text
  pure ⟨sql, params⟩

end AqlGateway.Aql
