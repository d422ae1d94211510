import AqlGateway.Repository.Store
import AqlGateway.Tree.Code
import AqlGateway.Tree.Record

/-!
# Trees in the remote engine

The engine's conditions are not relied on: what it answers is filtered again here, and lists are
filtered and cut into pages here alone.

* `Engine` — something that answers statements with JSON payloads;
* `Remote.store` — the operations;
* `Remote.ensureCollection` — creates the collection of trees if it is missing.
-/

namespace AqlGateway

/-- Something with states of type `σ` that answers the texts of statements. -/
structure Engine (σ : Type) where
  query : String → StateM σ (Except Error Json)

abbrev EngineM (σ α : Type) := ExceptT Error (StateM σ) α

namespace Remote

open Aql

variable {σ : Type} (engine : Engine σ)

/-- Raises an error that is the result of a pure step. -/
def lift {α : Type} : Except Error α → EngineM σ α
  | .ok a => pure a
  | .error e => throw e

/-- Names the operation that an error came from. -/
def within {α : Type} (operation : String) (action : EngineM σ α) : EngineM σ α :=
  ExceptT.mk do
    match ← action.run with
    | .ok a => pure (.ok a)
    | .error e => pure (.error (.context operation e))

/-- Sends a statement whose names are well formed. -/
def send (statement : Statement) : EngineM σ Json := do
  lift statement.validate
  ExceptT.mk (engine.query statement.text)

def select (columns : String) (filter : Option Predicate) : EngineM σ (List Record) := do
  let data ← send engine (.select Tree.table columns filter)
  lift (parseRecords data)

def selectTrees (filter : Option Predicate) : EngineM σ (List Tree) := do
  let records ← select engine "*" filter
  pure (records.map Tree.ofRecord)

/-- The first tree that has a value in `field`. -/
def findOne (field : String) (key : Tree → String) (value : String) : EngineM σ Tree := do
  let trees ← within "failed to query tree"
    (selectTrees engine (some (.eq field (.text value))))
  match trees.find? (fun tree => key tree == value) with
  | some tree => pure tree
  | none => throw (notFound field value)

/-- The trees that meet a filter, in the order in which the engine has them. -/
def findAll (filter : TreeFilter) : EngineM σ (List Tree) := do
  let trees ← within "failed to query trees" (selectTrees engine none)
  pure (filter.paginate (trees.filter filter.accepts))

/-- The largest 64-bit integer, or a smaller count. -/
def countOf (n : Nat) : Int64 := Binary64.clamp64 n

def countMatching (filter : TreeFilter) : EngineM σ Int64 := do
  let trees ← within "failed to count trees" (selectTrees engine filter.predicate?)
  pure (countOf (trees.filter filter.accepts).length)

def recordNumber? (record : Record) : Option UInt64 :=
  match Json.lookup? "code" record with
  | some (.string code) => Tree.codeNumber? code
  | _ => none

/-- The highest number of the codes in records, zero when there is none. -/
def highestNumber (records : List Record) : UInt64 :=
  (records.filterMap recordNumber?).foldl max 0

/-- The code behind the highest one. -/
def nextCode : EngineM σ String := do
  let records ← within "failed to query codes" (select engine "code" none)
  lift (Tree.nextCodeAfter (highestNumber records))

/-- Sends a statement whose answer does not matter. -/
def change (operation : String) (statement : Statement) : EngineM σ Unit := do
  let _ ← within operation (send engine statement)

def hasId (id : String) : Option Predicate := some (.eq "id" (.text id))

def store : TreeStore (EngineM σ) where
  create tree := change engine "failed to create tree"
    (.insert Tree.table Tree.columns tree.values)
  findById := findOne engine "id" Tree.id
  findByCode := findOne engine "code" Tree.code
  findAll := findAll engine
  update now tree := change engine "failed to update tree"
    (.update Tree.table (tree.updateAssignments now) (hasId tree.id))
  updateStatus now id status healthScore := change engine "failed to update status"
    (.update Tree.table (Tree.statusAssignments status healthScore now) (hasId id))
  delete id := change engine "failed to delete tree" (.delete Tree.table (hasId id))
  nextCode := nextCode engine
  countByLocation location := countMatching engine { locationId := some location }
  countByStatus status := countMatching engine { status := some status }

/-- Creates the collection of trees. The engine takes this for done when the collection is there,
and a failure is of no consequence. -/
def ensureCollection : StateM σ Unit := do
  let _ ← (send engine (.createTable Tree.table "")).run
  pure ()

end Remote

end AqlGateway
