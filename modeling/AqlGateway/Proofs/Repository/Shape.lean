import AqlGateway.Proofs.Aql.KeptFilter
import AqlGateway.Proofs.Repository.Bindings
import AqlGateway.Proofs.Repository.ListQuery
import AqlGateway.Proofs.Repository.NextCode

/-!
# Shapes of operations

An operation of the relational store is one statement. Its SQL depends on the operation, on the dates and
criteria that are set, and on the page of a list; the values that it is called with are no part of it.

* `Shape` — what the SQL of an operation depends on; `Shape.columns` and `Shape.sql`, the columns with
  placeholders and the SQL;
* `Relational.sent` — the statement of an operation;
* `prepare_equality` — how a statement is prepared whose condition compares one column;
* `prepare_sent` — every statement of an operation is prepared as the SQL of its shape.
-/

namespace AqlGateway

open Aql Text

/-! ### What the SQL depends on -/

/-- An operation of a store of trees without the values that it is called with. -/
inductive Shape
  /-- An insert of a tree with the dates that are set. -/
  | create (planted created updated : Bool)
  | findById
  | findByCode
  /-- A list with the criteria that are set, and its page. -/
  | findAll (location species status : Bool) (limit offset : Nat)
  /-- A full update, with the date of planting or without. -/
  | update (planted : Bool)
  | updateStatus
  | delete
  | nextCode
  | countByLocation
  | countByStatus
  deriving DecidableEq, Repr

/-- An operation without the values that it is called with. -/
def TreeOperation.shape : TreeOperation → Shape
  | create tree => .create tree.plantingDate.isSome tree.createdAt.isSome tree.updatedAt.isSome
  | findById _ => .findById
  | findByCode _ => .findByCode
  | findAll filter => .findAll filter.locationId.isSome filter.speciesId.isSome
      filter.status.isSome filter.limit filter.offset
  | update _ tree => .update tree.plantingDate.isSome
  | updateStatus _ _ _ _ => .updateStatus
  | delete _ => .delete
  | nextCode => .nextCode
  | countByLocation _ => .countByLocation
  | countByStatus _ => .countByStatus

namespace Shape

/-- A column that is there only sometimes. -/
def only (present : Bool) (column : String) : List String := if present then [column] else []

def inserted (planted created updated : Bool) : List String :=
  ["id", "code", "species_id", "location_id"] ++ only planted "planting_date"
    ++ ["age_years", "height_meters", "diameter_cm", "status", "health_score", "notes",
      "registered_by"]
    ++ only created "created_at" ++ only updated "updated_at"

def written (planted : Bool) : List String :=
  ["species_id", "location_id"] ++ only planted "planting_date"
    ++ ["age_years", "height_meters", "diameter_cm", "status", "health_score", "notes", "updated_at"]

def writtenStatus : List String := ["status", "health_score", "updated_at"]

/-- The columns of the criteria of a list. -/
def compared (location species status : Bool) : List String :=
  only location "location_id" ++ only species "species_id" ++ only status "status"

/-- The columns whose values are bound, in the order of their placeholders. -/
def columns : Shape → List String
  | create planted created updated => inserted planted created updated
  | findById => ["id"]
  | findByCode => ["code"]
  | findAll location species status _ _ => compared location species status
  | update planted => written planted ++ ["id"]
  | updateStatus => writtenStatus ++ ["id"]
  | delete => ["id"]
  | nextCode => []
  | countByLocation => ["location_id"]
  | countByStatus => ["status"]

def insertSql (columns : List String) : String :=
  "INSERT INTO trees (" ++ joinWith ", " columns ++ ") VALUES ("
    ++ joinWith ", " (placeholders 0 columns.length) ++ ")"

def updateSql (columns : List String) : String :=
  "UPDATE trees SET " ++ joinWith ", " (Relational.columnTexts 0 columns) ++ " WHERE id="
    ++ placeholder (columns.length + 1)

/-- The words of a list with these criteria and this page. A page has a condition of its own, so that
there is one to stand behind. -/
def listWords (columns : List String) (limit offset : Nat) : List String :=
  let whole := limit = 0 ∧ offset = 0
  let conditions := Relational.columnTexts 0 columns ++ if whole then [] else ["1=1"]
  let page := "ORDER" :: "BY" :: "code" ::
    ((if limit = 0 then [] else ["LIMIT", toString limit])
      ++ if offset = 0 then [] else ["OFFSET", toString offset])
  ["SELECT", "*", "FROM", "trees"]
    ++ if conditions = [] then []
      else "WHERE" :: (conditions.intersperse "AND" ++ if whole then [] else page)

def sql : Shape → String
  | create planted created updated => insertSql (inserted planted created updated)
  | findById => "SELECT * FROM trees WHERE id=$1"
  | findByCode => "SELECT * FROM trees WHERE code=$1"
  | findAll location species status limit offset =>
    joinWith " " (listWords (compared location species status) limit offset)
  | update planted => updateSql (written planted)
  | updateStatus => updateSql writtenStatus
  | delete => "DELETE FROM trees WHERE id=$1"
  | nextCode => "SELECT code FROM trees WHERE 1=1 ORDER BY code DESC LIMIT 1"
  | countByLocation => "SELECT COUNT(*) FROM trees WHERE location_id=$1"
  | countByStatus => "SELECT COUNT(*) FROM trees WHERE status=$1"

example : updateStatus.sql
    = "UPDATE trees SET status=$1, health_score=$2, updated_at=$3 WHERE id=$4" := by decide +kernel

example : (findAll true false true 10 0).sql
    = "SELECT * FROM trees WHERE location_id=$1 AND status=$2 AND 1=1 ORDER BY code LIMIT 10" := by
  decide +kernel

end Shape

namespace Relational

/-- The statement that an operation sends to the database. -/
def sent : TreeOperation → Statement
  | .create tree =>
    .insert Tree.table (tree.insertPairs.map Prod.fst) (tree.insertPairs.map Prod.snd)
  | .findById id => .select Tree.table "*" (column "id" id)
  | .findByCode code => .select Tree.table "*" (column "code" code)
  | .findAll filter => .select Tree.table "*" (listCondition filter)
  | .update now tree => .update Tree.table (tree.updateAssignments now) (column "id" tree.id)
  | .updateStatus now id status healthScore =>
    .update Tree.table (Tree.statusAssignments status healthScore now) (column "id" id)
  | .delete id => .delete Tree.table (column "id" id)
  | .nextCode => .select Tree.table "code" (some highestCode)
  | .countByLocation location => .count Tree.table (column "location_id" location)
  | .countByStatus status => .count Tree.table (column "status" status.name)

/-! ### How it is prepared -/

/-- A statement whose condition compares one column is prepared in either mode. -/
theorem prepare_equality {statement : Statement} {name : String} {value : Value} (mode : Mode)
    (hvalid : statement.validate = .ok ()) (hparts : statement.HasParts)
    (hname : isIdentifier name = true) (hfilter : statement.filter? = some (.eq name value)) :
    prepare mode statement = .ok ⟨statement.withoutFilter.referenceSql ++ " WHERE "
      ++ (name ++ "=" ++ placeholder (statement.boundValues.length + 1)), statement.params⟩ := by
  have htext : statement.filterText (.eq name value)
      = name ++ "=" ++ placeholder (statement.boundValues.length + 1) := by
    rw [Statement.filterText, Predicate.render_run]
    rfl
  have htoken := isToken_assignment hname (statement.boundValues.length + 1)
  have hclause : IsClause (statement.filterText (.eq name value)).toList := by
    rw [htext]
    exact isClause_words (List.cons_ne_nil _ []) (List.forall_mem_singleton.mpr htoken)
  have htrim : trimText (statement.filterText (.eq name value))
      = name ++ "=" ++ placeholder (statement.boundValues.length + 1) := by
    rw [htext, trimText, htoken.isSolid.trim_eq, String.ofList_toList]
  have hdangling : ¬ statement.Dangling := by
    rintro ⟨-, f, hf, hblank⟩
    rw [Statement.conditionText?_of_filter hfilter] at hf
    obtain rfl := Option.some.inj hf
    exact hclause.ne_nil hblank
  have hprepare := prepare_of_clause hvalid hparts hfilter (by simp) hdangling hclause
  rw [← Statement.params_of_filter hfilter, htrim] at hprepare
  exact prepare_of_strict hprepare mode

/-- A tree is inserted with its dates as far as they are set, and with all the rest. -/
theorem insertPairs_eq (tree : Tree) :
    tree.insertPairs
      = [("id", .text tree.id), ("code", .text tree.code), ("species_id", .text tree.speciesId),
          ("location_id", .text tree.locationId)]
        ++ (tree.plantingDate.map fun date => ("planting_date", Value.date date)).toList
        ++ [("age_years", .integer tree.ageYears), ("height_meters", .real tree.heightMeters),
          ("diameter_cm", .real tree.diameterCm),
          ("status", Tree.optionalValue Tree.statusValue tree.status),
          ("health_score", .integer tree.healthScore), ("notes", .text tree.notes),
          ("registered_by", .text tree.registeredBy)]
        ++ (tree.createdAt.map fun instant => ("created_at", Value.timestamp instant)).toList
        ++ (tree.updatedAt.map fun instant => ("updated_at", Value.timestamp instant)).toList := by
  rw [Tree.insertPairs, Tree.columns, Tree.values]
  cases tree.plantingDate <;> cases tree.createdAt <;> cases tree.updatedAt <;>
    simp [Tree.optionalValue, Value.isNull, Tree.dateColumns]

/-- Which columns an insert has depends on the dates that are set, and on nothing else. -/
theorem columns_insertPairs (tree : Tree) :
    tree.insertPairs.map Prod.fst = Shape.inserted tree.plantingDate.isSome tree.createdAt.isSome
      tree.updatedAt.isSome := by
  rw [insertPairs_eq]
  cases tree.plantingDate <;> cases tree.createdAt <;> cases tree.updatedAt <;> rfl

theorem columns_updateAssignments (tree : Tree) (now : Instant) :
    (tree.updateAssignments now).map Assignment.column = Shape.written tree.plantingDate.isSome := by
  cases hplanted : tree.plantingDate <;>
    simp [Tree.updateAssignments, hplanted, Shape.written, Shape.only]

theorem columns_criteria (filter : TreeFilter) :
    filter.criteria.map Assignment.column
      = Shape.compared filter.locationId.isSome filter.speciesId.isSome filter.status.isSome := by
  cases hlocation : filter.locationId <;> cases hspecies : filter.speciesId <;>
    cases hstatus : filter.status <;>
    simp [TreeFilter.criteria, hlocation, hspecies, hstatus, Shape.compared, Shape.only]

theorem listWords_eq (filter : TreeFilter) :
    listWords filter = Shape.listWords
      (Shape.compared filter.locationId.isSome filter.speciesId.isSome filter.status.isSome)
      filter.limit filter.offset := by
  rw [← columns_criteria, listWords, conditionWords, pageWords, rangeWords, assignmentTexts_eq]
  rfl

theorem referenceSql_insert (table : String) (columns : List String) (values : List Value) :
    (Statement.insert table columns values).referenceSql = "INSERT INTO " ++ table ++ " ("
      ++ joinWith ", " columns ++ ") VALUES (" ++ joinWith ", " (placeholders 0 values.length) ++ ")" :=
  rfl

theorem referenceSql_update (table : String) (assignments : List Assignment) :
    (Statement.update table assignments none).referenceSql
      = "UPDATE " ++ table ++ " SET " ++ joinWith ", " (assignmentTexts 0 assignments) :=
  String.append_empty

theorem isIdentifier_inserted (planted created updated : Bool) :
    ∀ name ∈ Shape.inserted planted created updated, isIdentifier name = true := by
  cases planted <;> cases created <;> cases updated <;> decide

theorem isIdentifier_written (planted : Bool) :
    ∀ name ∈ Shape.written planted, isIdentifier name = true := by
  cases planted <;> decide

/-- The SQL of an insert is that of its shape. -/
theorem prepare_create (mode : Mode) (tree : Tree) :
    prepare mode (sent (.create tree))
      = .ok ⟨(TreeOperation.create tree).shape.sql, (sent (.create tree)).params⟩ := by
  have hcolumns := columns_insertPairs tree
  have hidentifiers : ∀ t ∈ tree.insertPairs.map Prod.fst, isIdentifier t = true := by
    rw [hcolumns]
    exact isIdentifier_inserted _ _ _
  have hlength : (tree.insertPairs.map Prod.fst).length = (tree.insertPairs.map Prod.snd).length := by
    rw [List.length_map, List.length_map]
  have hvalid : (sent (.create tree)).validate = .ok () := by
    refine Statement.validate_eq_ok_iff.mpr ⟨?_, if_pos hlength, hidentifiers⟩
    intro t ht
    rw [← Option.some.inj ht]
    decide
  have hne : tree.insertPairs.map Prod.fst ≠ [] := by
    rw [hcolumns]
    exact List.cons_ne_nil _ _
  have hsql : (sent (.create tree)).referenceSql = Shape.insertSql (tree.insertPairs.map Prod.fst) := by
    have hfront : "INSERT INTO trees (" = "INSERT INTO " ++ Tree.table ++ " (" := by decide +kernel
    unfold Shape.insertSql
    rw [sent, referenceSql_insert, hlength, hfront]
  have hfollows := followsReference_insert hvalid hne
  refine prepare_of_strict ?_ mode
  rw [hcolumns] at hsql
  rw [TreeOperation.shape, Shape.sql, ← hsql]
  exact hfollows.accepted fun x hx => absurd hx List.not_mem_nil

/-- An update of the tree with an id. -/
theorem prepare_update (mode : Mode) {assignments : List Assignment} {columns : List String}
    (id : String) (hcolumns : assignments.map Assignment.column = columns) (hne : columns ≠ [])
    (htable : columns ⊆ Tree.columns) :
    prepare mode (.update Tree.table assignments (column "id" id))
      = .ok ⟨Shape.updateSql columns,
          (Statement.update Tree.table assignments (column "id" id)).params⟩ := by
  subst hcolumns
  have hsign : " WHERE id=" = " WHERE " ++ ("id" ++ "=") := by decide +kernel
  have hfront : "UPDATE trees SET " = "UPDATE " ++ Tree.table ++ " SET " := by decide +kernel
  have hlength : (assignments.map Assignment.column).length
      = (assignments.map Assignment.value).length := by
    rw [List.length_map, List.length_map]
  have hvalid : (Statement.update Tree.table assignments (column "id" id)).validate = .ok () :=
    Remote.validate_update id htable
  have hparts : assignments ≠ [] := fun h => hne (congrArg (List.map Assignment.column) h)
  unfold Shape.updateSql
  rw [prepare_equality mode hvalid hparts (by decide) rfl, Statement.withoutFilter,
    referenceSql_update, Statement.boundValues, ← assignmentTexts_eq, hlength, hsign, hfront]
  simp only [String.append_assoc]

/-- The statement of every operation is prepared, in either mode, and its SQL depends on nothing but
the shape of the operation. -/
theorem prepare_sent (mode : Mode) (operation : TreeOperation) :
    prepare mode (sent operation) = .ok ⟨operation.shape.sql, (sent operation).params⟩ := by
  -- Five of the operations have one equality for their condition.
  have one {statement : Statement} {name sql : String} {value : Value}
      (hvalid : statement.validate = .ok ()) (hparts : statement.HasParts)
      (hname : isIdentifier name = true) (hfilter : statement.filter? = some (.eq name value))
      (hsql : statement.withoutFilter.referenceSql ++ " WHERE "
        ++ (name ++ "=" ++ placeholder (statement.boundValues.length + 1)) = sql) :
      prepare mode statement = .ok ⟨sql, statement.params⟩ := by
    rw [prepare_equality mode hvalid hparts hname hfilter, hsql]
  have hselect : "DARI" ∉ listItems (trim "*".toList) := by decide
  cases operation with
  | create tree => exact prepare_create mode tree
  | findById id =>
    exact one rfl hselect (by decide) rfl (by decide +kernel :
      (Statement.select Tree.table "*" none).referenceSql ++ " WHERE " ++ ("id" ++ "=" ++ placeholder 1)
        = Shape.findById.sql)
  | findByCode code =>
    exact one rfl hselect (by decide) rfl (by decide +kernel :
      (Statement.select Tree.table "*" none).referenceSql ++ " WHERE "
        ++ ("code" ++ "=" ++ placeholder 1) = Shape.findByCode.sql)
  | findAll filter =>
    have hparams : (sent (.findAll filter)).params = filter.criteria.map Assignment.value :=
      values_list filter
    rw [hparams, TreeOperation.shape, Shape.sql, ← listWords_eq]
    exact prepare_list filter mode
  | update now tree =>
    exact prepare_update mode tree.id (columns_updateAssignments tree now) (List.cons_ne_nil _ _)
      (columns_updateAssignments tree now ▸ (Tree.sublist_updateAssignments tree now).subset)
  | updateStatus now id status healthScore =>
    exact prepare_update mode id rfl (List.cons_ne_nil _ _) (by decide)
  | delete id =>
    exact one rfl trivial (by decide) rfl (by decide +kernel :
      (Statement.delete Tree.table none).referenceSql ++ " WHERE " ++ ("id" ++ "=" ++ placeholder 1)
        = Shape.delete.sql)
  | nextCode => exact prepare_highestCode mode
  | countByLocation location =>
    exact one rfl trivial (by decide) rfl (by decide +kernel :
      (Statement.count Tree.table none).referenceSql ++ " WHERE "
        ++ ("location_id" ++ "=" ++ placeholder 1) = Shape.countByLocation.sql)
  | countByStatus status =>
    exact one rfl trivial (by decide) rfl (by decide +kernel :
      (Statement.count Tree.table none).referenceSql ++ " WHERE "
        ++ ("status" ++ "=" ++ placeholder 1) = Shape.countByStatus.sql)

end Relational

end AqlGateway
