import AqlGateway.Proofs.Executor.Session
import AqlGateway.Proofs.Repository.Shape

/-!
# One call for each operation

Every operation of the relational store is one call of the database. What it is called with goes into
the parameters of the call alone.

* `TreeOperation.supplied` — the value that an operation is given for a column;
* `bindings?_sql` — the placeholders of an operation's SQL, read off the SQL;
* `map_supplied` — their values, in order;
* `behind_perform` — the session behind an operation;
* `one_call` — so every operation makes one call, with each value in the place of its column.
-/

namespace AqlGateway

open Aql Text

/-! ### What an operation is given -/

/-- The value of a tree in a column. An unset date has none; an unset status is stored as null. -/
def Tree.field? (tree : Tree) : String → Option Value
  | "id" => some (.text tree.id)
  | "code" => some (.text tree.code)
  | "species_id" => some (.text tree.speciesId)
  | "location_id" => some (.text tree.locationId)
  | "planting_date" => tree.plantingDate.map .date
  | "age_years" => some (.integer tree.ageYears)
  | "height_meters" => some (.real tree.heightMeters)
  | "diameter_cm" => some (.real tree.diameterCm)
  | "status" => some (tree.status.elim .null fun status => .text status.name)
  | "health_score" => some (.integer tree.healthScore)
  | "notes" => some (.text tree.notes)
  | "registered_by" => some (.text tree.registeredBy)
  | "created_at" => tree.createdAt.map .timestamp
  | "updated_at" => tree.updatedAt.map .timestamp
  | _ => none

/-- The value that an operation is given for a column. -/
def TreeOperation.supplied : TreeOperation → String → Option Value
  | create tree, column => tree.field? column
  | findById id, "id" => some (.text id)
  | findByCode code, "code" => some (.text code)
  | findAll filter, "location_id" => filter.locationId.map .text
  | findAll filter, "species_id" => filter.speciesId.map .text
  | findAll filter, "status" => filter.status.map fun status => .text status.name
  | update now _, "updated_at" => some (.timestamp now)
  | update _ tree, column => tree.field? column
  | updateStatus _ id _ _, "id" => some (.text id)
  | updateStatus _ _ status _, "status" => some (.text status.name)
  | updateStatus _ _ _ healthScore, "health_score" => some (.integer healthScore)
  | updateStatus now _ _ _, "updated_at" => some (.timestamp now)
  | delete id, "id" => some (.text id)
  | countByLocation location, "location_id" => some (.text location)
  | countByStatus status, "status" => some (.text status.name)
  | _, _ => none

/-- The state of a database behind the one call of an operation. -/
def TreeOperation.callOn {σ : Type} (backend : Backend σ) (q : BoundQuery) (state : σ) :
    TreeOperation → σ
  | create _ | update _ _ | updateStatus _ _ _ _ | delete _ => (backend.execute q state).2
  | findById _ | findByCode _ | findAll _ | nextCode => (backend.query q state).2
  | countByLocation _ | countByStatus _ => (backend.queryRow q state).2

namespace Relational

/-! ### Whose values the placeholders stand for -/

/-- The page has no placeholders. -/
theorem filter_pageWords (filter : TreeFilter) : (pageWords filter).filter Binding.isBound = [] := by
  have hkeywords : Binding.isBound "ORDER" = false ∧ Binding.isBound "BY" = false ∧
      Binding.isBound "code" = false ∧ Binding.isBound "LIMIT" = false ∧
      Binding.isBound "OFFSET" = false := by decide
  rw [pageWords, rangeWords]
  split
  · rfl
  · split <;> split <;> simp [hkeywords, isBound_repr]

theorem filter_conditionWords (filter : TreeFilter) :
    (conditionWords filter).filter Binding.isBound
      = columnTexts 0 (filter.criteria.map Assignment.column) := by
  have hpage : (if IsWhole filter then [] else ["1=1"]).filter Binding.isBound = [] := by
    split <;> decide
  rw [conditionWords, List.filter_append, hpage, List.append_nil, assignmentTexts_eq]
  exact List.filter_eq_self.mpr (isBound_columnTexts 0 _)

/-- The placeholders of a list belong to its criteria. -/
theorem bindings?_list (filter : TreeFilter) :
    bindings? (joinWith " " (listWords filter))
      = some (bound 0 (filter.criteria.map Assignment.column)) := by
  have hcolumns : ∀ name ∈ filter.criteria.map Assignment.column, isIdentifier name = true := by
    intro name hname
    obtain ⟨a, ha, rfl⟩ := List.mem_map.mp hname
    exact Remote.isIdentifier_of_column _ (TreeFilter.column_of_mem_criteria ha)
  have hlexemes : ∀ w ∈ listWords filter, IsLexeme w := by
    intro w hw
    rcases isToken_of_mem_list filter w hw with rfl | htoken
    · decide
    · exact isLexeme_of_isToken htoken
  have hand : Binding.isBound "AND" = false := by decide
  have hkeywords : Binding.isBound "*" = false ∧ Binding.isBound "FROM" = false ∧
      Binding.isBound "trees" = false ∧ Binding.isBound "WHERE" = false := by decide
  refine bindings?_equalities (by decide) (by decide) hcolumns
    (lexemes_joinWith (by decide) (by decide) hlexemes) ?_
  rw [← filter_conditionWords]
  split
  · next hnone => simp [hkeywords, hnone]
  · simp [hkeywords, filter_intersperse hand, filter_pageWords]

theorem bindings?_create (planted created updated : Bool) :
    bindings? (Shape.create planted created updated).sql
      = some (bound 0 (Shape.inserted planted created updated)) := by
  have hidentifiers := isIdentifier_inserted planted created updated
  have hvalues : "VALUES" ∉ Shape.inserted planted created updated := by
    cases planted <;> cases created <;> cases updated <;> decide
  show bindings? (Shape.insertSql _) = _
  generalize Shape.inserted planted created updated = columns at hidentifiers hvalues ⊢
  have hopen : "INSERT INTO trees (" = "INSERT INTO trees" ++ " (" := by decide +kernel
  have hmiddle : ") VALUES (" = ") " ++ ("VALUES" ++ " (") := by decide +kernel
  have htext : Shape.insertSql columns = "INSERT INTO trees" ++ " (" ++ (joinWith ", " columns ++ ") "
      ++ ("VALUES" ++ " (" ++ (joinWith ", " (placeholders 0 columns.length) ++ ")" ++ ""))) := by
    unfold Shape.insertSql
    rw [hopen, hmiddle, String.append_empty]
    simp only [String.append_assoc]
  have hfront : lexemes "INSERT INTO trees" = ["INSERT", "INTO", "trees"] := by decide
  have hword : lexemes "VALUES" = ["VALUES"] := by decide
  have hend : lexemes "" = [] := by decide
  have hsql : lexemes (Shape.insertSql columns) = "INSERT" :: "INTO" :: "trees" ::
      (columns ++ "VALUES" :: placeholders 0 columns.length) := by
    rw [htext, lexemes_append (by decide) (by decide), lexemes_append (by decide) (by decide),
      lexemes_append (by decide) (by decide), lexemes_append (by decide) (by decide), hfront, hword,
      hend, lexemes_joinWith (by decide) (by decide) fun w hw =>
        isLexeme_of_isToken (isToken_of_isIdentifier (hidentifiers w hw)),
      lexemes_joinWith (by decide) (by decide) fun w hw =>
        isLexeme_of_isToken (isToken_of_mem_placeholders hw), List.append_nil]
    rfl
  exact bindings?_insert hvalues hsql

/-- An update binds its columns in order, and the id behind them. -/
theorem bindings?_update {columns : List String} (h : ∀ name ∈ columns, isIdentifier name = true) :
    bindings? (Shape.updateSql columns) = some (bound 0 (columns ++ ["id"])) := by
  have hcolumns : ∀ name ∈ columns ++ ["id"], isIdentifier name = true := by
    intro name hname
    rcases List.mem_append.mp hname with hname | hname
    · exact h name hname
    · rw [List.mem_singleton.mp hname]
      decide
  have hopen : "UPDATE trees SET " = "UPDATE trees SET" ++ " " := by decide +kernel
  have hmiddle : " WHERE id=" = " " ++ ("WHERE" ++ " " ++ ("id" ++ "=")) := by decide +kernel
  have htext : Shape.updateSql columns = "UPDATE trees SET" ++ " "
      ++ (joinWith ", " (columnTexts 0 columns) ++ " "
        ++ ("WHERE" ++ " " ++ ("id" ++ "=" ++ placeholder (columns.length + 1)))) := by
    unfold Shape.updateSql
    rw [hopen, hmiddle]
    simp only [String.append_assoc]
  have hfront : lexemes "UPDATE trees SET" = ["UPDATE", "trees", "SET"] := by decide
  have hword : lexemes "WHERE" = ["WHERE"] := by decide
  have hid : IsToken ("id" ++ "=" ++ placeholder (columns.length + 1)) :=
    isToken_assignment (by decide) _
  have hbound : (columnTexts 0 (columns ++ ["id"])).filter Binding.isBound
      = columnTexts 0 (columns ++ ["id"]) := List.filter_eq_self.mpr (isBound_columnTexts 0 _)
  have hsql : lexemes (Shape.updateSql columns) = "UPDATE" :: "trees" :: "SET" ::
      (columnTexts 0 columns ++ "WHERE" :: ["id" ++ "=" ++ placeholder (columns.length + 1)]) := by
    rw [htext, lexemes_append (by decide) (by decide), lexemes_append (by decide) (by decide),
      lexemes_append (by decide) (by decide), hfront, hword, lexemes_word (isLexeme_of_isToken hid),
      lexemes_joinWith (by decide) (by decide) fun w hw =>
        isLexeme_of_isToken (isToken_columnTexts h 0 w hw)]
    rfl
  have hkeywords : Binding.isBound "trees" = false ∧ Binding.isBound "SET" = false ∧
      Binding.isBound "WHERE" = false := by decide
  refine bindings?_equalities (by decide) (by decide) hcolumns hsql ?_
  rw [columnTexts_append, Nat.zero_add] at hbound ⊢
  rw [← hbound]
  simp [hkeywords, columnTexts]

/-- The placeholders in the SQL of an operation are numbered in the order of its columns. -/
theorem bindings?_sql (operation : TreeOperation) :
    bindings? operation.shape.sql = some (bound 0 operation.shape.columns) := by
  cases operation with
  | create tree => exact bindings?_create _ _ _
  | findAll filter =>
    rw [TreeOperation.shape, Shape.sql, Shape.columns, ← listWords_eq, ← columns_criteria]
    exact bindings?_list filter
  | update now tree => exact bindings?_update (isIdentifier_written _)
  | updateStatus now id status healthScore => exact bindings?_update (by decide)
  | findById id =>
    exact (by decide +kernel : bindings? Shape.findById.sql = some (bound 0 Shape.findById.columns))
  | findByCode code =>
    exact (by decide +kernel : bindings? Shape.findByCode.sql
      = some (bound 0 Shape.findByCode.columns))
  | delete id =>
    exact (by decide +kernel : bindings? Shape.delete.sql = some (bound 0 Shape.delete.columns))
  | nextCode =>
    exact (by decide +kernel : bindings? Shape.nextCode.sql = some (bound 0 Shape.nextCode.columns))
  | countByLocation location =>
    exact (by decide +kernel : bindings? Shape.countByLocation.sql
      = some (bound 0 Shape.countByLocation.columns))
  | countByStatus status =>
    exact (by decide +kernel : bindings? Shape.countByStatus.sql
      = some (bound 0 Shape.countByStatus.columns))

/-- A column that is there only sometimes has a value just then. -/
theorem map_only {α : Type} (given : String → Option Value) (name : String) (set : Option α)
    (value : α → Value) (h : given name = set.map value) :
    (Shape.only set.isSome name).map given = set.toList.map fun a => some (value a) := by
  cases set with
  | none => rfl
  | some a =>
    show [given name] = _
    rw [h]
    rfl

/-- The values of the placeholders are those that the operation is given for their columns. -/
theorem map_supplied (operation : TreeOperation) :
    operation.shape.columns.map operation.supplied = (sent operation).params.map some := by
  have hstatus (status : Option Status) : Tree.optionalValue Tree.statusValue status
      = status.elim .null fun status => .text status.name := by
    cases status <;> rfl
  -- Three operations have columns that may be missing. The columns of all others are fixed,
  -- and so `rfl` compares their values.
  cases operation with
  | create tree =>
    have hparams : (sent (.create tree)).params = tree.insertPairs.map Prod.snd := List.append_nil _
    have hplanted := map_only tree.field? "planting_date" tree.plantingDate .date
      (by simp [Tree.field?])
    have hcreated := map_only tree.field? "created_at" tree.createdAt .timestamp
      (by simp [Tree.field?])
    have hupdated := map_only tree.field? "updated_at" tree.updatedAt .timestamp
      (by simp [Tree.field?])
    show (Shape.inserted _ _ _).map tree.field? = _
    rw [hparams, insertPairs_eq, Shape.inserted]
    simp only [List.map_append, hplanted, hcreated, hupdated]
    simp [Tree.field?, hstatus, Option.toList_map, Function.comp_def]
  | findAll filter =>
    have hparams : (sent (.findAll filter)).params = filter.criteria.map Assignment.value :=
      values_list filter
    have hlocation := map_only (TreeOperation.findAll filter).supplied "location_id" filter.locationId
      .text (by simp [TreeOperation.supplied])
    have hspecies := map_only (TreeOperation.findAll filter).supplied "species_id" filter.speciesId
      .text (by simp [TreeOperation.supplied])
    have hstatus := map_only (TreeOperation.findAll filter).supplied "status" filter.status
      (fun status => .text status.name) (by simp [TreeOperation.supplied])
    show (Shape.compared _ _ _).map _ = _
    rw [hparams, Shape.compared, TreeFilter.criteria]
    simp only [List.map_append, hlocation, hspecies, hstatus]
    simp [Tree.statusValue, Option.toList_map, Function.comp_def]
  | update now tree =>
    have hplanted := map_only (TreeOperation.update now tree).supplied "planting_date"
      tree.plantingDate .date (by simp [TreeOperation.supplied, Tree.field?])
    have hparams : (sent (.update now tree)).params
        = (tree.updateAssignments now).map Assignment.value ++ [.text tree.id] := rfl
    show (Shape.written _ ++ ["id"]).map _ = _
    rw [hparams, Tree.updateAssignments, Shape.written]
    simp only [List.map_append, hplanted]
    simp [TreeOperation.supplied, Tree.field?, hstatus, Option.toList_map, Function.comp_def]
  | _ => rfl

/-! ### The call -/

section

variable {σ : Type} (executor : Executor σ) (session : Session σ) {statement : Statement}
  {q : BoundQuery}

/-- Running a statement without rows makes one call, once the statement is prepared. -/
theorem behind_execute (h : prepare executor.mode statement = .ok q) :
    (session.runIn (executor.execute statement)).2
      = ⟨(executor.backend.execute q session.state).2, session.history ++ [.call q]⟩ := by
  rw [Executor.execute, Executor.prepareFor, h, pure_bind, Session.runIn_call]

/-- A query, and what is read out of its cursor. -/
theorem behind_read {α : Type} {read : Cursor → SessionM σ α}
    (h : prepare executor.mode statement = .ok q)
    (hread : ∀ cursor (behind : Session σ), (behind.runIn (read cursor)).2 = behind) :
    (session.runIn (executor.query statement >>= read)).2
      = ⟨(executor.backend.query q session.state).2, session.history ++ [.call q]⟩ := by
  rw [session.snd_runIn_bind hread, Executor.query, Executor.prepareFor, h, pure_bind,
    Session.runIn_call]

theorem behind_count {table : String} {filter : Option Predicate}
    (h : prepare executor.mode (.count table filter) = .ok q) :
    (session.runIn (executor.count table filter)).2
      = ⟨(executor.backend.queryRow q session.state).2, session.history ++ [.call q]⟩ := by
  rw [Executor.count, Executor.prepareFor, h, pure_bind, Session.snd_runIn_bind, Session.runIn_call]
  intro row behind
  cases Executor.countOf table row <;> rfl

end

/-- Behind an operation, its call and nothing else has been made. -/
theorem behind_perform {σ : Type} (executor : Executor σ) (session : Session σ)
    (operation : TreeOperation) {q : BoundQuery}
    (h : prepare executor.mode (sent operation) = .ok q) :
    (session.runIn ((store executor).perform operation)).2
      = ⟨operation.callOn executor.backend q session.state, session.history ++ [.call q]⟩ := by
  have discard {α : Type} (action : SessionM σ α) := session.snd_runIn_discard action
  have hexecute := behind_execute executor session h
  cases operation with
  | create tree => exact (discard _).trans hexecute
  | update now tree => exact (discard _).trans hexecute
  | updateStatus now id status healthScore => exact (discard _).trans hexecute
  | delete id => exact (discard _).trans hexecute
  | findById id =>
    refine (discard _).trans (behind_read executor session h fun cursor behind => ?_)
    rcases cursor.first with _ | _ | _ <;> rfl
  | findByCode code =>
    refine (discard _).trans (behind_read executor session h fun cursor behind => ?_)
    rcases cursor.first with _ | _ | _ <;> rfl
  | findAll filter =>
    refine (discard _).trans (behind_read executor session h fun cursor behind => ?_)
    cases cursor.collect <;> rfl
  | nextCode =>
    refine (discard _).trans (behind_read executor session h fun cursor behind => ?_)
    rcases cursor.first with _ | row
    · rfl
    · dsimp only
      cases Tree.nextCodeAfter (rowNumber row) <;> rfl
  | countByLocation location => exact (discard _).trans (behind_count executor session h)
  | countByStatus status => exact (discard _).trans (behind_count executor session h)

/-- Every operation, whatever it is called with and in either mode, makes one call of the database, with
what its statement is prepared as in strict mode. The SQL is that of the operation's shape. Its
placeholders are numbered from one on, there are as many parameters, and each of these is the value that
the operation is given for the placeholder's column. -/
theorem one_call {σ : Type} (executor : Executor σ) (session : Session σ)
    (operation : TreeOperation) :
    ∃ q bindings, (session.runIn ((store executor).perform operation)).2
        = ⟨operation.callOn executor.backend q session.state, session.history ++ [.call q]⟩ ∧
      prepare .strict (sent operation) = .ok q ∧ q.sql = operation.shape.sql ∧
      bindings? q.sql = some bindings ∧
      bindings.map Binding.place = List.range' 1 q.params.length ∧
      bindings.map (fun binding => operation.supplied binding.column) = q.params.map some := by
  have hprepare := prepare_sent executor.mode operation
  have hsupplied := map_supplied operation
  have hlength : operation.shape.columns.length = (sent operation).params.length := by
    have hlengths := congrArg List.length hsupplied
    rwa [List.length_map, List.length_map] at hlengths
  refine ⟨_, bound 0 operation.shape.columns, behind_perform executor session operation hprepare,
    prepare_sent .strict operation, rfl, bindings?_sql operation, ?_, ?_⟩
  · rw [map_place_bound, hlength]
  · have hcolumns := congrArg (List.map operation.supplied)
      (map_column_bound 0 operation.shape.columns)
    rw [List.map_map] at hcolumns
    exact hcolumns.trans hsupplied

end Relational

end AqlGateway
