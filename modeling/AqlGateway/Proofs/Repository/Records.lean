import AqlGateway.Proofs.Binary64.Whole
import AqlGateway.Proofs.Repository.EngineFailure
import AqlGateway.Proofs.Tree.Filter

/-!
# Records that the engine answers with

* `Remote.Answers` — the engine answers a statement with records, as a document or as the text of one;
* `Remote.leftBy` — the state in which a statement leaves the engine;
* `Remote.runFrom_select_ok`, `runFrom_selectTrees_ok` — a select gives the records of its answer;
* `Remote.runFrom_findAll_of_answers` — a list has the trees among these records that are selected;
* `Remote.runFrom_countMatching_of_answers` — a count is that of the trees that meet the criteria;
* `Remote.runFrom_bind_inv` — an action that succeeds does so because each of its parts does;
* `Remote.toInt_countOf` — a count that is not out of all proportion is told as it is;
* `recordsEngine` — an engine that has nothing but records.
-/

namespace AqlGateway

open Aql

namespace Remote

section Answers

variable {σ : Type} {engine : Engine σ} {state : σ} {records : List Record}

/-- The engine answers a statement with records. -/
def Answers (engine : Engine σ) (state : σ) (statement : Statement) (records : List Record) : Prop :=
  ∃ data, (engine.query statement.text state).1 = .ok data ∧ parseRecords data = .ok records

/-- The state in which a statement leaves the engine. -/
def leftBy (engine : Engine σ) (state : σ) (statement : Statement) : σ :=
  (engine.query statement.text state).2

/-- A select gives the records of its answer. -/
theorem runFrom_select_ok {columns : String} {filter : Option Predicate}
    (hvalid : (Statement.select Tree.table columns filter).validate = .ok ())
    (h : Answers engine state (.select Tree.table columns filter) records) :
    runFrom state (select engine columns filter)
      = (.ok records, leftBy engine state (.select Tree.table columns filter)) := by
  obtain ⟨data, hanswer, hparse⟩ := h
  have hsent : runFrom state (send engine (.select Tree.table columns filter))
      = (.ok data, leftBy engine state (.select Tree.table columns filter)) :=
    (runFrom_send engine hvalid).trans (Prod.ext hanswer rfl)
  rw [select, runFrom_bind_ok _ hsent, hparse]
  rfl

theorem runFrom_selectTrees_ok {filter : Option Predicate}
    (hvalid : (Statement.select Tree.table "*" filter).validate = .ok ())
    (h : Answers engine state (.select Tree.table "*" filter) records) :
    runFrom state (selectTrees engine filter)
      = (.ok (records.map Tree.ofRecord), leftBy engine state (.select Tree.table "*" filter)) := by
  rw [selectTrees, runFrom_bind_ok _ (runFrom_select_ok hvalid h)]
  rfl

/-- A list has the trees that the filter selects, and asks the engine but once. -/
theorem runFrom_findAll_of_answers (filter : TreeFilter)
    (h : Answers engine state (sent (.findAll filter)) records) :
    runFrom state (findAll engine filter)
      = (.ok (filter.selected (records.map Tree.ofRecord)),
          leftBy engine state (sent (.findAll filter))) := by
  have htrees := runFrom_selectTrees_ok (validate_sent (.findAll filter)) h
  rw [findAll, runFrom_bind_ok _ (runFrom_within_ok _ htrees), TreeFilter.paginate_accepts]
  rfl

/-- A count has the number of the trees that meet the criteria. -/
theorem runFrom_countMatching_of_answers {filter : TreeFilter}
    (hvalid : (Statement.select Tree.table "*" filter.predicate?).validate = .ok ())
    (h : Answers engine state (.select Tree.table "*" filter.predicate?) records) :
    (runFrom state (countMatching engine filter)).1
      = .ok (countOf ((records.map Tree.ofRecord).filter filter.accepts).length) := by
  have htrees := runFrom_within_ok "failed to count trees" (runFrom_selectTrees_ok hvalid h)
  rw [countMatching, runFrom_bind_ok _ htrees]
  rfl

/-- An action that succeeds does so because each of its parts does. -/
theorem runFrom_bind_inv {α β : Type} {action : EngineM σ α} {next : α → EngineM σ β} {b : β}
    (h : (runFrom state (action >>= next)).1 = .ok b) :
    ∃ a behind, (runFrom behind (next a)).1 = .ok b := by
  cases hrun : runFrom state action with
  | mk outcome behind =>
    cases outcome with
    | ok a =>
      rw [runFrom_bind_ok next hrun] at h
      exact ⟨a, behind, h⟩
    | error e =>
      rw [runFrom_bind_error next hrun] at h
      exact absurd h (by simp)

end Answers

/-- A count that is not out of all proportion is told as it is. -/
theorem toInt_countOf {n : Nat} (h : n < 2 ^ 63) : (countOf n).toInt = n := by
  rw [countOf, Binary64.toInt_clamp64]
  omega

end Remote

/-! ### An engine with nothing but records -/

/-- An engine that answers everything with all its records. -/
def recordsEngine : Engine (List Record) where
  query _ := do
    let records ← get
    pure (.ok (.array (records.map .object)))

/-- Objects are records. -/
theorem recordsOf_objects (records : List Record) : recordsOf (records.map .object) = .ok records := by
  induction records with
  | nil => rfl
  | cons members rest ih =>
    rw [List.map_cons, recordsOf, ih]
    rfl

theorem answers_recordsEngine (records : List Record) (statement : Statement) :
    Remote.Answers recordsEngine records statement records :=
  ⟨.array (records.map .object), rfl, recordsOf_objects records⟩

end AqlGateway
