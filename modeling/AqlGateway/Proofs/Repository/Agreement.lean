import AqlGateway.Proofs.Executor.Session
import AqlGateway.Proofs.Repository.ListQuery
import AqlGateway.Proofs.Repository.Records

/-!
# Both stores answer alike

The relational store sends its criteria and its page to the database; the remote store fetches trees
and selects among them itself. Over the same trees, in the order of their codes, both come to the same.

* `read?_list`, `read?_count` — what a database reads in the queries of the store;
* `evaluate?_list` — and what it answers;
* `runIn_findAll`, `runIn_count` — so the relational store selects the trees and counts them;
* `Remote.Supplies` — an engine that answers with records of the trees;
* `Remote.runFrom_findAll`, `runFrom_countMatching` — so does the remote store;
* `stores_agree` — both stores list the selected trees, and count as many.
-/

namespace AqlGateway

open Aql Text TreeFilter

namespace Relational

variable {rows : List Row} {trees : List Tree} (filter : TreeFilter)

/-! ### What the queries mean -/

/-- The database reads the criteria and the page of the filter off the SQL of a list. -/
theorem read?_list :
    RowQuery.read? (joinWith " " (listWords filter))
      = some (.rows (conditions filter) (page filter)) := by
  have hwords : ∀ w ∈ listWords filter, ' ' ∉ w.toList := by
    intro w hw
    rcases isToken_of_mem_list filter w hw with rfl | htoken
    · decide
    · exact htoken.notMem (by decide)
  rw [RowQuery.read?, words_joinWith (by simp [listWords]) hwords, ofWords?_list]

theorem read?_count {name : String} (hname : name ∈ Tree.columns) :
    RowQuery.read? (joinWith " " ["SELECT", "COUNT(*)", "FROM", "trees", "WHERE",
      name ++ "=" ++ placeholder 1]) = some (.count [.equals name 1]) := by
  have htoken := isToken_assignment (Remote.isIdentifier_of_column name hname) 1
  have hwords : ∀ w ∈ ["SELECT", "COUNT(*)", "FROM", "trees", "WHERE",
      name ++ "=" ++ placeholder 1], ' ' ∉ w.toList := by
    intro w hw
    rcases List.mem_append.mp (show w ∈ ["SELECT", "COUNT(*)", "FROM", "trees", "WHERE"]
      ++ [name ++ "=" ++ placeholder 1] from hw) with hw | hw
    · exact (by decide : ∀ w ∈ ["SELECT", "COUNT(*)", "FROM", "trees", "WHERE"], ' ' ∉ w.toList) w hw
    · rw [List.mem_singleton.mp hw]
      exact htoken.notMem (by decide)
  rw [RowQuery.read?, words_joinWith (by simp) hwords, ofWords?_count hname]

/-- The parameters stand behind one another as the placeholders do. -/
theorem all_numbered (row : Row) (front : List Value) (l : List Assignment) :
    (numbered front.length l).all (Condition.holds (front ++ l.map Assignment.value) row)
      = l.all (hasValue row) := by
  induction l generalizing front with
  | nil => rfl
  | cons a rest ih =>
    have hplace : (front ++ a.value :: rest.map Assignment.value)[front.length]? = some a.value := by
      simp
    have hbehind := ih (front ++ [a.value])
    rw [List.length_append, List.length_singleton, List.append_assoc] at hbehind
    rw [numbered, List.map_cons, List.all_cons, List.all_cons, Condition.holds, hplace]
    exact congrArg (hasValue row a && ·) hbehind

/-- The rows that meet the criteria hold the trees that do. -/
theorem map_meeting (hrows : ∀ row ∈ rows, row.Holds (Tree.ofRow row)) :
    (meeting (numbered 0 filter.criteria) (filter.criteria.map Assignment.value) rows).map Tree.ofRow
      = (rows.map Tree.ofRow).filter filter.accepts := by
  rw [List.filter_map, meeting]
  refine congrArg (List.map Tree.ofRow) (List.filter_congr fun row hrow => ?_)
  exact (all_numbered row [] filter.criteria).trans (all_criteria (hrows row hrow) filter)

/-- The condition of the page is met by all rows. -/
theorem meeting_conditions (params : List Value) (rows : List Row) :
    meeting (conditions filter) params rows = meeting (numbered 0 filter.criteria) params rows := by
  refine List.filter_congr fun row _ => ?_
  have halways : (if IsWhole filter then [] else [Condition.always]).all
      (Condition.holds params row) = true := by
    split <;> rfl
  rw [conditions, List.all_append, halways, Bool.and_true]

/-- Rows in the order of their codes are in order. -/
theorem byCode_eq (h : rows.Pairwise fun r s => Utf8.encode (rowCode r) ≤ Utf8.encode (rowCode s)) :
    byCode rows = rows :=
  h.insertionSort_eq

/-- Rows that are in the order of their codes are paged like the trees that they hold. -/
theorem map_page
    (h : rows.Pairwise fun r s => Utf8.encode (rowCode r) ≤ Utf8.encode (rowCode s)) :
    ((page filter).of rows).map Tree.ofRow = filter.paginate (rows.map Tree.ofRow) := by
  rw [page, paginate, ← List.map_drop]
  by_cases hwhole : IsWhole filter
  · rw [if_pos hwhole, if_pos hwhole.1, hwhole.2]
    rfl
  · rw [if_neg hwhole]
    by_cases hlimit : filter.limit = 0
    · rw [if_pos hlimit, if_pos hlimit]
      show ((byCode rows).drop filter.offset).map Tree.ofRow = _
      rw [byCode_eq h]
    · rw [if_neg hlimit, if_neg hlimit]
      show (((byCode rows).drop filter.offset).take filter.limit).map Tree.ofRow = _
      rw [byCode_eq h, List.map_take]

/-! ### The answers of the database -/

/-- The rows of a table hold trees, in the order of their codes. -/
structure Lists (rows : List Row) (trees : List Tree) : Prop where
  holds : List.Forall₂ Row.Holds rows trees
  codes : trees.Pairwise fun s t => Utf8.encode s.code < Utf8.encode t.code

theorem Lists.map_ofRow (h : Lists rows trees) : rows.map Tree.ofRow = trees := by
  have hholds := h.holds
  clear h
  induction hholds with
  | nil => rfl
  | cons hrow _ ih => rw [List.map_cons, Tree.ofRow_of_holds hrow, ih]

theorem Lists.holds_ofRow (h : Lists rows trees) : ∀ row ∈ rows, row.Holds (Tree.ofRow row) := by
  have hholds := h.holds
  clear h
  induction hholds with
  | nil => exact fun row hrow => absurd hrow List.not_mem_nil
  | cons hrow _ ih =>
    intro row hmem
    rcases List.mem_cons.mp hmem with rfl | hmem
    · rwa [Tree.ofRow_of_holds hrow]
    · exact ih row hmem

theorem rowCode_of_holds {row : Row} {tree : Tree} (h : row.Holds tree) : rowCode row = tree.code := by
  have hcode : row.said "code" = .text tree.code :=
    h (_, .text tree.code) (by simp [Tree.columns, Tree.values])
  rw [rowCode, hcode]

theorem Lists.pairwise (h : Lists rows trees) :
    rows.Pairwise fun r s => Utf8.encode (rowCode r) ≤ Utf8.encode (rowCode s) := by
  have hcodes := h.codes
  rw [← h.map_ofRow, List.pairwise_map] at hcodes
  refine hcodes.imp_of_mem fun {r s} hr hs hlt => ?_
  rw [rowCode_of_holds (h.holds_ofRow r hr), rowCode_of_holds (h.holds_ofRow s hs)]
  exact List.le_of_lt hlt

/-- The answer to the query for a list holds the selected trees. -/
theorem evaluate?_list (h : Lists rows trees) :
    ∃ answer, evaluate? rows ⟨joinWith " " (listWords filter), filter.criteria.map Assignment.value⟩
        = some answer ∧ answer.map Tree.ofRow = filter.selected trees := by
  refine ⟨_, congrArg (Option.map _) (read?_list filter), ?_⟩
  have hmeeting := h.pairwise.filter fun row =>
    (numbered 0 filter.criteria).all (Condition.holds (filter.criteria.map Assignment.value) row)
  show ((page filter).of (meeting (conditions filter) _ rows)).map Tree.ofRow = _
  rw [meeting_conditions, meeting, map_page filter hmeeting, ← meeting,
    map_meeting filter h.holds_ofRow, h.map_ofRow, paginate_accepts]

section Operations

variable {σ : Type} (executor : Executor σ) (session : Session σ) (h : Lists rows trees)
  (hdatabase : Evaluates executor.backend session.state rows)

include h hdatabase

/-- The store lists the selected trees. -/
theorem runIn_findAll : (session.runIn (findAll executor filter)).1 = .ok (filter.selected trees) := by
  obtain ⟨answer, hanswer, hselected⟩ := evaluate?_list filter h
  obtain ⟨cursor, hquery, hremaining⟩ := hdatabase.query _ _ hanswer
  have hcollect : cursor.collect = .ok answer := by
    rw [Cursor.collect_eq, hremaining, Cursor.mapM_rows]
  obtain ⟨behind, hselect⟩ : ∃ behind, session.runIn
      (executor.select Tree.table "*" (listCondition filter)) = (.ok cursor, behind) := by
    rw [Executor.select, Executor.query, Executor.prepareFor, prepare_list, pure_bind,
      Session.runIn_call, hquery]
    exact ⟨_, rfl⟩
  rw [findAll, Session.runIn_bind_ok _ hselect]
  simp only [hcollect]
  exact congrArg Except.ok hselected

/-- The store counts the trees that meet one criterion. -/
theorem runIn_count {criterion : TreeFilter} {name : String} {value : Value}
    (hname : name ∈ Tree.columns) (hcriterion : criterion.criteria = [⟨name, value⟩]) :
    (session.runIn (executor.count Tree.table (some (.eq name value)))).1
      = .ok (Remote.countOf (trees.filter criterion.accepts).length) := by
  have hmeeting : (meeting [.equals name 1] [value] rows).map Tree.ofRow
      = trees.filter criterion.accepts := by
    have hlist := map_meeting criterion h.holds_ofRow
    rw [hcriterion, h.map_ofRow] at hlist
    exact hlist
  have hanswer : evaluate? rows ⟨joinWith " " ["SELECT", "COUNT(*)", "FROM", "trees", "WHERE",
      name ++ "=" ++ placeholder 1], [value]⟩
        = some [countRow (trees.filter criterion.accepts).length] := by
    rw [← hmeeting, List.length_map]
    exact congrArg (Option.map _) (read?_count hname)
  have hrow := hdatabase.queryRow _ _ hanswer
  rw [Executor.count, Executor.prepareFor, prepare_count _ hname, pure_bind,
    Session.runIn_bind, Session.runIn_call, hrow]
  rfl

end Operations

end Relational

/-! ### The remote store -/

namespace Remote

variable {τ : Type} {engine : Engine τ} {state : τ} {trees : List Tree} {filter : TreeFilter}

/-- In one of its states an engine answers selects with records of trees. It may do without the
condition of a select, or leave out trees that do not meet it. -/
def Supplies (engine : Engine τ) (state : τ) (trees : List Tree) : Prop :=
  ∀ filter : TreeFilter, ∃ data records,
    (engine.query (Statement.select Tree.table "*" filter.predicate?).text state).1 = .ok data ∧
      parseRecords data = .ok records ∧
      (records.map Tree.ofRecord).filter filter.accepts = trees.filter filter.accepts

theorem validate_criteria (filter : TreeFilter) :
    (Statement.select Tree.table "*" filter.predicate?).validate = .ok () := by
  have hlist : Relational.listCondition { filter with limit := 0, offset := 0 }
      = filter.predicate? := by
    rw [Relational.listCondition]
    show Predicate.all? (filter.predicate?.toList ++ []) = filter.predicate?
    cases filter.predicate? <;> rfl
  rw [← hlist]
  exact Relational.validate_list _

/-- The trees of the records are, as far as they meet the criteria, the trees of the engine. -/
theorem Supplies.answers (h : Supplies engine state trees) (filter : TreeFilter) :
    ∃ records, Answers engine state (.select Tree.table "*" filter.predicate?) records ∧
      (records.map Tree.ofRecord).filter filter.accepts = trees.filter filter.accepts := by
  obtain ⟨data, records, hanswer, hparse, hsame⟩ := h filter
  exact ⟨records, ⟨data, hanswer, hparse⟩, hsame⟩

/-- The store lists the selected trees. -/
theorem runFrom_findAll (h : Supplies engine state trees) (filter : TreeFilter) :
    (runFrom state (findAll engine filter)).1 = .ok (filter.selected trees) := by
  obtain ⟨records, hanswers, hsame⟩ := h.answers {}
  have hall (l : List Tree) : l.filter (TreeFilter.accepts {}) = l :=
    List.filter_eq_self.mpr fun _ _ => rfl
  rw [hall, hall] at hsame
  rw [runFrom_findAll_of_answers filter hanswers, hsame]

/-- The remote store counts the records that it has fetched and that meet the filter. -/
theorem runFrom_countMatching (h : Supplies engine state trees) (filter : TreeFilter) :
    (runFrom state (countMatching engine filter)).1
      = .ok (countOf (trees.filter filter.accepts).length) := by
  obtain ⟨records, hanswers, hsame⟩ := h.answers filter
  rw [runFrom_countMatching_of_answers (validate_criteria filter) hanswers, hsame]

end Remote

/-! ### Both stores -/

section Agreement

variable {σ τ : Type} {rows : List Row} {trees : List Tree}

/-- Both stores count the trees that a criterion without a page selects. -/
def CountAlike (session : Session σ) (state : τ) (trees : List Tree) (criterion : TreeFilter)
    (relational : SessionM σ Int64) (remote : EngineM τ Int64) : Prop :=
  ∃ count, (session.runIn relational).1 = .ok count ∧ (Remote.runFrom state remote).1 = .ok count ∧
    ((criterion.selected trees).length < 2 ^ 63 → count.toInt = (criterion.selected trees).length)

/-- Without a page, counting the trees that meet the criteria is counting the selected ones. -/
theorem countAlike {session : Session σ} {state : τ} {criterion : TreeFilter}
    {relational : SessionM σ Int64} {remote : EngineM τ Int64}
    (hlimit : criterion.limit = 0) (hoffset : criterion.offset = 0)
    (hrelational : (session.runIn relational).1
      = .ok (Remote.countOf (trees.filter criterion.accepts).length))
    (hremote : (Remote.runFrom state remote).1
      = .ok (Remote.countOf (trees.filter criterion.accepts).length)) :
    CountAlike session state trees criterion relational remote := by
  have hselected : criterion.selected trees = trees.filter criterion.accepts := by
    rw [← paginate_accepts, paginate, if_pos hlimit, hoffset, List.drop_zero]
  rw [← hselected] at hrelational hremote
  exact ⟨_, hrelational, hremote, Remote.toInt_countOf⟩

/-- Over the same trees, in the ascending order of their codes, both stores list the trees that meet
the criteria, from the offset on and no more than the limit, and both count the trees of a location
or a status as the list without a page has them. The relational store asks a database for this, with
values as parameters; the remote store selects among the trees that the engine answers with. -/
theorem stores_agree (executor : Executor σ) (session : Session σ) (engine : Engine τ) (state : τ)
    (hrows : List.Forall₂ Row.Holds rows trees)
    (hcodes : trees.Pairwise fun s t => Utf8.encode s.code < Utf8.encode t.code)
    (hdatabase : Relational.Evaluates executor.backend session.state rows)
    (hengine : Remote.Supplies engine state trees) :
    let relational := Relational.store executor
    let remote := Remote.store engine
    (∀ filter : TreeFilter,
      (session.runIn (relational.findAll filter)).1 = .ok (filter.selected trees) ∧
      (Remote.runFrom state (remote.findAll filter)).1 = .ok (filter.selected trees)) ∧
    (∀ location, CountAlike session state trees { locationId := some location }
      (relational.countByLocation location) (remote.countByLocation location)) ∧
    (∀ status, CountAlike session state trees { status := some status }
      (relational.countByStatus status) (remote.countByStatus status)) := by
  intro relational remote
  have hlists : Relational.Lists rows trees := ⟨hrows, hcodes⟩
  refine ⟨fun filter => ⟨?_, ?_⟩, fun location => ?_, fun status => ?_⟩
  · exact Relational.runIn_findAll filter executor session hlists hdatabase
  · exact Remote.runFrom_findAll hengine filter
  · exact countAlike rfl rfl
      (Relational.runIn_count executor session hlists hdatabase (by simp [Tree.columns]) rfl)
      (Remote.runFrom_countMatching hengine _)
  · exact countAlike rfl rfl
      (Relational.runIn_count executor session hlists hdatabase (by simp [Tree.columns]) rfl)
      (Remote.runFrom_countMatching hengine _)

end Agreement

theorem supplies_recordsEngine (records : List Record) :
    Remote.Supplies recordsEngine records (records.map Tree.ofRecord) := fun _ =>
  ⟨.array (records.map .object), records, rfl, recordsOf_objects records, rfl⟩

/-- Two of three trees stand at a location without a name, and one of these has no status. Behind the
first of the two, the list has the other one. -/
theorem stores_agree_page :
    let first : Tree := { id := "T1", code := "C001", locationId := "L1", status := some .sick }
    let second : Tree := { id := "T2", code := "C002", status := some .sick }
    let third : Tree := { id := "T3", code := "C010" }
    let trees := [first, second, third]
    let rows := trees.map fun tree => Row.ofPairs (Tree.columns.zip tree.values)
    let records : List Record := trees.map fun tree =>
      [("code", .string tree.code), ("id", .string tree.id), ("location_id", .string tree.locationId),
        ("status", .string ((tree.status.map Status.name).getD ""))]
    let filter : TreeFilter := { locationId := some "", limit := 2, offset := 1 }
    let session : Session (List Row) := ⟨rows, []⟩
    (session.runIn ((Relational.store ⟨Relational.database, .strict⟩).findAll filter)).1 = .ok [third] ∧
      (Remote.runFrom records ((Remote.store recordsEngine).findAll filter)).1 = .ok [third] := by
  intro first second third trees rows records filter session
  have hrows : List.Forall₂ Row.Holds rows trees :=
    List.forall₂_map_left_iff.mpr
      (List.forall₂_same.mpr fun tree _ => (Tree.stores_zip tree).holds)
  have hcodes : trees.Pairwise fun s t => Utf8.encode s.code < Utf8.encode t.code := by
    decide +kernel
  have hrecords : records.map Tree.ofRecord = trees := by
    decide +kernel
  have hengine := supplies_recordsEngine records
  rw [hrecords] at hengine
  have hagree := stores_agree ⟨Relational.database, .strict⟩ session recordsEngine records hrows hcodes
    (Relational.evaluates_database rows) hengine
  have hselected : filter.selected trees = [third] := by decide +kernel
  rw [← hselected]
  exact hagree.1 filter

end AqlGateway
