import AqlGateway.Proofs.Aql.ColumnList
import AqlGateway.Proofs.Aql.Preparation

/-!
# Checked names

The checks of names and of column lists accept what their rules say and nothing more. So nothing that a
statement writes into its text as a name can end a literal, begin another statement or begin a comment.

* `IsColumnList`, `FirstStray` — the rule for column lists, and the item that a list fails with;
* `validateColumns_ok_iff`, `validateColumns_error_iff` — the check follows the rule;
* `Statement.Names` — the names that a statement writes into its text; `isName_of_names` — they are
  names when the statement is checked;
* `Statement.Unmarked`, `unmarked_of_validate` — so no mark is in them, and none is in a column list;
* `names_checked` — all of this together.
-/

namespace AqlGateway.Aql

open Text

/-! ### Column lists -/

/-- The rule for a column list: the star, `COUNT(*)` in any case, or names between commas and blanks. -/
def IsColumnList (columns : String) : Prop :=
  trim columns.toList = ['*'] ∨ (trim columns.toList).map Char.toUpper = "COUNT(*)".toList ∨
    ∃ items, SplitsInto ',' (trim columns.toList) items ∧ ∀ item ∈ items, IsName (trim item)

/-- An item of a column list, without its blanks, is the first one that is no name. -/
def FirstStray (columns : String) (stray : List Char) : Prop :=
  trim columns.toList ≠ ['*'] ∧ (trim columns.toList).map Char.toUpper ≠ "COUNT(*)".toList ∧
    ∃ before item after, SplitsInto ',' (trim columns.toList) (before ++ item :: after) ∧
      (∀ earlier ∈ before, IsName (trim earlier)) ∧ ¬ IsName (trim item) ∧ stray = trim item

variable {columns : String}

theorem isIdentifier_ofList_iff {name : List Char} :
    isIdentifier (String.ofList name) = true ↔ IsName name := by
  rw [isIdentifier_iff, String.toList_ofList]

/-- The items of a list are identifiers when its pieces are names between blanks. -/
theorem isIdentifier_items_iff {pieces : List (List Char)} :
    (∀ t ∈ pieces.map fun item => String.ofList (trim item), isIdentifier t = true) ↔
      ∀ item ∈ pieces, IsName (trim item) := by
  simp only [List.forall_mem_map, isIdentifier_ofList_iff]

/-- The check accepts the lists that follow the rule. -/
theorem validateColumns_ok_iff : validateColumns columns = .ok () ↔ IsColumnList columns := by
  rw [validateColumns_eq_ok_iff, isWholeRow_iff, IsColumnList, or_assoc, listItems,
    isIdentifier_items_iff]
  refine or_congr_right (or_congr_right ?_)
  constructor
  · intro h
    exact ⟨_, splitOn_eq_iff.mp rfl, h⟩
  · rintro ⟨items, hitems, h⟩
    rw [splitOn_eq_iff.mpr hitems]
    exact h

/-- It fails with the first stray item of any other list. -/
theorem validateColumns_error_iff {e : Error} :
    validateColumns columns = .error e ↔
      ∃ stray, FirstStray columns stray ∧ e = .invalidIdentifier (String.ofList stray) := by
  rw [validateColumns_eq_error_iff, ← Bool.not_eq_true, isWholeRow_iff, not_or, listItems]
  constructor
  · rintro ⟨⟨hstar, hcount⟩, before, item, after, hsplit, hbefore, hitem, rfl⟩
    -- The items of the list are trimmed pieces, so the pieces are taken apart as the items are.
    obtain ⟨front, behind, hpieces, rfl, hbehind⟩ := List.map_eq_append_iff.mp hsplit
    obtain ⟨piece, later, rfl, rfl, rfl⟩ := List.map_eq_cons_iff.mp hbehind
    refine ⟨trim piece, ⟨hstar, hcount, front, piece, later, splitOn_eq_iff.mp hpieces, ?_, ?_, rfl⟩,
      rfl⟩
    · exact isIdentifier_items_iff.mp hbefore
    · rw [← isIdentifier_ofList_iff, hitem]
      exact Bool.false_ne_true
  · rintro ⟨_, ⟨hstar, hcount, before, item, after, hpieces, hbefore, hitem, rfl⟩, rfl⟩
    rw [splitOn_eq_iff.mpr hpieces]
    refine ⟨⟨hstar, hcount⟩, _, _, _, List.map_append, isIdentifier_items_iff.mpr hbefore, ?_, rfl⟩
    rw [← Bool.not_eq_true, isIdentifier_ofList_iff]
    exact hitem

/-! ### Marks -/

/-- The quotes, the semicolon, and what comments begin with. -/
def marks : List Char := ['\'', '"', ';', '-', '/', '#']

def parentheses : List Char := ['(', ')']

theorem isWordChar_mark {c : Char} (hc : c ∈ marks ++ parentheses) : isWordChar c = false := by
  have hall : (marks ++ parentheses).all (fun c => !isWordChar c) = true := by decide
  simpa using List.all_eq_true.mp hall c hc

/-- No name has a mark or a parenthesis. -/
theorem IsName.notMem_marks {name : List Char} (h : IsName name) :
    ∀ c ∈ marks ++ parentheses, c ∉ name := fun _ hc => h.notMem (isWordChar_mark hc)

/-- No column list has a mark, not even `COUNT(*)`. -/
theorem notMem_columns_marks (h : validateColumns columns = .ok ()) :
    ∀ c ∈ marks, c ∉ columns.toList := by
  intro c hc
  have hall : marks.all (fun c => !isBlank c && c != ','
      && !("COUNT(*)".toList.contains c.toUpper)) = true := by decide
  have hmark := List.all_eq_true.mp hall c hc
  simp only [Bool.and_eq_true, Bool.not_eq_true', bne_iff_ne, List.contains_eq_mem,
    decide_eq_false_iff_not] at hmark
  exact notMem_columns h hmark.1.1 (isWordChar_mark (List.mem_append_left _ hc)) hmark.1.2 hmark.2

/-- Only `COUNT(*)` has parentheses. -/
theorem notMem_columns_parentheses (h : validateColumns columns = .ok ())
    (hcount : (trim columns.toList).map Char.toUpper ≠ "COUNT(*)".toList) :
    ∀ c ∈ parentheses, c ∉ columns.toList := by
  intro c hc hmem
  have hall : parentheses.all (fun c => !isBlank c && c != ',' && c != '*') = true := by decide
  have hmark := List.all_eq_true.mp hall c hc
  simp only [Bool.and_eq_true, Bool.not_eq_true', bne_iff_ne] at hmark
  rcases mem_columns h hmem hmark.1.1 with ⟨hrow, htrim⟩ | hword | hcomma
  · rcases isWholeRow_iff.mp hrow with hstar | hall
    · rw [hstar, List.mem_singleton] at htrim
      exact hmark.2 htrim
    · exact hcount hall
  · rw [isWordChar_mark (List.mem_append_right _ hc)] at hword
    exact absurd hword (by simp)
  · exact hmark.1.2 hcomma

/-! ### Checked statements -/

/-- The columns of equalities are those that are checked. -/
theorem Predicate.mem_columns_of_eq {p : Predicate} {column : String} {value : Value}
    (h : .eq column value ∈ p.leaves) : column ∈ p.columns := by
  induction p with
  | eq column' value' =>
    obtain ⟨rfl, -⟩ := Predicate.eq.inj (List.mem_singleton.mp h)
    exact List.mem_singleton_self column
  | and left right ihl ihr =>
    rcases List.mem_append.mp h with h | h
    · exact List.mem_append_left _ (ihl h)
    · exact List.mem_append_right _ (ihr h)
  | raw text => exact absurd (List.mem_singleton.mp h) (by simp)

namespace Statement

/-- The names that a statement writes into its text, other than those of a column list. -/
inductive Names : Statement → String → Prop
  | table {statement : Statement} {name : String} : statement.table? = some name →
      Names statement name
  | inserted {table : String} {columns : List String} {values : List Value} {name : String} :
      name ∈ columns → Names (.insert table columns values) name
  | assigned {table : String} {assignments : List Assignment} {filter : Option Predicate}
      {a : Assignment} : a ∈ assignments → Names (.update table assignments filter) a.column
  | compared {statement : Statement} {p : Predicate} {column : String} {value : Value} :
      statement.filter? = some p → .eq column value ∈ p.leaves → Names statement column

/-- No mark and no parenthesis is written into a statement as a name or with its column list, but those
of `COUNT(*)`. -/
structure Unmarked (statement : Statement) : Prop where
  names : ∀ name, statement.Names name → ∀ c ∈ marks ++ parentheses, c ∉ name.toList
  list : ∀ table columns filter, statement = .select table columns filter →
    (∀ c ∈ marks, c ∉ columns.toList) ∧
      ((trim columns.toList).map Char.toUpper ≠ "COUNT(*)".toList →
        ∀ c ∈ parentheses, c ∉ columns.toList)

variable {statement : Statement} {name : String}

theorem mem_columnNames_of_filter {p : Predicate} {column : String}
    (hfilter : statement.filter? = some p) (hcolumn : column ∈ p.columns) :
    column ∈ statement.columnNames := by
  have hcolumns : column ∈ (statement.filter?.map Predicate.columns).getD [] := by
    rw [hfilter]
    exact hcolumn
  cases statement with
  | insert table columns values => exact absurd hfilter (by simp [filter?])
  | update table assignments filter => exact List.mem_append_right _ hcolumns
  | _ => exact hcolumns

/-- What a checked statement writes as a name is one. -/
theorem isName_of_names (h : statement.validate = .ok ()) (hname : statement.Names name) :
    IsName name.toList := by
  obtain ⟨-, -, hcolumns⟩ := validate_eq_ok_iff.mp h
  cases hname with
  | table htable => exact isName_of_validate h htable
  | inserted hmem => exact isIdentifier_iff.mp (hcolumns name hmem)
  | assigned hmem =>
    exact isIdentifier_iff.mp (hcolumns _ (List.mem_append_left _ (List.mem_map_of_mem hmem)))
  | compared hfilter hleaf =>
    have hcolumn := Predicate.mem_columns_of_eq hleaf
    exact isIdentifier_iff.mp (hcolumns name (mem_columnNames_of_filter hfilter hcolumn))

theorem unmarked_of_validate (h : statement.validate = .ok ()) : statement.Unmarked where
  names name hname := (isName_of_names h hname).notMem_marks
  list table columns filter hselect := by
    subst hselect
    have hlist : validateColumns columns = .ok () := (validate_eq_ok_iff.mp h).2.1
    exact ⟨notMem_columns_marks hlist, notMem_columns_parentheses hlist⟩

end Statement

/-- A text begins with an identifier where it begins with a letter or an underscore, and the identifier
is the longest run of word characters there. A whole text is an identifier, and a column list is
accepted, exactly when it follows its rule; another list fails with its first item that is no identifier.
So a checked statement has no quote, semicolon, parenthesis or comment where a name should stand. -/
theorem names_checked :
    (∀ s : List Char, identifier? s = if s.head?.any isNameStart then
      some (s.takeWhile isWordChar, s.dropWhile isWordChar) else none) ∧
      (∀ name : String, isIdentifier name = true ↔ IsName name.toList) ∧
      (∀ columns : String,
        (validateColumns columns = .ok () ↔ IsColumnList columns) ∧
        ∀ e, validateColumns columns = .error e ↔
          ∃ stray, FirstStray columns stray ∧ e = .invalidIdentifier (String.ofList stray)) ∧
      ∀ statement : Statement, statement.validate = .ok () → statement.Unmarked := by
  refine ⟨identifier?_eq, fun name => isIdentifier_iff, fun columns => ?_, fun statement h => ?_⟩
  · exact ⟨validateColumns_ok_iff, fun e => validateColumns_error_iff⟩
  · exact Statement.unmarked_of_validate h

/-- A checked statement that reads two columns under a condition. -/
theorem names_checked_select :
    let filter := Predicate.and (.raw "health_score < 50") (.eq "location_id" (.text "L1'--"))
    let statement := Statement.select "trees" " id,\tcode " (some filter)
    statement.validate = .ok () ∧ statement.Names "location_id" ∧
      (∀ c ∈ marks ++ parentheses, c ∉ "location_id".toList) ∧
      ∀ c ∈ parentheses, c ∉ " id,\tcode ".toList := by
  intro filter statement
  have hvalid : statement.validate = .ok () := by decide
  have hleaf : Predicate.eq "location_id" (.text "L1'--") ∈ filter.leaves := by decide
  have hname : statement.Names "location_id" := .compared rfl hleaf
  obtain ⟨-, -, -, hchecked⟩ := names_checked
  have hunmarked := hchecked statement hvalid
  exact ⟨hvalid, hname, hunmarked.names _ hname,
    (hunmarked.list "trees" " id,\tcode " (some filter) rfl).2 (by decide)⟩

end AqlGateway.Aql
