import AqlGateway.Proofs.Aql.Preparation

/-!
# Values stay out of the SQL

Two statements have the same shape when they differ in their values only.

* `Predicate.SameShape`, `Statement.SameShape` — the same shape, one rule for each constructor;
* `Statement.SameShape.validate_eq`, `Statement.SameShape.numberedText_eq` — statements of the same
  shape pass or fail the same checks, and have the same text with placeholders;
* `prepare_eq_map` — the SQL of a statement is made from that text, and the values are put beside it;
* `prepare_sameShape` — whatever the values are, the SQL or the error is the same.
-/

namespace AqlGateway.Aql

/-! ### Shapes -/

/-- Two predicates that differ in the values of their equalities only. -/
inductive Predicate.SameShape : Predicate → Predicate → Prop
  | eq {column : String} {v w : Value} : SameShape (.eq column v) (.eq column w)
  | and {l₁ l₂ r₁ r₂ : Predicate} :
      SameShape l₁ l₂ → SameShape r₁ r₂ → SameShape (.and l₁ r₁) (.and l₂ r₂)
  | raw {text : String} : SameShape (.raw text) (.raw text)

/-- Two statements that differ in their values only, and have as many of them. -/
inductive Statement.SameShape : Statement → Statement → Prop
  | createTable {name columns : String} :
      SameShape (.createTable name columns) (.createTable name columns)
  | insert {table : String} {columns : List String} {v w : List Value} :
      v.length = w.length → SameShape (.insert table columns v) (.insert table columns w)
  | select {table columns : String} {f g : Option Predicate} :
      Option.Rel Predicate.SameShape f g →
      SameShape (.select table columns f) (.select table columns g)
  | update {table : String} {a b : List Assignment} {f g : Option Predicate} :
      a.map Assignment.column = b.map Assignment.column → Option.Rel Predicate.SameShape f g →
      SameShape (.update table a f) (.update table b g)
  | delete {table : String} {f g : Option Predicate} :
      Option.Rel Predicate.SameShape f g → SameShape (.delete table f) (.delete table g)
  | dropTable {name : String} : SameShape (.dropTable name) (.dropTable name)
  | listTables : SameShape .listTables .listTables
  | count {table : String} {f g : Option Predicate} :
      Option.Rel Predicate.SameShape f g → SameShape (.count table f) (.count table g)

/-! ### Predicates of the same shape -/

namespace Predicate.SameShape

variable {p q : Predicate}

theorem length_values (h : p.SameShape q) : p.values.length = q.values.length := by
  induction h with
  | eq => rfl
  | and _ _ ihl ihr => rw [values, values, List.length_append, List.length_append, ihl, ihr]
  | raw => rfl

theorem columns_eq (h : p.SameShape q) : p.columns = q.columns := by
  induction h with
  | eq => rfl
  | and _ _ ihl ihr => rw [columns, columns, ihl, ihr]
  | raw => rfl

/-- The leaves are numbered alike: behind a left side stand as many values in both. -/
theorem leafTexts_eq (h : p.SameShape q) (n : Nat) : p.leafTexts n = q.leafTexts n := by
  induction h generalizing n with
  | eq => rfl
  | and hl _ ihl ihr => rw [leafTexts, leafTexts, ihl, hl.length_values, ihr]
  | raw => rfl

theorem numberedText_eq (h : p.SameShape q) (n : Nat) : p.numberedText n = q.numberedText n := by
  rw [numberedText, numberedText, h.leafTexts_eq]

end Predicate.SameShape

section Filters

variable {f g : Option Predicate}

theorem filterColumns_eq (h : Option.Rel Predicate.SameShape f g) :
    f.map Predicate.columns = g.map Predicate.columns := by
  cases h with
  | none => rfl
  | some h => rw [Option.map_some, Option.map_some, h.columns_eq]

theorem filterText_eq (h : Option.Rel Predicate.SameShape f g) (n : Nat) :
    f.map (Predicate.numberedText n) = g.map (Predicate.numberedText n) := by
  cases h with
  | none => rfl
  | some h => rw [Option.map_some, Option.map_some, h.numberedText_eq]

end Filters

/-- The text of assignments of placeholders depends on their columns only. -/
theorem assignmentTexts_eq {a b : List Assignment} (n : Nat)
    (h : a.map Assignment.column = b.map Assignment.column) :
    assignmentTexts n a = assignmentTexts n b := by
  induction a generalizing b n with
  | nil =>
    have hb : b = [] := List.map_eq_nil_iff.mp h.symm
    rw [hb]
  | cons x a ih =>
    cases b with
    | nil => exact absurd h (by simp)
    | cons y b =>
      rw [List.map_cons, List.map_cons, List.cons.injEq] at h
      rw [assignmentTexts, assignmentTexts, h.1, ih (n + 1) h.2]

/-! ### Statements of the same shape -/

namespace Statement.SameShape

variable {s t : Statement}

/-- Statements of the same shape are checked alike, and fail for the same reason. -/
theorem validate_eq (h : s.SameShape t) : s.validate = t.validate := by
  have checks (htable : s.table? = t.table?) (hshape : s.validateShape = t.validateShape)
      (hcolumns : s.columnNames = t.columnNames) : s.validate = t.validate := by
    rw [validate, validate, htable, hshape, hcolumns]
  cases h with
  | insert hlength =>
    refine checks rfl ?_ rfl
    rw [validateShape, validateShape, hlength]
  | select hf => exact checks rfl rfl (congrArg (Option.getD · []) (filterColumns_eq hf))
  | update hcolumns hf =>
    refine checks rfl rfl ?_
    rw [columnNames, columnNames, hcolumns, filterColumns_eq hf]
  | delete hf => exact checks rfl rfl (congrArg (Option.getD · []) (filterColumns_eq hf))
  | count hf => exact checks rfl rfl (congrArg (Option.getD · []) (filterColumns_eq hf))
  | createTable => rfl
  | dropTable => rfl
  | listTables => rfl

/-- Statements of the same shape have the same text with placeholders. -/
theorem numberedText_eq (h : s.SameShape t) : s.numberedText = t.numberedText := by
  cases h with
  | insert hlength => rw [numberedText, numberedText, hlength]
  | @select table columns f g hf =>
    exact congrArg (Template.select table columns) (filterText_eq hf 0)
  | @update table a b f g hcolumns hf =>
    have hlength : (a.map Assignment.value).length = (b.map Assignment.value).length := by
      have := congrArg List.length hcolumns
      rwa [List.length_map, List.length_map] at this ⊢
    rw [numberedText, numberedText, assignmentTexts_eq 0 hcolumns]
    refine congrArg (Template.update table _) ?_
    show f.map (Predicate.numberedText (a.map Assignment.value).length)
      = g.map (Predicate.numberedText (b.map Assignment.value).length)
    rw [hlength, filterText_eq hf]
  | @delete table f g hf => exact congrArg (Template.delete table) (filterText_eq hf 0)
  | @count table f g hf => exact congrArg (Template.count table) (filterText_eq hf 0)
  | createTable => rfl
  | dropTable => rfl
  | listTables => rfl

end Statement.SameShape

/-! ### Preparing statements of the same shape -/

/-- A statement is checked, its text with placeholders is translated, and its values are put beside
the SQL. -/
theorem prepare_eq_map (mode : Mode) (statement : Statement) :
    prepare mode statement
      = (statement.validate >>= fun _ => toSql mode statement.numberedText).map
          (BoundQuery.mk · statement.params) := by
  rw [prepare, statement.template_eq]
  cases statement.validate with
  | error e => rfl
  | ok u =>
    show (toSql mode statement.numberedText >>= fun sql => _) = (toSql mode _).map _
    cases toSql mode statement.numberedText <;> rfl

/-- The SQL depends on the checks and on the numbered text alone. -/
theorem map_sql_prepare (mode : Mode) (statement : Statement) :
    (prepare mode statement).map BoundQuery.sql
      = (statement.validate >>= fun _ => toSql mode statement.numberedText) := by
  rw [prepare_eq_map]
  cases statement.validate >>= fun _ => toSql mode statement.numberedText <;> rfl

/-- The parameters are the values of the statement itself. -/
theorem params_of_prepare {mode : Mode} {statement : Statement} {q : BoundQuery}
    (h : prepare mode statement = .ok q) : q.params = statement.params := by
  obtain ⟨-, sql, -, rfl⟩ := prepare_eq_ok_iff.mp h
  rfl

/-- Two statements that differ in their values only are prepared as the same SQL, or refused with the
same error; the parameters of each are its own values, those of the insert or the assignments first
and then those of the filter from left to right. -/
theorem prepare_sameShape (mode : Mode) {s t : Statement} (h : s.SameShape t) :
    (prepare mode s).map BoundQuery.sql = (prepare mode t).map BoundQuery.sql ∧
      (∀ q, prepare mode s = .ok q → q.params = s.params) ∧
      ∀ q, prepare mode t = .ok q → q.params = t.params := by
  refine ⟨?_, fun q hq => params_of_prepare hq, fun q hq => params_of_prepare hq⟩
  rw [map_sql_prepare, map_sql_prepare, h.validate_eq, h.numberedText_eq]

/-- Quotes, keywords, a placeholder and a second statement in the values change nothing. -/
theorem prepare_sameShape_update :
    let plain : Statement := .update "trees" [⟨"notes", .text "x"⟩, ⟨"age", .null⟩]
      (some (.and (.eq "code" (.integer 7)) (.raw "age > 3")))
    let other : Statement := .update "trees" [⟨"notes", .text "' DIMANA 1=1; --"⟩, ⟨"age", .boolean true⟩]
      (some (.and (.eq "code" (.text "$1")) (.raw "age > 3")))
    plain.SameShape other ∧
      (prepare .strict plain).map BoundQuery.sql
        = .ok "UPDATE trees SET notes=$1, age=$2 WHERE code=$3 AND age > 3" ∧
      (prepare .strict plain).map BoundQuery.sql = (prepare .strict other).map BoundQuery.sql ∧
      (∀ q, prepare .strict plain = .ok q → q.params = [.text "x", .null, .integer 7]) ∧
      ∀ q, prepare .strict other = .ok q →
        q.params = [.text "' DIMANA 1=1; --", .boolean true, .text "$1"] := by
  intro plain other
  have hshape : plain.SameShape other := .update rfl (.some (.and .eq .raw))
  exact ⟨hshape, by decide +kernel, prepare_sameShape .strict hshape⟩

end AqlGateway.Aql
