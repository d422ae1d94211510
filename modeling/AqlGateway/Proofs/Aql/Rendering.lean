import AqlGateway.Aql.Statement
import AqlGateway.Proofs.Text.Join

/-!
# Numbered placeholders

Rendering passes the collected values along. Here the texts are written down at once: each
placeholder has the number of the values in front of it, plus one.

* `placeholder`, `placeholders`, `assignmentTexts`, `Predicate.leafTexts` — the texts, numbered
  from a given count on;
* `Statement.params`, `Statement.conditionText?` — the values of a statement, and its condition;
* `Statement.numberedText` — the text of a statement; `Statement.textOf` — with other texts for its
  values and its condition;
* `Predicate.render_run`, `renderValues_run`, `Statement.renderAssignments_run` — rendering writes these
  texts and collects these values;
* `Statement.template_eq` — so it does with whole statements.
-/

namespace AqlGateway.Aql

open Text

/-! ### The texts -/

def placeholder (n : Nat) : String := "$" ++ toString n

theorem toList_placeholder (n : Nat) : (placeholder n).toList = '$' :: Nat.toDigits 10 n := by
  rw [placeholder, String.toList_append, ← Nat.toList_repr]
  rfl

/-- `count` placeholders behind the first `n`. -/
def placeholders (n : Nat) : (count : Nat) → List String
  | 0 => []
  | count + 1 => placeholder (n + 1) :: placeholders (n + 1) count

/-- Assignments of placeholders behind the first `n`. -/
def assignmentTexts (n : Nat) : List Assignment → List String
  | [] => []
  | a :: rest => (a.column ++ "=" ++ placeholder (n + 1)) :: assignmentTexts (n + 1) rest

/-- The leaves of a predicate from left to right, with placeholders behind the first `n`. -/
def Predicate.leafTexts (n : Nat) : Predicate → List String
  | eq column _ => [column ++ "=" ++ placeholder (n + 1)]
  | and left right => left.leafTexts n ++ right.leafTexts (n + left.values.length)
  | raw text => [text]

def Predicate.numberedText (n : Nat) (p : Predicate) : String := joinWith " AND " (p.leafTexts n)

namespace Statement

/-- The values that stand in front of the condition. -/
def boundValues : Statement → List Value
  | insert _ _ values => values
  | update _ assignments _ => assignments.map Assignment.value
  | _ => []

/-- The values of a statement in the order of their placeholders. -/
def params (statement : Statement) : List Value :=
  statement.boundValues ++ (statement.filter?.map Predicate.values).getD []

def conditionText? (statement : Statement) : Option String :=
  statement.filter?.map (Predicate.numberedText statement.boundValues.length)

def numberedText : Statement → String
  | createTable name columns => Template.createTable name columns
  | insert table columns values => Template.insert table columns (placeholders 0 values.length)
  | select table columns filter =>
    Template.select table columns (select table columns filter).conditionText?
  | update table assignments filter =>
    Template.update table (joinWith ", " (assignmentTexts 0 assignments))
      (update table assignments filter).conditionText?
  | delete table filter => Template.delete table (delete table filter).conditionText?
  | dropTable name => Template.dropTable name
  | listTables => Template.listTables
  | count table filter => Template.count table (count table filter).conditionText?

/-- The texts of the values in front of the condition. -/
def boundTexts : Statement → List String
  | insert _ _ values => placeholders 0 values.length
  | update _ assignments _ => assignmentTexts 0 assignments
  | _ => []

/-- A statement with these texts for its values, and this condition. -/
def textOf (bound : List String) (condition : Option String) : Statement → String
  | createTable name columns => Template.createTable name columns
  | insert table columns _ => Template.insert table columns bound
  | select table columns _ => Template.select table columns condition
  | update table _ _ => Template.update table (joinWith ", " bound) condition
  | delete table _ => Template.delete table condition
  | dropTable name => Template.dropTable name
  | listTables => Template.listTables
  | count table _ => Template.count table condition

theorem numberedText_eq (statement : Statement) :
    statement.numberedText = statement.textOf statement.boundTexts statement.conditionText? := by
  cases statement <;> rfl

end Statement

/-! ### Rendering -/

variable {values : List Value}

/-- What is rendered later finds the values that were collected before. -/
theorem run_bind {α β : Type} (x : Render α) (f : α → Render β) :
    (x >>= f).run values = (f (x.run values).1).run (x.run values).2 :=
  rfl

/-- A placeholder has the number of its value among all that were collected. -/
theorem renderValue_run (value : Value) :
    (renderValue .placeholders value).run values
      = (placeholder (values.length + 1), values ++ [value]) := by
  show (placeholder (values ++ [value]).length, values ++ [value]) = _
  rw [List.length_append, List.length_singleton]

theorem renderValues_run (more : List Value) :
    (renderValues .placeholders more).run values
      = (placeholders values.length more.length, values ++ more) := by
  induction more generalizing values with
  | nil =>
    show ([], values) = ([], values ++ [])
    rw [List.append_nil]
  | cons value more ih =>
    rw [renderValues, run_bind, renderValue_run, run_bind, ih, List.length_append,
      List.append_assoc]
    rfl

theorem Statement.renderAssignments_run (assignments : List Assignment) :
    (Statement.renderAssignments .placeholders assignments).run values
      = (assignmentTexts values.length assignments,
          values ++ assignments.map Assignment.value) := by
  induction assignments generalizing values with
  | nil =>
    show ([], values) = ([], values ++ [])
    rw [List.append_nil]
  | cons a rest ih =>
    rw [renderAssignments, run_bind, renderValue_run, run_bind, ih, List.length_append,
      List.append_assoc]
    rfl

/-- No predicate is without leaves. -/
theorem Predicate.leafTexts_ne_nil (n : Nat) (p : Predicate) : p.leafTexts n ≠ [] := by
  induction p generalizing n with
  | eq column value => simp [leafTexts]
  | and left right ihl ihr => simp [leafTexts, ihl]
  | raw text => simp [leafTexts]

/-- A predicate is rendered as the conjunction of its leaves, and its values are collected from left
to right. -/
theorem Predicate.render_run (p : Predicate) :
    (p.render .placeholders).run values
      = (p.numberedText values.length, values ++ p.values) := by
  induction p generalizing values with
  | eq column value =>
    rw [render, run_bind, renderValue_run]
    rfl
  | and left right ihl ihr =>
    have hjoin : (left.and right).numberedText values.length = left.numberedText values.length
        ++ " AND " ++ right.numberedText (values.length + left.values.length) :=
      joinWith_append (left.leafTexts_ne_nil _) (right.leafTexts_ne_nil _)
    rw [render, run_bind, ihl, run_bind, ihr, List.length_append, List.append_assoc, hjoin]
    rfl
  | raw text =>
    show (text, values) = (text, values ++ [])
    rw [List.append_nil]

theorem Statement.renderFilter_run (filter : Option Predicate) :
    (Statement.renderFilter .placeholders filter).run values
      = (filter.map (Predicate.numberedText values.length),
          values ++ (filter.map Predicate.values).getD []) := by
  cases filter with
  | none =>
    show (none, values) = (none, values ++ [])
    rw [List.append_nil]
  | some p =>
    rw [renderFilter, run_bind, p.render_run]
    rfl

/-- The text of a statement with its placeholders, and its values in the same order. -/
theorem Statement.template_eq (statement : Statement) :
    statement.template = (statement.numberedText, statement.params) := by
  have bare (text : String) : (pure text : Render String).run [] = (text, []) := rfl
  cases statement with
  | createTable name columns => exact bare _
  | dropTable name => exact bare _
  | listTables => exact bare _
  | insert table columns more =>
    rw [template, render, run_bind, renderValues_run]
    show (_, [] ++ more) = (_, more ++ [])
    rw [List.nil_append, List.append_nil]
    rfl
  | select table columns filter =>
    rw [template, render, run_bind, renderFilter_run]
    rfl
  | update table assignments filter =>
    rw [template, render, run_bind, renderAssignments_run, run_bind, renderFilter_run,
      List.nil_append]
    rfl
  | delete table filter =>
    rw [template, render, run_bind, renderFilter_run]
    rfl
  | count table filter =>
    rw [template, render, run_bind, renderFilter_run]
    rfl

end AqlGateway.Aql
