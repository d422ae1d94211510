import Mathlib.Data.List.Sort
import AqlGateway.Executor.Session
import AqlGateway.Proofs.Aql.TokenList
import AqlGateway.Proofs.Text.Words
import AqlGateway.Proofs.Tree.Row
import AqlGateway.Repository.Remote
import AqlGateway.Text.Utf8

/-!
# What queries mean

A query of the table of trees says which rows it wants, and which page of them, or that they be
counted. Its text is read word by word, and its parameters are compared with the columns of the rows.

* `RowQuery` — such a query, and `RowQuery.read?` its text;
* `RowQuery.answer` — the rows that answer it;
* `Evaluates` — a database that answers every such query with these rows, and `database`, one that
  does;
* `readConditions_intersperse` — a conjunction is read back from its words.
-/

namespace AqlGateway.Relational

open Aql Text

/-! ### Conditions -/

inductive Condition
  /-- A condition that every row meets. -/
  | always
  /-- A column has the value of the parameter with a number, counted from one. -/
  | equals (column : String) (place : Nat)
  deriving DecidableEq, Repr

def numberOf? (digits : List Char) : Option Nat :=
  if !digits.isEmpty && digits.all Char.isDigit then some (Nat.ofDigitChars 10 digits 0) else none

namespace Condition

def ofWord? (word : String) : Option Condition :=
  if word = "1=1" then some always
  else match splitOn '=' word.toList with
    | [column, '$' :: digits] => (numberOf? digits).map (equals (String.ofList column))
    | _ => none

/-- Whether a row meets a condition. No value is equal to a null. -/
def holds (params : List Value) (row : Row) : Condition → Bool
  | always => true
  | equals _ 0 => false
  | equals column (place + 1) => match params[place]? with
    | some value => !value.isNull && row.said column == value
    | none => false

end Condition

/-! ### Queries -/

/-- The order and page of a query. -/
structure Page where
  /-- Whether the rows are put into the order of their codes. -/
  ordered : Bool := false
  limit : Option Nat := none
  offset : Nat := 0
  deriving DecidableEq, Repr

inductive RowQuery
  /-- The rows that meet the conditions, as far as they are on the page. -/
  | rows (conditions : List Condition) (page : Page)
  /-- The number of rows that meet the conditions. -/
  | count (conditions : List Condition)
  deriving DecidableEq, Repr

/-- The conditions of a conjunction, and the words behind it. -/
def readConditions : List String → Option (List Condition × List String)
  | [] => none
  | word :: "AND" :: rest => do
    let condition ← Condition.ofWord? word
    let (conditions, rest) ← readConditions rest
    pure (condition :: conditions, rest)
  | word :: rest => (Condition.ofWord? word).map fun condition => ([condition], rest)

/-- The conditions of a query, none if there is no word for them, and the words behind them. -/
def readWhere : List String → Option (List Condition × List String)
  | "WHERE" :: rest => readConditions rest
  | rest => some ([], rest)

/-- The offset at the end of a query. -/
def readOffset : List String → Option Nat
  | [] => some 0
  | ["OFFSET", n] => numberOf? n.toList
  | _ => none

/-- The limit and the offset at the end of a query. -/
def readLimit : List String → Option (Option Nat × Nat)
  | "LIMIT" :: n :: rest => do
    let limit ← numberOf? n.toList
    let offset ← readOffset rest
    pure (some limit, offset)
  | rest => (readOffset rest).map (none, ·)

/-- The page at the end of a query. -/
def readPage : List String → Option Page
  | "ORDER" :: "BY" :: "code" :: rest =>
    (readLimit rest).map fun (limit, offset) => ⟨true, limit, offset⟩
  | rest => (readLimit rest).map fun (limit, offset) => ⟨false, limit, offset⟩

namespace RowQuery

/-- The query that words spell. -/
def ofWords? : List String → Option RowQuery
  | "SELECT" :: "*" :: "FROM" :: "trees" :: rest => do
    let (conditions, rest) ← readWhere rest
    let page ← readPage rest
    pure (.rows conditions page)
  | "SELECT" :: "COUNT(*)" :: "FROM" :: "trees" :: rest => do
    let (conditions, rest) ← readWhere rest
    if rest.isEmpty then pure (.count conditions) else none
  | _ => none

def read? (sql : String) : Option RowQuery := ofWords? (words sql)

end RowQuery

/-! ### Answers -/

def rowCode (row : Row) : String :=
  match row.said "code" with
  | .text code => code
  | _ => ""

/-- Rows in the order of the bytes of their codes. -/
def byCode (rows : List Row) : List Row :=
  rows.insertionSort fun r s => Utf8.encode (rowCode r) ≤ Utf8.encode (rowCode s)

def meeting (conditions : List Condition) (params : List Value) (rows : List Row) : List Row :=
  rows.filter fun row => conditions.all (Condition.holds params row)

/-- The rows of a page: ordered first, then from the offset on, and then no more than the limit. -/
def Page.of (page : Page) (rows : List Row) : List Row :=
  let ordered := if page.ordered then byCode rows else rows
  match page.limit with
  | none => ordered.drop page.offset
  | some limit => (ordered.drop page.offset).take limit

/-- The row with the number of rows. -/
def countRow (n : Nat) : Row := ⟨["count"], [.integer (Remote.countOf n)]⟩

/-- The rows that answer a query of a table with `rows`. -/
def RowQuery.answer (params : List Value) (rows : List Row) : RowQuery → List Row
  | .rows conditions page => page.of (meeting conditions params rows)
  | .count conditions => [countRow (meeting conditions params rows).length]

/-- The rows that answer SQL with its parameters, if it is a query of the table. -/
def evaluate? (rows : List Row) (q : BoundQuery) : Option (List Row) :=
  (RowQuery.read? q.sql).map (RowQuery.answer q.params rows)

/-- In one of its states a database answers the queries of a table with `rows` as they are meant. -/
structure Evaluates {σ : Type} (backend : Backend σ) (state : σ) (rows : List Row) : Prop where
  query : ∀ q answer, evaluate? rows q = some answer →
    ∃ cursor, (backend.query q state).1 = .ok cursor ∧ cursor.remaining = answer.map .ok
  queryRow : ∀ q answer, evaluate? rows q = some answer →
    (backend.queryRow q state).1 = .ok answer.head?

/-- The rows that answer a query, or the refusal of another statement. -/
def answered (q : BoundQuery) (rows : List Row) : Except Error (List Row) :=
  match evaluate? rows q with
  | some answer => .ok answer
  | none => .error (.backend "unknown query")

/-- A database with one table. -/
def database : Backend (List Row) where
  execute _ := pure (.ok 0)
  query q := do
    let rows ← get
    pure ((answered q rows).map Cursor.ofRows)
  queryRow q := do
    let rows ← get
    pure ((answered q rows).map List.head?)

/-- There is a database that answers queries as they are meant. -/
theorem evaluates_database (rows : List Row) : Evaluates database rows rows := by
  have hanswered : ∀ q answer, evaluate? rows q = some answer → answered q rows = .ok answer := by
    intro q answer h
    rw [answered, h]
  constructor
  · intro q answer h
    refine ⟨Cursor.ofRows answer, ?_, rfl⟩
    show (answered q rows).map Cursor.ofRows = _
    rw [hanswered q answer h]
    rfl
  · intro q answer h
    show (answered q rows).map List.head? = _
    rw [hanswered q answer h]
    rfl

/-! ### Reading what was written -/

/-- The digits of a number are read as the number. -/
theorem numberOf?_toDigits (n : Nat) : numberOf? (Nat.toDigits 10 n) = some n := by
  have hdigits : (Nat.toDigits 10 n).all Char.isDigit = true :=
    List.all_eq_true.mpr fun c hc => Nat.isDigit_of_mem_toDigits (by decide) (by decide) hc
  have hne : (Nat.toDigits 10 n).isEmpty = false :=
    List.isEmpty_eq_false_iff.mpr Nat.toDigits_ne_nil
  rw [numberOf?, hdigits, hne, if_pos (by decide), Nat.ofDigitChars_toDigits (by decide) (by decide)]

theorem numberOf?_toString (n : Nat) : numberOf? (toString n).toList = some n := by
  rw [show (toString n).toList = Nat.toDigits 10 n from Nat.toList_repr]
  exact numberOf?_toDigits n

/-- A column with a placeholder is read as the condition that it stands for. -/
theorem ofWord?_placeholder {column : String} (h : isIdentifier column = true) (n : Nat) :
    Condition.ofWord? (column ++ "=" ++ placeholder n) = some (.equals column n) := by
  have htext : (column ++ "=" ++ placeholder n).toList
      = column.toList ++ '=' :: '$' :: Nat.toDigits 10 n := by
    rw [String.toList_append, String.toList_append, toList_placeholder, List.append_assoc]
    rfl
  have hne : column ++ "=" ++ placeholder n ≠ "1=1" := by
    intro heq
    have hsign : '$' ∈ (column ++ "=" ++ placeholder n).toList := by simp [htext]
    rw [heq] at hsign
    exact absurd hsign (by decide)
  have hcolumn : '=' ∉ column.toList := (isIdentifier_iff.mp h).notMem (by decide)
  have hplace : '=' ∉ '$' :: Nat.toDigits 10 n := by
    rw [← toList_placeholder]
    intro hmem
    rw [toList_placeholder, List.mem_cons] at hmem
    rcases hmem with hmem | hmem
    · exact absurd hmem (by decide)
    · exact absurd (Nat.isDigit_of_mem_toDigits (by decide) (by decide) hmem) (by decide)
  rw [Condition.ofWord?, if_neg hne, htext, splitOn_append_separator, splitOn_of_notMem hcolumn,
    splitOn_of_notMem hplace]
  show (numberOf? (Nat.toDigits 10 n)).map _ = _
  rw [numberOf?_toDigits, Option.map_some, String.ofList_toList]

/-- A conjunction is read back, up to a word that does not go on with it. -/
theorem readConditions_intersperse {l : List String} {conditions : List Condition}
    (hl : l ≠ []) (hread : l.map Condition.ofWord? = conditions.map some) {behind : List String}
    (hbehind : behind.head? ≠ some "AND") :
    readConditions (l.intersperse "AND" ++ behind) = some (conditions, behind) := by
  induction l generalizing conditions with
  | nil => exact absurd rfl hl
  | cons word rest ih =>
    cases conditions with
    | nil => exact absurd hread (by simp)
    | cons condition conditions =>
      obtain ⟨hword, hrest⟩ := List.cons.inj hread
      cases rest with
      | nil =>
        obtain rfl : conditions = [] := List.map_eq_nil_iff.mp hrest.symm
        cases behind with
        | nil => simp [readConditions, hword]
        | cons next behind =>
          have hnext : next ≠ "AND" := fun heq => hbehind (by simp [heq])
          simp [readConditions, hword, hnext]
      | cons next rest =>
        have htail := ih (by simp) hrest
        rw [List.intersperse_cons_cons, List.cons_append, List.cons_append, readConditions, hword]
        simp [htail]

end AqlGateway.Relational
