import AqlGateway.Aql.Clause
import AqlGateway.Aql.Identifier

/-!
# Sentences

A sentence is a statement taken apart into its names and clauses.

* `Sentence.read?` — the sentence of a given kind that a text spells;
* `Sentence.sql` — the SQL text with the same names and clauses.

A clause ends at the first occurrence of the word behind it; there is no second try when the rest
of the text then has the wrong shape.
-/

namespace AqlGateway.Aql

open Text

/-- A statement's names and clauses. -/
inductive Sentence
  | createTable (name columns : List Char)
  | insert (table columns values : List Char)
  | select (columns table : List Char) (filter : Option (List Char))
  | update (table set : List Char) (filter : Option (List Char))
  | delete (table : List Char) (filter : Option (List Char))
  | dropTable (name : List Char)
  | listTables
  | count (columns table : List Char) (filter : Option (List Char))
  deriving DecidableEq, Repr

/-! ### Separators -/

/-- The text behind the gap at its beginning, which may be empty. -/
def skipGap (s : List Char) : List Char := s.dropWhile isGap

/-- The text behind the gap at its beginning, which may not be empty. -/
def gap? : List Char → Option (List Char)
  | [] => none
  | c :: s => if isGap c then some (skipGap s) else none

/-- The clause that reaches up to a closing parenthesis at the end of the text. -/
def enclosedTail? (s : List Char) : Option (List Char) :=
  match s.reverse with
  | ')' :: inner => clause? inner.reverse
  | _ => none

/-- The condition that may end a statement: nothing, or the word `DIMANA` between gaps and a
clause. -/
def filterTail? (s : List Char) : Option (Option (List Char)) :=
  if s.isEmpty then some none
  else do
    let s ← gap? s
    let s ← expect? "DIMANA".toList s
    let s ← gap? s
    let condition ← clause? s
    pure (some condition)

/-! ### The shapes -/

/-- `LAHAN name (columns)`. -/
def readCreateTable? (s : List Char) : Option Sentence := do
  let s ← expect? "LAHAN".toList s
  let s ← gap? s
  let (name, s) ← identifier? s
  let s ← expect? ['('] (skipGap s)
  let columns ← enclosedTail? s
  pure (.createTable name columns)

/-- `TANAM KE table (columns) BIBIT (values)`; the columns end at the first closing
parenthesis. -/
def readInsert? (s : List Char) : Option Sentence := do
  let s ← expect? "TANAM KE".toList s
  let s ← gap? s
  let (table, s) ← identifier? s
  let s ← expect? ['('] (skipGap s)
  let (columns, s) ← breakAt? [')'] s
  let columns ← clause? columns
  let s ← expect? [')'] s
  let s ← expect? "BIBIT".toList (skipGap s)
  let s ← expect? ['('] (skipGap s)
  let values ← enclosedTail? s
  pure (.insert table columns values)

/-- `keyword columns DARI table`, with or without a condition. -/
def readFrom? (keyword : List Char) (s : List Char) :
    Option (List Char × List Char × Option (List Char)) := do
  let s ← expect? keyword s
  let s ← gap? s
  let (columns, s) ← breakAt? " DARI ".toList s
  let columns ← clause? columns
  let s ← expect? " DARI".toList s
  let s ← gap? s
  let (table, s) ← identifier? s
  let filter ← filterTail? s
  pure (columns, table, filter)

/-- The set clause of an update, up to the first ` DIMANA ` or to the end of the text. -/
def breakSet (s : List Char) : List Char × List Char :=
  (breakAt? " DIMANA ".toList s).getD (s, [])

/-- `PUPUK table DENGAN set`, with or without a condition. -/
def readUpdate? (s : List Char) : Option Sentence := do
  let s ← expect? "PUPUK".toList s
  let s ← gap? s
  let (table, s) ← identifier? s
  let s ← gap? s
  let s ← expect? "DENGAN".toList s
  let s ← gap? s
  let set ← clause? (breakSet s).1
  let filter ← filterTail? (breakSet s).2
  pure (.update table set filter)

/-- `GUSUR DARI table`, with or without a condition. -/
def readDelete? (s : List Char) : Option Sentence := do
  let s ← expect? "GUSUR DARI".toList s
  let s ← gap? s
  let (table, s) ← identifier? s
  let filter ← filterTail? s
  pure (.delete table filter)

def readDropTable? (s : List Char) : Option Sentence := do
  let s ← expect? "BAKAR LAHAN".toList s
  let s ← gap? s
  let (name, s) ← identifier? s
  if s.isEmpty then pure (.dropTable name) else none

/-- The sentence of a kind that a text spells; none when the text has not the kind's shape. -/
def Sentence.read? (kind : Kind) (s : List Char) : Option Sentence :=
  match kind with
  | .createTable => readCreateTable? s
  | .insert => readInsert? s
  | .select => (readFrom? "PANEN".toList s).map fun (c, t, f) => .select c t f
  | .update => readUpdate? s
  | .delete => readDelete? s
  | .dropTable => readDropTable? s
  | .listTables => some .listTables
  | .count => (readFrom? "HITUNG".toList s).map fun (c, t, f) => .count c t f

/-! ### SQL -/

def listTablesSql : String :=
  "SELECT tablename FROM pg_catalog.pg_tables "
    ++ "WHERE schemaname != 'pg_catalog' AND schemaname != 'information_schema'"

def whereSql : Option (List Char) → List Char
  | none => []
  | some condition => " WHERE ".toList ++ condition

def Sentence.sql : Sentence → List Char
  | .createTable name columns =>
    "CREATE TABLE ".toList ++ name ++ " (".toList ++ columns ++ ")".toList
  | .insert table columns values =>
    "INSERT INTO ".toList ++ table ++ " (".toList ++ columns ++ ") VALUES (".toList ++ values
      ++ ")".toList
  | .select columns table filter =>
    "SELECT ".toList ++ columns ++ " FROM ".toList ++ table ++ whereSql filter
  | .update table set filter =>
    "UPDATE ".toList ++ table ++ " SET ".toList ++ set ++ whereSql filter
  | .delete table filter => "DELETE FROM ".toList ++ table ++ whereSql filter
  | .dropTable name => "DROP TABLE ".toList ++ name
  | .listTables => listTablesSql.toList
  | .count columns table filter =>
    "SELECT ".toList ++ columns ++ " FROM ".toList ++ table ++ whereSql filter

end AqlGateway.Aql
