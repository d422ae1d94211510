import AqlGateway.Aql.Kind
import AqlGateway.Text.Blank
import AqlGateway.Value.Basic

/-!
# Statement texts

The AQL text of each kind of statement, joined from parts that are taken as they are. A filter
that is the empty text is left out.
-/

namespace AqlGateway.Aql.Template

open Text

/-- A statement's text with its filter, if there is one. -/
def withFilter (statement : String) : Option String → String
  | none => statement
  | some filter => if filter = "" then statement else statement ++ " DIMANA " ++ filter

/-- `LAHAN table (columns)`, or `LAHAN table` when the columns are blank. -/
def createTable (table columns : String) : String :=
  if isAllBlank columns then "LAHAN " ++ table
  else "LAHAN " ++ table ++ " (" ++ columns ++ ")"

def insert (table : String) (columns values : List String) : String :=
  "TANAM KE " ++ table ++ " (" ++ joinWith ", " columns ++ ") BIBIT (" ++ joinWith ", " values
    ++ ")"

def select (table columns : String) (filter : Option String) : String :=
  withFilter ("PANEN " ++ columns ++ " DARI " ++ table) filter

def update (table set : String) (filter : Option String) : String :=
  withFilter ("PUPUK " ++ table ++ " DENGAN " ++ set) filter

def delete (table : String) (filter : Option String) : String :=
  withFilter ("GUSUR DARI " ++ table) filter

def dropTable (table : String) : String := "BAKAR LAHAN " ++ table

def listTables : String := "LIHAT LAHAN"

def count (table : String) (filter : Option String) : String :=
  withFilter ("HITUNG COUNT(*) DARI " ++ table) filter

end AqlGateway.Aql.Template
