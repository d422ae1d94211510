import AqlGateway.Aql.Sentence

/-!
# From AQL text to SQL text

* `Kind.opens`, `Kind.ofText?` — the kind of statement that a text begins like;
* `Mode` — whether text outside the known shapes is refused or forwarded;
* `toSql` — the SQL of a text.
-/

namespace AqlGateway.Aql

open Text

/-- How text outside the known shapes is handled. -/
inductive Mode
  /-- Such text is refused. -/
  | strict
  /-- Such text is forwarded as it is. -/
  | passthrough
  deriving DecidableEq, Repr, Inhabited

namespace Mode

def all : List Mode := [strict, passthrough]

def name : Mode → String
  | strict => "strict"
  | passthrough => "passthrough"

/-- The mode that is used when none is chosen. -/
def standard : Mode := strict

end Mode

/-- Whether a trimmed text begins like a statement of a kind: with the kind's keyword and a space,
except that the listing of tables has nothing behind its keyword. -/
def Kind.opens (kind : Kind) (s : List Char) : Bool :=
  match kind with
  | .listTables => s == kind.keyword.toList
  | _ => (kind.keyword.toList ++ [' ']).isPrefixOf s

def Kind.ofTrimmed? (s : List Char) : Option Kind :=
  Kind.all.find? fun kind => kind.opens s

/-- The kind of statement that a text begins like. -/
def Kind.ofText? (text : String) : Option Kind := Kind.ofTrimmed? (trim text.toList)

/-- What becomes of a trimmed text that has no shape: an error in strict mode, itself in
passthrough mode. -/
def fallback (mode : Mode) (s : List Char) (error : String → Error) : Except Error (List Char) :=
  match mode with
  | .strict => .error (error (String.ofList s))
  | .passthrough => .ok s

def trimmedToSql (mode : Mode) (s : List Char) : Except Error (List Char) :=
  if s.isEmpty && mode == .strict then .error .emptyStatement
  else match Kind.ofTrimmed? s with
    | none => fallback mode s .unrecognizedStatement
    | some kind => match Sentence.read? kind s with
      | some sentence => .ok sentence.sql
      | none => fallback mode s (.malformedStatement kind)

/-- The SQL of a text. -/
def toSql (mode : Mode) (text : String) : Except Error String :=
  (trimmedToSql mode (trim text.toList)).map String.ofList

end AqlGateway.Aql
