import AqlGateway.Error
import AqlGateway.Text.Blank
import AqlGateway.Text.Split

/-!
# Identifiers and column lists

An identifier is an ASCII letter or an underscore, then letters, digits and underscores.

* `identifier?` — the identifier at the beginning of a text, and the rest;
* `isIdentifier`, `validateIdentifier` — whether a whole text is one;
* `validateColumns` — the column list of a select: `*`, `COUNT(*)` in any case, or identifiers
  separated by commas.
-/

namespace AqlGateway.Aql

open Text

/-- Letters, digits and underscores. -/
def isWordChar (c : Char) : Bool := c.isAlphanum || c == '_'

/-- What an identifier begins with: a run of letters, or one underscore. -/
def identifierHead? (s : List Char) : Option (List Char × List Char) :=
  match s.takeWhile Char.isAlpha with
  | c :: letters => some (c :: letters, s.dropWhile Char.isAlpha)
  | [] => match s with
    | '_' :: rest => some (['_'], rest)
    | _ => none

/-- The identifier at the beginning of a text, as long as possible, and the rest. -/
def identifier? (s : List Char) : Option (List Char × List Char) :=
  (identifierHead? s).map fun (head, rest) =>
    (head ++ rest.takeWhile isWordChar, rest.dropWhile isWordChar)

def isIdentifier (s : String) : Bool :=
  match identifier? s.toList with
  | some (_, rest) => rest.isEmpty
  | none => false

def validateIdentifier (s : String) : Except Error Unit :=
  if isIdentifier s then .ok () else .error (.invalidIdentifier s)

/-- Fails on the first text of a list that is no identifier. -/
def validateIdentifiers : List String → Except Error Unit
  | [] => .ok ()
  | s :: rest => match validateIdentifier s with
    | .ok () => validateIdentifiers rest
    | .error e => .error e

/-- The trimmed items of a list separated by commas. -/
def listItems (s : List Char) : List String :=
  (splitOn ',' s).map fun item => String.ofList (trim item)

/-- Whether a column list asks for everything or for the number of rows. -/
def isWholeRow (s : List Char) : Bool :=
  s == ['*'] || s.map Char.toUpper == ['C', 'O', 'U', 'N', 'T', '(', '*', ')']

/-- Fails on a column list with an item that is no identifier, naming the first such item. -/
def validateColumns (columns : String) : Except Error Unit :=
  let text := trim columns.toList
  if isWholeRow text then .ok () else validateIdentifiers (listItems text)

end AqlGateway.Aql
