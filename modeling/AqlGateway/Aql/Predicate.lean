import AqlGateway.Aql.Template

/-!
# Predicates

The condition of a select, update, delete or count: equalities, free texts and conjunctions.

* `Predicate.leaves` — the equalities and free texts from left to right;
* `Predicate.render` — the text of a predicate in either rendering;
* `Rendering` — values are written as literals, or as numbered placeholders and collected;
* `Predicate.text` — the text with literals.
-/

namespace AqlGateway.Aql

inductive Predicate
  /-- A column has a value. -/
  | eq (column : String) (value : Value)
  /-- Both conditions hold. -/
  | and (left right : Predicate)
  /-- Free text, taken as it is. -/
  | raw (text : String)
  deriving DecidableEq, Repr

/-! ### Rendering values -/

/-- How values are written into the text of a statement. -/
inductive Rendering
  /-- Each value is written as its literal. -/
  | inline
  /-- Each value is replaced by `$n` and kept as the n-th parameter. -/
  | placeholders
  deriving DecidableEq, Repr

/-- A text being rendered, together with the parameters collected so far. -/
abbrev Render (α : Type) := StateM (List Value) α

def renderValue (rendering : Rendering) (value : Value) : Render String :=
  match rendering with
  | .inline => pure value.literal
  | .placeholders => do
    modify (· ++ [value])
    pure ("$" ++ toString (← get).length)

def renderValues (rendering : Rendering) : List Value → Render (List String)
  | [] => pure []
  | value :: rest => do
    let text ← renderValue rendering value
    let texts ← renderValues rendering rest
    pure (text :: texts)

namespace Predicate

/-- The conjunction of a list of predicates, none when the list is empty. -/
def all? : List Predicate → Option Predicate
  | [] => none
  | p :: rest => some (rest.foldl and p)

/-- The equalities and free texts of a predicate from left to right. -/
def leaves : Predicate → List Predicate
  | and left right => left.leaves ++ right.leaves
  | leaf => [leaf]

/-- The columns of the equalities from left to right. -/
def columns : Predicate → List String
  | eq column _ => [column]
  | and left right => left.columns ++ right.columns
  | raw _ => []

/-- The values of the equalities from left to right. -/
def values : Predicate → List Value
  | eq _ value => [value]
  | and left right => left.values ++ right.values
  | raw _ => []

def render (rendering : Rendering) : Predicate → Render String
  | eq column value => do
    let text ← renderValue rendering value
    pure (column ++ "=" ++ text)
  | and left right => do
    let l ← left.render rendering
    let r ← right.render rendering
    pure (l ++ " AND " ++ r)
  | raw text => pure text

/-- The text of a predicate with literals. -/
def text (p : Predicate) : String := (p.render .inline |>.run []).1

end Predicate

end AqlGateway.Aql
