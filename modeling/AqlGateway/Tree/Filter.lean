import AqlGateway.Tree.Basic

/-!
# Selecting trees

* `TreeFilter` — what a list of trees is narrowed down to;
* `TreeFilter.accepts` — whether a tree meets the criteria;
* `TreeFilter.predicate?` — the criteria as a condition of a statement;
* `TreeFilter.paginate` — the part of a list that a page shows.
-/

namespace AqlGateway

/-- Criteria and a page. A limit of zero means no limit. -/
structure TreeFilter where
  locationId : Option String := none
  speciesId : Option String := none
  status : Option Status := none
  limit : Nat := 0
  offset : Nat := 0
  deriving DecidableEq, Repr

namespace TreeFilter

open Aql

/-- Whether an unset criterion, or the value of a set one, agrees with `value`. -/
def agrees {α : Type} [DecidableEq α] (criterion : Option α) (value : α) : Bool :=
  match criterion with
  | none => true
  | some wanted => wanted = value

/-- Whether a tree meets every criterion that is set. -/
def accepts (filter : TreeFilter) (tree : Tree) : Bool :=
  agrees filter.locationId tree.locationId && agrees filter.speciesId tree.speciesId
    && agrees (filter.status.map some) tree.status

/-- The equalities of the criteria that are set. -/
def equalities (filter : TreeFilter) : List Predicate :=
  (filter.locationId.map fun l => Predicate.eq "location_id" (.text l)).toList
    ++ (filter.speciesId.map fun s => Predicate.eq "species_id" (.text s)).toList
    ++ (filter.status.map fun s => Predicate.eq "status" (Tree.statusValue s)).toList

/-- The condition that the criteria make, none when none is set. -/
def predicate? (filter : TreeFilter) : Option Predicate := Predicate.all? filter.equalities

/-- The items of a list behind the offset, as many as the limit allows. -/
def paginate {α : Type} (filter : TreeFilter) (items : List α) : List α :=
  let rest := items.drop filter.offset
  if filter.limit = 0 then rest else rest.take filter.limit

end TreeFilter

end AqlGateway
