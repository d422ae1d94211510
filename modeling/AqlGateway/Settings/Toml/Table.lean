import AqlGateway.Settings.Entry

/-!
# Tables in TOML

A document builds tables in three ways: a header opens one, a key of several parts makes those on
its way, and a header makes those on its way too. No table may be opened twice, and keys of several
parts may not add to a table that a header opened.

* `Node` — a value or a table under construction;
* `assign?` — puts a value under a key of one or more parts;
* `openTable?`, `openElement?` — what a header does;
* `entries` — the finished table.
-/

namespace AqlGateway.Settings.Toml

/-- How a table came to be. -/
inductive Origin
  /-- It stands on the way to the table of a header. -/
  | implied
  /-- It stands on the way of a key of several parts. -/
  | dotted
  /-- A header opened it. -/
  | header
  deriving DecidableEq, Repr

inductive Node
  /-- Something closed: a scalar, a list, or a table between braces. -/
  | value (entry : Entry)
  | table (origin : Origin) (members : List (String × Node))
  /-- Tables that headers in two brackets opened. -/
  | tables (elements : List (List (String × Node)))
  deriving Repr

abbrev Members := List (String × Node)

/-- A change of the last of some elements. -/
def changeLast? (change : Members → Option Members) (elements : List Members) :
    Option (List Members) :=
  match elements.reverse with
  | [] => none
  | last :: before => (change last).map fun changed => (changed :: before).reverse

/-- Puts a node under a key at the end of a path. The path makes the tables that are missing, and
leads through tables of any origin but a header's; in the end it has to have made the table
itself, which `own` says of the table at hand. -/
def assign? (key : String) (node : Node) : (path : List String) → (own : Bool) → Members →
    Option Members
  | [], own, members =>
    if own && (members.lookup key).isNone then some (put key node members) else none
  | step :: path, _, members =>
    match members.lookup step with
    | none =>
      (assign? key node path true []).map fun inner => put step (.table .dotted inner) members
    | some (.table .dotted inner) =>
      (assign? key node path true inner).map fun inner => put step (.table .dotted inner) members
    | some (.table .implied inner) =>
      (assign? key node path false inner).map fun inner => put step (.table .implied inner) members
    | some (.tables elements) =>
      (changeLast? (assign? key node path false) elements).map fun changed =>
        put step (.tables changed) members
    | some _ => none

/-- Changes the table at the end of a path, which makes the tables that are missing and leads
through the last of several elements. -/
def within? (change : Members → Option Members) : (path : List String) → Members → Option Members
  | [], members => change members
  | step :: path, members =>
    match members.lookup step with
    | none => (within? change path []).map fun inner => put step (.table .implied inner) members
    | some (.table origin inner) =>
      (within? change path inner).map fun inner => put step (.table origin inner) members
    | some (.tables elements) =>
      (changeLast? (within? change path) elements).map fun changed =>
        put step (.tables changed) members
    | some (.value _) => none

/-- Opens the table with a key. It may stand there already when it was only implied. -/
def openTable? (key : String) (members : Members) : Option Members :=
  match members.lookup key with
  | none => some (put key (.table .header []) members)
  | some (.table .implied inner) => some (put key (.table .header inner) members)
  | some _ => none

/-- Opens one more of the tables with a key. -/
def openElement? (key : String) (members : Members) : Option Members :=
  match members.lookup key with
  | none => some (put key (.tables [[]]) members)
  | some (.tables elements) => some (put key (.tables (elements ++ [[]])) members)
  | some _ => none

mutual

def Node.entry : Node → Entry
  | .value entry => entry
  | .table _ members => .table (entries members)
  | .tables elements => .list (tableEntries elements)

def entries : List (String × Node) → List (String × Entry)
  | [] => []
  | (key, node) :: rest => (key, node.entry) :: entries rest

def tableEntries : List (List (String × Node)) → List Entry
  | [] => []
  | members :: rest => .table (entries members) :: tableEntries rest

end

end AqlGateway.Settings.Toml
