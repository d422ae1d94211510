import AqlGateway.Settings.Entry

/-!
# Paths

A path leads through tables by keys and through lists by positions: `remote.port`, `hosts[2]`.

* `Path.ofText?` — reads a path; it begins with a key;
* `Entry.setAt` — sets the place that a path leads to, and makes the tables and lists on the way.
-/

namespace AqlGateway.Settings

inductive Step
  | key (name : String)
  /-- A position in a list, counted from its end when negative. -/
  | index (position : Int)
  deriving DecidableEq, Repr

namespace Path

def isKeyChar (c : Char) : Bool := c.isAlphanum || c == ' ' || c == '_' || c == '-'

/-- A key at the beginning of a text. -/
def key? (s : List Char) : Option (Step × List Char) :=
  let name := s.takeWhile isKeyChar
  if name.isEmpty then none else some (.key (String.ofList name), s.dropWhile isKeyChar)

/-- A position between brackets, behind the opening one. -/
def index? (s : List Char) : Option (Step × List Char) :=
  let s := s.dropWhile fun c => c == ' ' || c == '\t'
  let (negative, s) := match s with
    | '-' :: rest => (true, rest)
    | s => (false, s)
  let digits := s.takeWhile Char.isDigit
  let n := Binary64.digitsValue 0 digits
  match (s.dropWhile Char.isDigit).dropWhile fun c => c == ' ' || c == '\t' with
  | ']' :: rest =>
    if digits.isEmpty then none else some (.index (if negative then -n else n), rest)
  | _ => none

/-- The steps behind the first, of which there are at most `most`. -/
def steps? : (most : Nat) → List Char → Option (List Step)
  | _, [] => some []
  | 0, _ => none
  | most + 1, '.' :: s => do
    let (step, rest) ← key? s
    let steps ← steps? most rest
    pure (step :: steps)
  | most + 1, '[' :: s => do
    let (step, rest) ← index? s
    let steps ← steps? most rest
    pure (step :: steps)
  | _, _ => none

def ofText? (s : String) : Option (List Step) := do
  let (first, rest) ← key? s.toList
  let steps ← steps? rest.length rest
  pure (first :: steps)

end Path

namespace Entry

/-- The items of a list; anything else has none. -/
def items : Entry → List Entry
  | list items => items
  | _ => []

/-- The place in a list of a length that a position means. -/
def placeOf (length : Nat) (position : Int) : Nat :=
  if 0 ≤ position then position.toNat else length - position.natAbs

/-- A list with an item set, made longer if it is too short. -/
def setItem (place : Nat) (item : Entry) (items : List Entry) : List Entry :=
  (items ++ List.replicate (place + 1 - items.length) nothing).set place item

/-- An entry with a value set in the place that a path leads to. What stands on the way and is no
table or list of the right kind is given up. -/
def setAt (value : Entry) : List Step → Entry → Entry
  | [], _ => value
  | [.key name], current =>
    table (put name (value.laidOver (current.members.lookup name)) current.members)
  | .key name :: path, current =>
    let inner := (current.members.lookup name).getD nothing
    table (put name (setAt value path inner) current.members)
  | .index position :: path, current =>
    let place := placeOf current.items.length position
    let inner := (current.items[place]?).getD nothing
    list (setItem place (setAt value path inner) current.items)

end Entry

end AqlGateway.Settings
