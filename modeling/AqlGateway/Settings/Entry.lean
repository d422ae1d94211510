import AqlGateway.Aql.Translation
import AqlGateway.Binary64.Layout
import AqlGateway.Binary64.Reader
import AqlGateway.Value.Basic

/-!
# Entries

Settings from every source are entries: scalars, lists and tables. What a setting needs is
converted leniently from what an entry holds.

* `Entry` — a value in a source of settings;
* `Entry.laidOver` — a value that is set where another stands already; tables are merged;
* `Entry.asText?`, `asUnsigned?`, `asBoolean?`, `asMode?` — the conversions;
* `Entry.fields?` — the parts of a group, which is given as a table or as a list in order.
-/

namespace AqlGateway.Settings

/-- A value in a source of settings. -/
inductive Entry
  /-- A place in a list that nothing was set for. -/
  | nothing
  | text (s : String)
  | integer (n : Int64)
  | real (x : Binary64)
  | boolean (b : Bool)
  | list (items : List Entry)
  | table (members : List (String × Entry))
  deriving Repr, Inhabited

/-- Members with a key set to a value. -/
def put {α : Type} (key : String) (value : α) : List (String × α) → List (String × α)
  | [] => [(key, value)]
  | (k, v) :: rest => if k = key then (key, value) :: rest else (k, v) :: put key value rest

namespace Entry

/-! ### Merging -/

/-- The members of a table; anything else has none. -/
def members : Entry → List (String × Entry)
  | table members => members
  | _ => []

mutual

/-- A value set in a place where an entry may stand already: the members of a table are set one by
one, anything else takes the place. -/
def laidOver : Entry → Option Entry → Entry
  | table incoming, current => mergeInto incoming (current.getD (table []))
  | value, _ => value

/-- An entry with members set in it. -/
def mergeInto : List (String × Entry) → Entry → Entry
  | [], target => target
  | (key, value) :: rest, target =>
    mergeInto rest (table (put key (value.laidOver (target.members.lookup key)) target.members))

end

/-! ### Conversions -/

def lowered (s : String) : String := String.ofList (s.toList.map Char.toLower)

/-- The truth value of a word in any case. -/
def word? (s : String) : Option Bool :=
  if lowered s ∈ ["true", "on", "yes"] then some true
  else if lowered s ∈ ["false", "off", "no"] then some false
  else none

def asText? : Entry → Option String
  | text s => some s
  | integer n => some (Value.integer n).shown
  | real x => some x.plainText
  | boolean b => some (Value.booleanText b)
  | _ => none

/-- The number of decimal digits with an optional plus sign, if it fits 64 bits. -/
def unsignedOfText? (s : String) : Option Nat :=
  let digits := match s.toList with
    | '+' :: rest => rest
    | all => all
  if digits.isEmpty || !digits.all Char.isDigit then none
  else
    let n := Binary64.digitsValue 0 digits
    if n < UInt64.size then some n else none

/-- The nearest unsigned 64-bit number, a half going up. -/
def roundedWord : Binary64 → Nat
  | .nan => 0
  | .infinite negative => if negative then 0 else UInt64.size - 1
  | .finite negative code =>
    if negative then 0 else min (Binary64.roundedPart code.val) (UInt64.size - 1)

/-- The unsigned 64-bit number of a scalar. -/
def asWord? : Entry → Option Nat
  | text s => match word? s with
    | some b => some b.toNat
    | none => unsignedOfText? s
  | integer n => if n < 0 then none else some n.toInt.toNat
  | real x => some (roundedWord x)
  | boolean b => some b.toNat
  | _ => none

/-- The number of a scalar that is below a limit. -/
def asUnsigned? (limit : Nat) (entry : Entry) : Option Nat :=
  entry.asWord?.bind fun n => if n < limit then some n else none

def asBoolean? : Entry → Option Bool
  | text s => if s = "1" then some true else if s = "0" then some false else word? s
  | integer n => some (n ≠ 0)
  | real x => some (!x.isZero)
  | boolean b => some b
  | _ => none

/-- The translation mode with a name in any case. -/
def modeOfName? (name : String) : Option Aql.Mode :=
  Aql.Mode.all.find? fun mode => mode.name == lowered name

/-- The translation mode of a name, or of a table with the name as its only key. -/
def asMode? : Entry → Option Aql.Mode
  | text s => modeOfName? s
  | table [(name, _)] => modeOfName? name
  | _ => none

/-! ### Groups -/

/-- The parts of a group with these names, of which a list has to hold at least `needed`. -/
def fields? (names : List String) (needed : Nat) : Entry → Option (List (Option Entry))
  | table members => some (names.map fun name => members.lookup name)
  | list items =>
    if items.length < needed then none
    else some ((List.range names.length).map fun i => items[i]?)
  | _ => none

end Entry

end AqlGateway.Settings
