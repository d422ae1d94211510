import AqlGateway.Binary64.Layout

/-!
# JSON values

* `Json` — a JSON value; whole numbers of 64 bits are kept apart from other numbers;
* `Json.insert` — adds a member to an object's members, which are sorted by key without repeats;
* `Json.get?` — the member with a key;
* `Json.compact` — the text without any blanks;
* `Json.pretty` — the text with one item or member a line, two blanks a level.
-/

namespace AqlGateway

/-- A whole number that fits a signed or an unsigned 64-bit word. -/
structure JsonInteger where
  value : Int
  fits : -9223372036854775808 ≤ value ∧ value < 18446744073709551616
  deriving DecidableEq, Repr

inductive Json
  | null
  | bool (b : Bool)
  | integer (n : JsonInteger)
  | real (x : Binary64)
  | string (s : String)
  | array (items : List Json)
  | object (members : List (String × Json))
  deriving Repr, Inhabited

namespace Json

/-- The whole number `n` as JSON, as a real when it does not fit. -/
def ofInt (n : Int) : Json :=
  if h : -9223372036854775808 ≤ n ∧ n < 18446744073709551616 then integer ⟨n, h⟩
  else real (Binary64.ofInt n)

/-! ### Objects -/

/-- Members with one more, in the order of the keys; an earlier member with the key is replaced. -/
def insert (key : String) (value : Json) : List (String × Json) → List (String × Json)
  | [] => [(key, value)]
  | (k, v) :: rest =>
    if key = k then (key, value) :: rest
    else if key < k then (key, value) :: (k, v) :: rest
    else (k, v) :: insert key value rest

/-- The members of an object whose keys come in any order and may be repeated; the last member
with a key counts. -/
def membersOf (members : List (String × Json)) : List (String × Json) :=
  members.foldl (fun acc (k, v) => insert k v acc) []

def ofMembers (members : List (String × Json)) : Json := object (membersOf members)

def lookup? (key : String) : List (String × Json) → Option Json
  | [] => none
  | (k, v) :: rest => if k = key then some v else lookup? key rest

def get? (key : String) : Json → Option Json
  | object members => lookup? key members
  | _ => none

/-! ### Text -/

/-- The hexadecimal digits of a control character. -/
def hexPair (n : Nat) : List Char := [Nat.digitChar (n / 16), Nat.digitChar (n % 16)]

/-- A character inside a JSON string. -/
def escape (c : Char) : List Char :=
  if c = '"' then ['\\', '"']
  else if c = '\\' then ['\\', '\\']
  else if c = '\x08' then ['\\', 'b']
  else if c = '\x0c' then ['\\', 'f']
  else if c = '\n' then ['\\', 'n']
  else if c = '\r' then ['\\', 'r']
  else if c = '\t' then ['\\', 't']
  else if c.toNat < 32 then '\\' :: 'u' :: '0' :: '0' :: hexPair c.toNat
  else [c]

/-- A string in double quotes, behind which `rest` follows. -/
def quoted (s : String) (rest : List Char) : List Char :=
  '"' :: s.toList.foldr (fun c acc => escape c ++ acc) ('"' :: rest)

def integerChars (n : Int) : List Char :=
  if n < 0 then '-' :: Nat.toDigits 10 n.natAbs else Nat.toDigits 10 n.natAbs

mutual

/-- The text of a value, behind which `rest` follows. -/
def render (value : Json) (rest : List Char) : List Char :=
  match value with
  | null => "null".toList ++ rest
  | bool true => "true".toList ++ rest
  | bool false => "false".toList ++ rest
  | integer n => integerChars n.value ++ rest
  | real x => x.jsonText.toList ++ rest
  | string s => quoted s rest
  | array items => '[' :: renderItems true items (']' :: rest)
  | object members => '\x7b' :: renderMembers true members ('\x7d' :: rest)

/-- The texts of items, each but the first behind a comma. -/
def renderItems (first : Bool) (items : List Json) (rest : List Char) : List Char :=
  match items with
  | [] => rest
  | item :: more =>
    let text := render item (renderItems false more rest)
    if first then text else ',' :: text

/-- The texts of members, each but the first behind a comma. -/
def renderMembers (first : Bool) (members : List (String × Json)) (rest : List Char) : List Char :=
  match members with
  | [] => rest
  | (key, value) :: more =>
    let text := quoted key (':' :: render value (renderMembers false more rest))
    if first then text else ',' :: text

end

def compact (value : Json) : String := String.ofList (render value [])

/-! ### Indented text -/

/-- A line break and the blanks of a level. -/
def newLine (level : Nat) (rest : List Char) : List Char :=
  '\n' :: List.replicate (2 * level) ' ' ++ rest

mutual

/-- The indented text of a value inside `level` levels, behind which `rest` follows. -/
def indent (level : Nat) (value : Json) (rest : List Char) : List Char :=
  match value with
  | array [] => '[' :: ']' :: rest
  | array items => '[' :: indentItems (level + 1) true items (newLine level (']' :: rest))
  | object [] => '\x7b' :: '\x7d' :: rest
  | object members =>
    '\x7b' :: indentMembers (level + 1) true members (newLine level ('\x7d' :: rest))
  | other => render other rest

/-- The indented texts of items, one a line. -/
def indentItems (level : Nat) (first : Bool) (items : List Json) (rest : List Char) : List Char :=
  match items with
  | [] => rest
  | item :: more =>
    let text := newLine level (indent level item (indentItems level false more rest))
    if first then text else ',' :: text

/-- The indented texts of members, one a line. -/
def indentMembers (level : Nat) (first : Bool) (members : List (String × Json))
    (rest : List Char) : List Char :=
  match members with
  | [] => rest
  | (key, value) :: more =>
    let tail := indent level value (indentMembers level false more rest)
    let text := newLine level (quoted key (':' :: ' ' :: tail))
    if first then text else ',' :: text

end

/-- The text of a value with one item or member a line. -/
def pretty (value : Json) : String := String.ofList (indent 0 value [])

end Json

end AqlGateway
