import AqlGateway.Text.Blank

/-!
# JSON texts taken apart

A JSON text is first taken apart into a tree whose numbers and strings are still as they were
written. What a number or a string means, and how deep values may nest, is decided by those who
read the tree.

* `JsonText` — the tree;
* `JsonText.read?` — the tree of a text that holds one value and blanks around it.
-/

namespace AqlGateway

/-- A number as it is written: a sign, digits, digits behind a point, and a signed exponent. -/
structure JsonNumeral where
  negative : Bool
  whole : List Char
  fraction : Option (List Char)
  exponent : Option (Bool × List Char)
  deriving DecidableEq, Repr

/-- A JSON value as it is written. Strings and keys hold what stands between the quotes. -/
inductive JsonText
  | null
  | bool (b : Bool)
  | number (numeral : JsonNumeral)
  | string (raw : List Char)
  | array (items : List JsonText)
  | object (members : List (List Char × JsonText))
  deriving Repr, Inhabited

namespace JsonText

/-- Blanks between the parts of a JSON text. -/
def skip (s : List Char) : List Char := s.dropWhile Text.isGap

/-! ### Numbers and strings -/

/-- A run of digits, at least one, and the rest. -/
def digits? (s : List Char) : Option (List Char × List Char) :=
  let run := s.takeWhile Char.isDigit
  if run.isEmpty then none else some (run, s.dropWhile Char.isDigit)

/-- The digits in front of a point; only zero itself begins with zero. -/
def whole? (s : List Char) : Option (List Char × List Char) :=
  match digits? s with
  | some ('0' :: _ :: _, _) => none
  | other => other

def fraction? : List Char → Option (Option (List Char) × List Char)
  | '.' :: s => (digits? s).map fun (run, rest) => (some run, rest)
  | s => some (none, s)

/-- The exponent, if there is one: `e`, an optional sign and digits. -/
def exponent? : List Char → Option (Option (Bool × List Char) × List Char)
  | [] => some (none, [])
  | c :: s =>
    if c = 'e' ∨ c = 'E' then
      match s with
      | '-' :: r => (digits? r).map fun (run, rest) => (some (true, run), rest)
      | '+' :: r => (digits? r).map fun (run, rest) => (some (false, run), rest)
      | r => (digits? r).map fun (run, rest) => (some (false, run), rest)
    else some (none, c :: s)

def numeral? (s : List Char) : Option (JsonNumeral × List Char) := do
  let (negative, s) := match s with
    | '-' :: rest => (true, rest)
    | other => (false, other)
  let (whole, s) ← whole? s
  let (fraction, s) ← fraction? s
  let (exponent, s) ← exponent? s
  pure (⟨negative, whole, fraction, exponent⟩, s)

/-- Whether a character may follow a backslash on its own. -/
def isShortEscape (c : Char) : Bool :=
  c == '"' || c == '\\' || c == '/' || c == 'b' || c == 'f' || c == 'n' || c == 'r' || c == 't'

def isHex (c : Char) : Bool :=
  c.isDigit || ('a' ≤ c && c ≤ 'f') || ('A' ≤ c && c ≤ 'F')

/-- What stands in front of the closing quote of a string, and the text behind it. -/
def stringBody? : List Char → Option (List Char × List Char)
  | [] => none
  | '"' :: s => some ([], s)
  | '\\' :: 'u' :: a :: b :: c :: d :: s =>
    if isHex a && isHex b && isHex c && isHex d then
      (stringBody? s).map fun (raw, rest) => ('\\' :: 'u' :: a :: b :: c :: d :: raw, rest)
    else none
  | '\\' :: c :: s =>
    if isShortEscape c then (stringBody? s).map fun (raw, rest) => ('\\' :: c :: raw, rest)
    else none
  | c :: s =>
    if c = '\\' ∨ c.toNat < 32 then none
    else (stringBody? s).map fun (raw, rest) => (c :: raw, rest)

/-! ### Values -/

/-- The text behind a word that must come next. -/
def behindWord? (word : List Char) (s : List Char) : Option (List Char) :=
  if word.isPrefixOf s then some (s.drop word.length) else none

mutual

/-- A value at the beginning of a text, and the rest. Every step takes at least one character, so
`fuel` may be the length of the text. -/
def value? (fuel : Nat) (s : List Char) : Option (JsonText × List Char) :=
  match fuel with
  | 0 => none
  | fuel + 1 =>
    match skip s with
    | '"' :: rest => (stringBody? rest).map fun (raw, rest) => (string raw, rest)
    | '[' :: rest =>
      match skip rest with
      | ']' :: rest => some (array [], rest)
      | _ => (items? fuel rest).map fun (items, rest) => (array items, rest)
    | '\x7b' :: rest =>
      match skip rest with
      | '\x7d' :: rest => some (object [], rest)
      | _ => (members? fuel rest).map fun (members, rest) => (object members, rest)
    | 'n' :: rest => (behindWord? "ull".toList rest).map fun rest => (null, rest)
    | 't' :: rest => (behindWord? "rue".toList rest).map fun rest => (bool true, rest)
    | 'f' :: rest => (behindWord? "alse".toList rest).map fun rest => (bool false, rest)
    | other => (numeral? other).map fun (numeral, rest) => (number numeral, rest)

/-- The items of an array up to its closing bracket. -/
def items? (fuel : Nat) (s : List Char) : Option (List JsonText × List Char) :=
  match fuel with
  | 0 => none
  | fuel + 1 => do
    let (item, s) ← value? fuel s
    match skip s with
    | ']' :: rest => pure ([item], rest)
    | ',' :: rest =>
      let (more, rest) ← items? fuel rest
      pure (item :: more, rest)
    | _ => none

/-- The members of an object up to its closing brace. -/
def members? (fuel : Nat) (s : List Char) : Option (List (List Char × JsonText) × List Char) :=
  match fuel with
  | 0 => none
  | fuel + 1 =>
    match skip s with
    | '"' :: rest => do
      let (key, s) ← stringBody? rest
      match skip s with
      | ':' :: rest =>
        let (value, s) ← value? fuel rest
        match skip s with
        | '\x7d' :: rest => pure ([(key, value)], rest)
        | ',' :: rest =>
          let (more, rest) ← members? fuel rest
          pure ((key, value) :: more, rest)
        | _ => none
      | _ => none
    | _ => none

end

/-- The tree of a text that holds one value. -/
def ofChars? (s : List Char) : Option JsonText :=
  match value? (2 * s.length + 2) s with
  | some (tree, rest) => if (skip rest).isEmpty then some tree else none
  | none => none

def read? (s : String) : Option JsonText := ofChars? s.toList

end JsonText

end AqlGateway
