import AqlGateway.Text.Split

/-!
# Text in TOML

Keys, strings, comments and the space between them. Each reader takes the text from where it
stands and gives back what it read and the rest.

* `simpleKey?`, `dottedKey?` — a key, and keys joined by points;
* `string?` — a string in any of its four forms;
* `skipSpace`, `skipGap`, `lineEnd?` — what may stand between other things.
-/

namespace AqlGateway.Settings.Toml

/-- Something read from the beginning of a text, and the rest. -/
abbrev Scan (α : Type) := List Char → Option (α × List Char)

/-! ### Space and comments -/

/-- Characters that comments and strings may hold: tab and everything that is no ASCII control. -/
def isPlain (c : Char) : Bool := c == '\t' || (0x20 ≤ c.toNat && c.toNat != 0x7F)

def isSpace (c : Char) : Bool := c == ' ' || c == '\t'

def skipSpace (s : List Char) : List Char := s.dropWhile isSpace

def newline? : List Char → Option (List Char)
  | '\n' :: s => some s
  | '\r' :: '\n' :: s => some s
  | _ => none

/-- The text behind space, line breaks and comments; `inComment` says where the text begins. -/
def skipGap : (inComment : Bool) → List Char → List Char
  | _, [] => []
  | _, '\n' :: s => skipGap false s
  | _, '\r' :: '\n' :: s => skipGap false s
  | true, c :: s => if isPlain c then skipGap true s else c :: s
  | false, c :: s =>
    if isSpace c then skipGap false s
    else if c = '#' then skipGap true s
    else c :: s

/-- The text behind a comment, if one begins here. -/
def skipComment : List Char → List Char
  | '#' :: s => s.dropWhile isPlain
  | s => s

/-- The text behind the rest of a line, which holds at most a comment. -/
def lineEnd? (s : List Char) : Option (List Char) :=
  match skipComment (skipSpace s) with
  | [] => some []
  | rest => newline? rest

/-! ### Strings -/

/-- The character that an escape with one letter stands for. -/
def escape? : Char → Option Char
  | 'b' => some '\x08'
  | 't' => some '\t'
  | 'n' => some '\n'
  | 'f' => some '\x0c'
  | 'r' => some '\r'
  | '"' => some '"'
  | '\\' => some '\\'
  | _ => none

def hexValue? (c : Char) : Option Nat :=
  if c.isDigit then some (c.toNat - '0'.toNat)
  else if 'a' ≤ c ∧ c ≤ 'f' then some (c.toNat - 'a'.toNat + 10)
  else if 'A' ≤ c ∧ c ≤ 'F' then some (c.toNat - 'A'.toNat + 10)
  else none

/-- The number of hexadecimal digits behind those of `start`. -/
def hexNumber? (start : Nat) : List Char → Option Nat
  | [] => some start
  | c :: s => (hexValue? c).bind fun d => hexNumber? (start * 16 + d) s

/-- The character of a code point that is one. -/
def character? (point : Nat) : Option Char :=
  if point.isValidChar then some (Char.ofNat point) else none

/-- An escape behind its backslash: the character, and how many of the characters behind the
backslash spell it. -/
def escaped? : List Char → Option (Char × Nat)
  | 'u' :: s =>
    if s.length < 4 then none
    else ((hexNumber? 0 (s.take 4)).bind character?).map fun c => (c, 5)
  | 'U' :: s =>
    if s.length < 8 then none
    else ((hexNumber? 0 (s.take 8)).bind character?).map fun c => (c, 9)
  | c :: _ => (escape? c).map fun d => (d, 1)
  | [] => none

def cons (c : Char) (read : Option (List Char × List Char)) : Option (List Char × List Char) :=
  read.map fun (text, rest) => (c :: text, rest)

/-- A string with escapes, behind its quote. The first `skipped` characters belong to an escape
that was read already. -/
def basic? : (skipped : Nat) → Scan (List Char)
  | _, [] => none
  | skipped + 1, _ :: s => basic? skipped s
  | 0, c :: s =>
    if c = '"' then some ([], s)
    else if c = '\\' then match escaped? s with
      | some (d, n) => cons d (basic? n s)
      | none => none
    else if isPlain c then cons c (basic? 0 s)
    else none

/-- A string without escapes, behind its quote. -/
def literal? : Scan (List Char)
  | [] => none
  | c :: s =>
    if c = '\'' then some ([], s)
    else if isPlain c then cons c (literal? s)
    else none

/-- What is behind the three quotes that end a string of several lines: up to two more quotes
belong to the string. -/
def closing (quote : Char) (s : List Char) : List Char × List Char :=
  let more := ((s.take 2).takeWhile (· == quote)).length
  (s.take more, s.drop more)

/-- What a multi-line string passes over. -/
inductive Passing
  | nothing
  /-- The rest of an escape that was read already. -/
  | escape (length : Nat)
  /-- Space and line breaks behind a backslash at the end of a line. -/
  | gap
  deriving DecidableEq, Repr

/-- A string of several lines with escapes, behind its quotes and the line break behind them. -/
def multilineBasic? : Passing → Scan (List Char)
  | _, [] => none
  | .escape (n + 1), _ :: s => multilineBasic? (.escape n) s
  | passing, c :: s =>
    if c = '"' ∧ s.take 2 = ['"', '"'] then some (closing '"' (s.drop 2))
    else if c = '\n' then
      if passing = .gap then multilineBasic? .gap s else cons '\n' (multilineBasic? .nothing s)
    else if c = '\r' then
      if s.head? = some '\n' then multilineBasic? passing s else none
    else if passing = .gap ∧ isSpace c then multilineBasic? .gap s
    else if c = '\\' then
      if (newline? (skipSpace s)).isSome then multilineBasic? .gap s
      else match escaped? s with
        | some (d, n) => cons d (multilineBasic? (.escape n) s)
        | none => none
    else if isPlain c then cons c (multilineBasic? .nothing s)
    else none

/-- A string of several lines without escapes, behind its quotes and the line break behind
them. -/
def multilineLiteral? : Scan (List Char)
  | [] => none
  | c :: s =>
    if c = '\'' ∧ s.take 2 = ['\'', '\''] then some (closing '\'' (s.drop 2))
    else if c = '\n' then cons '\n' (multilineLiteral? s)
    else if c = '\r' then
      if s.head? = some '\n' then multilineLiteral? s else none
    else if isPlain c then cons c (multilineLiteral? s)
    else none

/-- The text behind a line break that may stand right behind the opening quotes. -/
def firstLine (s : List Char) : List Char := (newline? s).getD s

/-- A string of one line. -/
def quoted? : Scan (List Char)
  | '"' :: s => basic? 0 s
  | '\'' :: s => literal? s
  | _ => none

def string? : Scan (List Char)
  | '"' :: '"' :: '"' :: s => multilineBasic? .nothing (firstLine s)
  | '\'' :: '\'' :: '\'' :: s => multilineLiteral? (firstLine s)
  | s => quoted? s

/-! ### Keys -/

def isBare (c : Char) : Bool := c.isAlphanum || c == '_' || c == '-'

def simpleKey? (s : List Char) : Option (String × List Char) :=
  match s with
  | '"' :: _ => (quoted? s).map fun (key, rest) => (String.ofList key, rest)
  | '\'' :: _ => (quoted? s).map fun (key, rest) => (String.ofList key, rest)
  | _ =>
    let key := s.takeWhile isBare
    if key.isEmpty then none else some (String.ofList key, s.dropWhile isBare)

/-- At most `most` keys joined by points, with space around each of them. -/
def keys? : (most : Nat) → Scan (List String)
  | 0, _ => none
  | most + 1, s => do
    let (key, rest) ← simpleKey? (skipSpace s)
    match skipSpace rest with
    | '.' :: rest =>
      let (more, rest) ← keys? most rest
      pure (key :: more, rest)
    | rest => pure ([key], rest)

/-- How deep tables and lists may be nested. -/
def depthLimit : Nat := 80

/-- Keys joined by points; no more of them than tables may be nested. -/
def dottedKey? : Scan (List String) := keys? depthLimit

end AqlGateway.Settings.Toml
