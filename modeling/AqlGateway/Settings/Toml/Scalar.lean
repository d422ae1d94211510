import AqlGateway.Calendar.Date
import AqlGateway.Settings.Entry
import AqlGateway.Settings.Toml.Text

/-!
# Scalars in TOML

* `moment?` — a date, a time of day or both, as text in one form;
* `integer?`, `real?` — numbers, in which underscores may stand between digits;
* `scalar?` — any value that is no list and no table.
-/

namespace AqlGateway.Settings.Toml

/-! ### Dates and times -/

/-- A number of `width` digits that is at most `highest`. -/
def field? (width highest : Nat) (s : List Char) : Option (Nat × List Char) :=
  let digits := (s.take width).takeWhile Char.isDigit
  let n := Binary64.digitsValue 0 digits
  if digits.length = width ∧ n ≤ highest then some (n, s.drop width) else none

def date? (s : List Char) : Option (List Char × List Char) := do
  let (year, s) ← field? 4 9999 s
  let s ← Text.expect? ['-'] s
  let (month, s) ← field? 2 12 s
  let s ← Text.expect? ['-'] s
  let (day, s) ← field? 2 31 s
  if isDay year month day then
    pure (Date.padded 4 year ++ '-' :: Date.padded 2 month ++ '-' :: Date.padded 2 day, s)
  else none

/-- The fraction of a second behind its point: nine digits count, and zeros at the end are
dropped. -/
def fractionText (digits : List Char) : List Char :=
  let kept := ((digits.take 9).reverse.dropWhile (· == '0')).reverse
  if kept.isEmpty then [] else '.' :: kept

/-- The fraction of a second, if there is one. -/
def fraction? : Scan (List Char)
  | '.' :: s =>
    let digits := s.takeWhile Char.isDigit
    if digits.isEmpty then none else some (fractionText digits, s.dropWhile Char.isDigit)
  | s => some ([], s)

/-- A time of day. -/
def time? (s : List Char) : Option (List Char × List Char) := do
  let (hour, s) ← field? 2 23 s
  let s ← Text.expect? [':'] s
  let (minute, s) ← field? 2 59 s
  let s ← Text.expect? [':'] s
  let (second, s) ← field? 2 60 s
  let (fraction, s) ← fraction? s
  pure (Date.padded 2 hour ++ ':' :: Date.padded 2 minute ++ ':' :: Date.padded 2 second
    ++ fraction, s)

/-- The text of a distance from universal time. -/
def offsetText (negative : Bool) (hour minute : Nat) : List Char :=
  (if negative && hour + minute != 0 then '-' else '+')
    :: Date.padded 2 hour ++ ':' :: Date.padded 2 minute

/-- The distance from universal time, if it is given. -/
def offset? : Scan (List Char)
  | [] => some ([], [])
  | c :: s =>
    if c = 'Z' ∨ c = 'z' then some (['Z'], s)
    else if c = '+' ∨ c = '-' then do
      let (hour, s) ← field? 2 23 s
      let s ← Text.expect? [':'] s
      let (minute, s) ← field? 2 59 s
      pure (offsetText (c = '-') hour minute, s)
    else some ([], c :: s)

/-- A time of day behind a date and a mark. -/
def timeBehind? : Scan (List Char)
  | c :: s => if c = 'T' ∨ c = 't' ∨ c = ' ' then time? s else none
  | [] => none

/-- A date, a time of day, or both with or without the distance from universal time. -/
def moment? (s : List Char) : Option (List Char × List Char) :=
  match date? s with
  | none => time? s
  | some (date, rest) => match timeBehind? rest with
    | none => some (date, rest)
    | some (time, rest) => (offset? rest).map fun (offset, rest) =>
      (date ++ 'T' :: time ++ offset, rest)

/-! ### Numbers -/

/-- A run of digits between which underscores may stand one by one; the digits alone. -/
def digits? (isDigit : Char → Bool) (s : List Char) : Option (List Char × List Char) :=
  let run := s.takeWhile fun c => isDigit c || c == '_'
  if (Text.splitOn '_' run).any List.isEmpty then none
  else some (run.filter (· != '_'), s.drop run.length)

/-- A whole number without a sign: zero, or digits that begin with another one. -/
def whole? : Scan (List Char)
  | '0' :: s => some (['0'], s)
  | s => digits? Char.isDigit s

def sign : List Char → List Char × List Char
  | '-' :: s => (['-'], s)
  | '+' :: s => (['+'], s)
  | s => ([], s)

/-- The 64-bit number of a whole number. -/
def word? (n : Int) : Option Int64 :=
  if Int64.minValue.toInt ≤ n ∧ n ≤ Int64.maxValue.toInt then some (Int64.ofInt n) else none

def isDigitTo (base : Nat) (c : Char) : Bool := (hexValue? c).any (· < base)

/-- A whole number to a base behind its mark. -/
def based? (base : Nat) (s : List Char) : Option (Int64 × List Char) := do
  let (digits, rest) ← digits? (isDigitTo base) s
  let n ← word? (digits.foldl (fun n c => n * base + (hexValue? c).getD 0) 0 : Nat)
  pure (n, rest)

def integer? : Scan Int64
  | '0' :: 'x' :: s => based? 16 s
  | '0' :: 'o' :: s => based? 8 s
  | '0' :: 'b' :: s => based? 2 s
  | s => do
    let (mark, s) := sign s
    let (digits, rest) ← whole? s
    let n : Int := Binary64.digitsValue 0 digits
    let word ← word? (if mark = ['-'] then -n else n)
    pure (word, rest)

/-- The fraction of a number with its point, if there is one. -/
def fractionPart? : Scan (List Char)
  | '.' :: s => (digits? Char.isDigit s).map fun (digits, rest) => ('.' :: digits, rest)
  | s => some ([], s)

/-- The exponent of a number with its mark, if there is one. -/
def exponentPart? : Scan (List Char)
  | [] => some ([], [])
  | c :: s =>
    if c = 'e' ∨ c = 'E' then
      let (mark, s) := sign s
      (digits? Char.isDigit s).map fun (digits, rest) => ('e' :: mark ++ digits, rest)
    else some ([], c :: s)

/-- A number with a fraction or an exponent; none when it is too large. -/
def decimal? (s : List Char) : Option (Binary64 × List Char) := do
  let (mark, s) := sign s
  let (digits, s) ← whole? s
  let (fraction, s) ← fractionPart? s
  let (exponent, rest) ← exponentPart? s
  if fraction.isEmpty && exponent.isEmpty then none
  else
    let x ← Binary64.ofText? (String.ofList (mark ++ digits ++ fraction ++ exponent))
    if x = .infinite false then none else pure (x, rest)

/-- One of the words for what is no finite number. -/
def special? (s : List Char) : Option (Binary64 × List Char) :=
  let (mark, s) := sign s
  match s with
  | 'i' :: 'n' :: 'f' :: rest => some (.infinite (mark = ['-']), rest)
  | 'n' :: 'a' :: 'n' :: rest => some (.nan, rest)
  | _ => none

def real? (s : List Char) : Option (Binary64 × List Char) :=
  match decimal? s with
  | some read => some read
  | none => special? s

/-! ### Scalars -/

/-- A number, a date or a time. -/
def number? (s : List Char) : Option (Entry × List Char) :=
  match moment? s with
  | some (text, rest) => some (.text (String.ofList text), rest)
  | none => match real? s with
    | some (x, rest) => some (.real x, rest)
    | none => (integer? s).map fun (n, rest) => (.integer n, rest)

/-- A value that is no list and no table. -/
def scalar? : Scan Entry
  | '"' :: s => (string? ('"' :: s)).map fun (text, rest) => (.text (String.ofList text), rest)
  | '\'' :: s => (string? ('\'' :: s)).map fun (text, rest) => (.text (String.ofList text), rest)
  | 't' :: 'r' :: 'u' :: 'e' :: rest => some (.boolean true, rest)
  | 'f' :: 'a' :: 'l' :: 's' :: 'e' :: rest => some (.boolean false, rest)
  | s => number? s

end AqlGateway.Settings.Toml
