import AqlGateway.Text.Blank

/-!
# Calendar dates

Dates of the Gregorian calendar, extended to all years from -262143 to 262142.

* `Date` — a year, a month and a day that exist; `Date.of?` checks them;
* `Date.dayNumber`, `Date.ofDayNumber?` — to and from days since 1970-01-01;
* `Date.text` — `2024-03-01`; a year outside 0 to 9999 has a sign and at least four digits;
* `Date.ofText?` — reads a date written with numbers of any width, blanks in front of each.
-/

namespace AqlGateway

open Text

def isLeapYear (year : Int) : Bool :=
  year % 4 == 0 && (year % 100 != 0 || year % 400 == 0)

/-- The number of days of a month, none for a number that is no month. -/
def daysInMonth (year : Int) (month : Nat) : Nat :=
  match month with
  | 2 => if isLeapYear year then 29 else 28
  | 4 | 6 | 9 | 11 => 30
  | 1 | 3 | 5 | 7 | 8 | 10 | 12 => 31
  | _ => 0

/-- Whether a year, a month and a day make a date. -/
def isDay (year : Int) (month day : Nat) : Bool :=
  -262143 ≤ year && year ≤ 262142 && 1 ≤ day && day ≤ daysInMonth year month

structure Date where
  year : Int
  month : Nat
  day : Nat
  exists_day : isDay year month day = true
  deriving DecidableEq, Repr

namespace Date

instance : Inhabited Date := ⟨⟨1970, 1, 1, by decide⟩⟩

/-- The date of a year, a month and a day, if there is one. -/
def of? (year : Int) (month day : Nat) : Option Date :=
  if h : isDay year month day = true then some ⟨year, month, day, h⟩ else none

/-! ### Day numbers -/

/-- Days from 1970-01-01 to a date. Years are counted from March, so that a leap day is the last
day of its year. -/
def dayNumber (d : Date) : Int :=
  let year := if d.month ≤ 2 then d.year - 1 else d.year
  let month : Int := if d.month ≤ 2 then d.month + 9 else d.month - 3
  let era := year.fdiv 400
  let yearOfEra := year - era * 400
  let dayOfYear := (153 * month + 2) / 5 + d.day - 1
  let dayOfEra := yearOfEra * 365 + yearOfEra / 4 - yearOfEra / 100 + dayOfYear
  era * 146097 + dayOfEra - 719468

/-- The date that lies a number of days after 1970-01-01, if the calendar reaches it. -/
def ofDayNumber? (days : Int) : Option Date :=
  let shifted := days + 719468
  let era := shifted.fdiv 146097
  let dayOfEra := shifted - era * 146097
  let yearOfEra := (dayOfEra - dayOfEra / 1460 + dayOfEra / 36524 - dayOfEra / 146096) / 365
  let dayOfYear := dayOfEra - (365 * yearOfEra + yearOfEra / 4 - yearOfEra / 100)
  let month := (5 * dayOfYear + 2) / 153
  let day := dayOfYear - (153 * month + 2) / 5 + 1
  let calendarMonth := if month < 10 then month + 3 else month - 9
  let year := yearOfEra + era * 400 + (if calendarMonth ≤ 2 then 1 else 0)
  of? year calendarMonth.toNat day.toNat

/-! ### Writing -/

/-- The decimal digits of a number, with zeros in front up to a width. -/
def padded (width n : Nat) : List Char :=
  let digits := Nat.toDigits 10 n
  List.replicate (width - digits.length) '0' ++ digits

def yearText (year : Int) : List Char :=
  if 0 ≤ year ∧ year ≤ 9999 then padded 4 year.toNat
  else (if year < 0 then '-' else '+') :: padded 4 year.natAbs

def chars (d : Date) : List Char :=
  yearText d.year ++ '-' :: padded 2 d.month ++ '-' :: padded 2 d.day

def text (d : Date) : String := String.ofList d.chars

/-! ### Reading -/

/-- The number spelled by digits. -/
def number (digits : List Char) : Nat :=
  digits.foldl (fun n c => n * 10 + (c.toNat - '0'.toNat)) 0

/-- A number of one to `width` digits at the beginning of a text, and the rest. -/
def readNumber? (width : Nat) (s : List Char) : Option (Nat × List Char) :=
  let digits := (s.take width).takeWhile Char.isDigit
  if digits.isEmpty then none else some (number digits, s.drop digits.length)

/-- A year at the beginning of a text: at most four digits, or a sign and any number of them. -/
def readYear? (s : List Char) : Option (Int × List Char) :=
  match trimStart s with
  | '-' :: rest => (readNumber? rest.length rest).map fun (n, r) => (-(n : Int), r)
  | '+' :: rest => (readNumber? rest.length rest).map fun (n, r) => ((n : Int), r)
  | rest => (readNumber? 4 rest).map fun (n, r) => ((n : Int), r)

/-- A month, a day, an hour or the like at the beginning of a text. -/
def readPair? (s : List Char) : Option (Nat × List Char) := readNumber? 2 (trimStart s)

/-- The text behind a mark, with blanks in front of the mark if `spaced` allows them. -/
def behind? (spaced : Bool) (mark : Char) (s : List Char) : Option (List Char) :=
  match (if spaced then trimStart s else s) with
  | c :: rest => if c = mark then some rest else none
  | [] => none

/-- A year, a month and a day at the beginning of a text, and the rest. -/
def readFields? (spaced : Bool) (s : List Char) : Option ((Int × Nat × Nat) × List Char) := do
  let (year, s) ← readYear? s
  let s ← behind? spaced '-' s
  let (month, s) ← readPair? s
  let s ← behind? spaced '-' s
  let (day, s) ← readPair? s
  pure ((year, month, day), s)

/-- The date of a text that holds nothing else. -/
def ofText? (s : String) : Option Date := do
  let ((year, month, day), rest) ← readFields? false s.toList
  if rest.isEmpty then of? year month day else none

/-- The date of a text with blanks allowed around each of its parts. -/
def ofSpacedText? (s : String) : Option Date := do
  let ((year, month, day), rest) ← readFields? true s.toList
  if (trimStart rest).isEmpty then of? year month day else none

end Date

end AqlGateway
