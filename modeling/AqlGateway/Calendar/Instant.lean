import AqlGateway.Calendar.Date

/-!
# Instants

An instant is a date and a time of day in UTC, to the nanosecond. A leap second is the last second
of its minute with a billion nanoseconds or more.

* `Instant.unixSeconds`, `Instant.ofUnix?` — to and from seconds since 1970-01-01;
* `Instant.text` — `2024-03-01T08:30:00Z`, without a fraction;
* `Instant.fullText` — the same with 0, 3, 6 or 9 digits of a fraction;
* `Instant.ofText?` — reads `YYYY-MM-DD`, a `T` or a blank, `HH:MM:SS`, a fraction and an offset;
* `Instant.ofSpacedText?` — reads the same with numbers of any width and blanks between the parts.
-/

namespace AqlGateway

open Text

/-- Whether a second of a day and nanoseconds make a time. -/
def isTime (second nanos : Nat) : Bool :=
  second < 86400 && (nanos < 1000000000 || (second % 60 == 59 && nanos < 2000000000))

structure Instant where
  date : Date
  second : Nat
  nanos : Nat
  exists_time : isTime second nanos = true
  deriving DecidableEq, Repr

namespace Instant

instance : Inhabited Instant := ⟨⟨default, 0, 0, by decide⟩⟩

/-- The instant of a date, a second of the day and nanoseconds, if there is one. -/
def of? (date : Date) (second nanos : Nat) : Option Instant :=
  if h : isTime second nanos = true then some ⟨date, second, nanos, h⟩ else none

/-! ### Seconds since 1970-01-01 -/

/-- Seconds from 1970-01-01 to an instant, the nanoseconds left out. -/
def unixSeconds (t : Instant) : Int := t.date.dayNumber * 86400 + t.second

/-- The instant a number of seconds and nanoseconds after 1970-01-01. -/
def ofUnix? (seconds : Int) (nanos : Nat) : Option Instant := do
  let date ← Date.ofDayNumber? (seconds.fdiv 86400)
  of? date (seconds.fmod 86400).toNat nanos

/-! ### Writing -/

/-- Whether the instant lies in a leap second. -/
def isLeap (t : Instant) : Bool := 1000000000 ≤ t.nanos

/-- The hour, minute and second of an instant; a leap second has number 60. -/
def clock (t : Instant) : List Char :=
  let second := t.second % 60 + (if t.isLeap then 1 else 0)
  Date.padded 2 (t.second / 3600) ++ ':' :: Date.padded 2 (t.second / 60 % 60)
    ++ ':' :: Date.padded 2 second

/-- The fraction of a second, in as few groups of three digits as it takes. -/
def fraction (t : Instant) : List Char :=
  let nanos := t.nanos % 1000000000
  if nanos = 0 then []
  else if nanos % 1000000 = 0 then '.' :: Date.padded 3 (nanos / 1000000)
  else if nanos % 1000 = 0 then '.' :: Date.padded 6 (nanos / 1000)
  else '.' :: Date.padded 9 nanos

def text (t : Instant) : String := String.ofList (t.date.chars ++ 'T' :: t.clock ++ ['Z'])

/-- The text of an instant to the nanosecond. -/
def fullText (t : Instant) : String :=
  String.ofList (t.date.chars ++ 'T' :: t.clock ++ t.fraction ++ ['Z'])

/-! ### Reading -/

/-- A number of exactly `width` digits at the beginning of a text, and the rest. -/
def readDigits? (width : Nat) (s : List Char) : Option (Nat × List Char) :=
  let digits := s.take width
  if digits.length = width ∧ digits.all Char.isDigit then
    some (Date.number digits, s.drop width)
  else none

/-- The nanoseconds of a fraction at the beginning of a text, if there is one. Digits behind the
ninth are dropped. -/
def readFraction? : List Char → Option (Nat × List Char)
  | '.' :: s =>
    let digits := s.takeWhile Char.isDigit
    if digits.isEmpty then none
    else
      let kept := digits.take 9
      some (Date.number kept * Nat.pow 10 (9 - kept.length), s.drop digits.length)
  | s => some (0, s)

def readSign? : List Char → Option (Bool × List Char)
  | '+' :: s => some (false, s)
  | '-' :: s => some (true, s)
  | '\u2212' :: s => some (true, s)
  | _ => none

/-- An offset from UTC in seconds at the beginning of a text: `Z`, or a sign, hours, whatever
`separator?` takes, and minutes. -/
def readOffset? (separator? : List Char → Option (List Char)) (s : List Char) :
    Option (Int × List Char) :=
  match s with
  | 'Z' :: rest => some (0, rest)
  | 'z' :: rest => some (0, rest)
  | _ => do
    let (negative, s) ← readSign? s
    let (hours, s) ← readDigits? 2 s
    let s ← separator? s
    let (minutes, s) ← readDigits? 2 s
    if hours ≤ 23 ∧ minutes ≤ 59 then
      let seconds : Int := hours * 3600 + minutes * 60
      pure (if negative then -seconds else seconds, s)
    else none

/-- The instant whose local date, time and offset are given. A second numbered 60 is a leap
second. -/
def ofLocal? (date : Date) (hour minute second nanos : Nat) (offset : Int) : Option Instant := do
  if hour ≤ 23 ∧ minute ≤ 59 ∧ second ≤ 60 then
    let leap := second = 60
    let inDay : Int := hour * 3600 + minute * 60 + (if leap then 59 else second) - offset
    let nanos := if leap then nanos + 1000000000 else nanos
    let date ←
      if 0 ≤ inDay ∧ inDay < 86400 then some date
      else Date.ofDayNumber? (date.dayNumber + inDay.fdiv 86400)
    of? date (inDay.fmod 86400).toNat nanos
  else none

/-- The text behind the mark between a date and a time. -/
def behindMark? : List Char → Option (List Char)
  | c :: s => if c = 'T' ∨ c = 't' ∨ c = ' ' then some s else none
  | [] => none

/-- The instant of a text with numbers of fixed width that holds nothing else. -/
def ofText? (s : String) : Option Instant := do
  let (year, s) ← readDigits? 4 s.toList
  let s ← Date.behind? false '-' s
  let (month, s) ← readDigits? 2 s
  let s ← Date.behind? false '-' s
  let (day, s) ← readDigits? 2 s
  let s ← behindMark? s
  let (hour, s) ← readDigits? 2 s
  let s ← Date.behind? false ':' s
  let (minute, s) ← readDigits? 2 s
  let s ← Date.behind? false ':' s
  let (second, s) ← readDigits? 2 s
  let (nanos, s) ← readFraction? s
  let (offset, s) ← readOffset? (Date.behind? false ':') s
  let date ← Date.of? year month day
  if s.isEmpty then ofLocal? date hour minute second nanos offset else none

/-- The text behind colons and blanks. -/
def skipColons (s : List Char) : List Char := s.dropWhile fun c => c == ':' || isBlank c

/-- An offset, or the letters `UTC` in any case. -/
def readZone? (s : List Char) : Option (Int × List Char) :=
  if (s.take 3).map Char.toUpper = ['U', 'T', 'C'] then some (0, s.drop 3)
  else readOffset? (some ∘ skipColons) s

/-- The instant of a text with blanks allowed between its parts. -/
def ofSpacedText? (s : String) : Option Instant := do
  let ((year, month, day), s) ← Date.readFields? true s.toList
  let s ← behindMark? s
  let (hour, s) ← Date.readPair? s
  let s ← Date.behind? true ':' s
  let (minute, s) ← Date.readPair? s
  let s ← Date.behind? true ':' s
  let (second, s) ← Date.readPair? s
  let (nanos, s) ← readFraction? s
  let (offset, s) ← readZone? (trimStart s)
  let date ← Date.of? year month day
  if (trimStart s).isEmpty then ofLocal? date hour minute second nanos offset else none

end Instant

end AqlGateway
