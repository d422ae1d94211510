import AqlGateway.Binary64.Reader
import AqlGateway.Json.Basic
import AqlGateway.Json.Text

/-!
# The meaning of JSON texts

* `JsonNumeral.meaning?` — a whole number that fits 64 bits, or a double; none when it is too large
  for a double;
* `decodeString?` — the string that escapes stand for; a lone half of a surrogate pair is none;
* `JsonText.meaning?` — the value of a tree that nests no deeper than allowed;
* `Json.read?` — the value of a text.
-/

namespace AqlGateway

/-! ### Numbers -/

namespace JsonNumeral

inductive Meaning
  | integer (n : JsonInteger)
  | real (x : Binary64)
  deriving DecidableEq, Repr

/-- The largest unsigned 64-bit number. -/
def wordLimit : Nat := 18446744073709551615

/-- The largest exponent that is read. -/
def exponentLimit : Nat := 2147483647

/-- The digits of a number that are kept: those in front of the first that would lead above the
64-bit limit, and how many are left. -/
def keepDigits (significand : Nat) : List Char → Nat × Nat
  | [] => (significand, 0)
  | c :: rest =>
    let next := significand * 10 + (c.toNat - '0'.toNat)
    if next ≤ wordLimit then keepDigits next rest else (significand, rest.length + 1)

/-- A double divided by `10 ^ 308` until the exponent that is left is a power of ten below that
size, and then scaled by it; none when the result is infinite. -/
def scale? : (steps : Nat) → Binary64 → (exponent : Int) → Option Binary64
  | 0, x, _ => some x
  | steps + 1, x, exponent =>
    if exponent.natAbs ≤ 308 then
      let power := Binary64.ofDecimal false 1 exponent.natAbs
      if 0 ≤ exponent then
        let y := x.mul power
        if y.isFinite then some y else none
      else some (x.div power)
    else if x.isZero then some x
    else if 0 ≤ exponent then none
    else scale? steps (x.div (Binary64.ofDecimal false 1 308)) (exponent + 308)

/-- The double of the digits that are kept and an exponent of ten. The digits are rounded first
and then scaled by a rounded power of ten. -/
def real? (negative : Bool) (significand : Nat) (exponent : Int) : Option Meaning :=
  (scale? 4 (Binary64.ofInt significand) exponent).map fun x => .real (x.withSign negative)

def decimal? (numeral : JsonNumeral) (significand : Nat) (dropped : Nat) : Option Meaning :=
  let digits := numeral.fraction.getD []
  let (significand, ignored) := keepDigits significand digits
  let start : Int := dropped - (digits.length - ignored : Nat)
  match numeral.exponent with
  | none => real? numeral.negative significand start
  | some (down, exponent) =>
    let size := Binary64.digitsValue 0 exponent
    if exponentLimit < size then
      if significand ≠ 0 ∧ down = false then none
      else some (.real (Binary64.zero numeral.negative))
    else real? numeral.negative significand (if down then start - size else start + size)

/-- The whole number of a sign and digits; negative zero and what does not fit is a double. -/
def wholeMeaning (negative : Bool) (significand : Nat) : Meaning :=
  let n : Int := if negative then -significand else significand
  if h : -9223372036854775808 ≤ n ∧ n < 18446744073709551616 then
    if negative ∧ significand = 0 then .real (Binary64.zero true) else .integer ⟨n, h⟩
  else .real ((Binary64.ofInt significand).withSign negative)

/-- The meaning of a number, none when it is too large for a double. -/
def meaning? (numeral : JsonNumeral) : Option Meaning :=
  let (significand, dropped) := keepDigits 0 numeral.whole
  if numeral.fraction.isNone ∧ numeral.exponent.isNone ∧ dropped = 0 then
    some (wholeMeaning numeral.negative significand)
  else decimal? numeral significand dropped

def Meaning.json : Meaning → Json
  | integer n => .integer n
  | real x => .real x

end JsonNumeral

/-! ### Strings -/

def hexValue (c : Char) : Nat :=
  if c.isDigit then c.toNat - '0'.toNat
  else if c.toNat < 'a'.toNat then c.toNat - 'A'.toNat + 10
  else c.toNat - 'a'.toNat + 10

def hexWord (a b c d : Char) : Nat :=
  ((hexValue a * 16 + hexValue b) * 16 + hexValue c) * 16 + hexValue d

/-- The character that a letter behind a backslash stands for. -/
def shortEscape (c : Char) : Char :=
  if c = 'b' then '\x08'
  else if c = 'f' then '\x0c'
  else if c = 'n' then '\n'
  else if c = 'r' then '\r'
  else if c = 't' then '\t'
  else c

/-- Whether a 16-bit word is the first half of a surrogate pair. -/
def isHighSurrogate (n : Nat) : Bool := 0xD800 ≤ n && n < 0xDC00

/-- Whether a 16-bit word is the second half of a surrogate pair. -/
def isLowSurrogate (n : Nat) : Bool := 0xDC00 ≤ n && n < 0xE000

def surrogatePair (high low : Nat) : Char :=
  Char.ofNat (0x10000 + (high - 0xD800) * 0x400 + (low - 0xDC00))

/-- The characters that a string with escapes stands for. -/
def decodeString? : List Char → Option (List Char)
  | [] => some []
  | '\\' :: 'u' :: a :: b :: c :: d :: s =>
    let word := hexWord a b c d
    if isHighSurrogate word then
      match s with
      | '\\' :: 'u' :: e :: f :: g :: h :: s =>
        let low := hexWord e f g h
        if isLowSurrogate low then (decodeString? s).map (surrogatePair word low :: ·) else none
      | _ => none
    else if isLowSurrogate word then none
    else (decodeString? s).map (Char.ofNat word :: ·)
  | '\\' :: c :: s => (decodeString? s).map (shortEscape c :: ·)
  | c :: s => (decodeString? s).map (c :: ·)

/-! ### Values -/

namespace JsonText

def text? (raw : List Char) : Option String := (decodeString? raw).map String.ofList

mutual

/-- The value of a tree in which arrays and objects nest at most `depth` levels. -/
def meaning? (depth : Nat) (tree : JsonText) : Option Json :=
  match tree with
  | null => some .null
  | bool b => some (.bool b)
  | number numeral => numeral.meaning?.map JsonNumeral.Meaning.json
  | string raw => (text? raw).map .string
  | array items => if depth = 0 then none else (itemsMeaning? (depth - 1) items).map .array
  | object members =>
    if depth = 0 then none else (membersMeaning? (depth - 1) members).map .ofMembers

def itemsMeaning? (depth : Nat) (items : List JsonText) : Option (List Json) :=
  match items with
  | [] => some []
  | item :: rest => do
    let value ← meaning? depth item
    let values ← itemsMeaning? depth rest
    pure (value :: values)

/-- The keys and values of members, in the order in which they are written. -/
def membersMeaning? (depth : Nat) (members : List (List Char × JsonText)) :
    Option (List (String × Json)) :=
  match members with
  | [] => some []
  | (key, value) :: rest => do
    let k ← text? key
    let v ← meaning? depth value
    let more ← membersMeaning? depth rest
    pure ((k, v) :: more)

end

end JsonText

namespace Json

/-- The number of levels that arrays and objects may nest. -/
def depthLimit : Nat := 127

def read? (s : String) : Option Json :=
  (JsonText.read? s).bind (JsonText.meaning? depthLimit)

end Json

end AqlGateway
