import AqlGateway.Binary64.Basic

/-!
# Reading a double

A decimal text is an optional sign and then digits with an optional point and an optional
exponent, or one of the words `nan`, `inf` and `infinity` in any case. It is read as the double
nearest to it, a tie going to the even one.

* `ofDecimal` — the double nearest to `digits * 10 ^ exponent`;
* `ofText?` — the double of a decimal text.
-/

namespace AqlGateway.Binary64

/-- The value of a run of decimal digits behind the digits of `start`. -/
def digitsValue (start : Nat) (digits : List Char) : Nat :=
  digits.foldl (fun n c => n * 10 + (c.toNat - '0'.toNat)) start

/-- The double nearest to `digits * 10 ^ exponent`. A size beyond `10^±400` is settled without
computing the power. -/
def ofDecimal (negative : Bool) (digits : Nat) (exponent : Int) : Binary64 :=
  if digits = 0 then zero negative
  else
    let size := (Nat.toDigits 10 digits).length + exponent
    if size < -400 then zero negative
    else if 400 < size then infinite negative
    else match exponent with
      | .ofNat n => ofRatio negative (digits * Nat.pow 10 n) 1
      | .negSucc n => ofRatio negative digits (Nat.pow 10 (n + 1))

def splitSign : List Char → Bool × List Char
  | '-' :: s => (true, s)
  | '+' :: s => (false, s)
  | s => (false, s)

/-- The exponent at the end of a decimal text: nothing, or `e`, an optional sign and digits. -/
def exponent? : List Char → Option Int
  | [] => some 0
  | c :: s =>
    if c = 'e' ∨ c = 'E' then
      let (negative, digits) := splitSign s
      if digits.isEmpty || !digits.all Char.isDigit then none
      else
        let n := digitsValue 0 digits
        some (if negative then -(n : Int) else n)
    else none

def unsigned? (negative : Bool) (s : List Char) : Option Binary64 :=
  let whole := s.takeWhile Char.isDigit
  let rest := s.dropWhile Char.isDigit
  let (fraction, tail) := match rest with
    | '.' :: r => (r.takeWhile Char.isDigit, r.dropWhile Char.isDigit)
    | r => ([], r)
  if whole.isEmpty && fraction.isEmpty then none
  else (exponent? tail).map fun e =>
    ofDecimal negative (digitsValue (digitsValue 0 whole) fraction) (e - fraction.length)

/-- The double of a decimal text. -/
def ofText? (s : String) : Option Binary64 :=
  let (negative, body) := splitSign s.toList
  let word := String.ofList (body.map Char.toLower)
  if word = "nan" then some nan
  else if word = "inf" ∨ word = "infinity" then some (infinite negative)
  else unsigned? negative body

end AqlGateway.Binary64
