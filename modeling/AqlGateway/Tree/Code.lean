import AqlGateway.Calendar.Date
import AqlGateway.Error

/-!
# Tree codes

A code is the letter `C` and a number, written with at least three digits.

* `codeNumber?` — the number of a code, whatever follows its digits;
* `formatCode` — the code of a number;
* `nextCodeAfter` — the code behind the highest number in use.
-/

namespace AqlGateway.Tree

/-- The 64-bit number of a run of digits; none for no digits and for a number above 64 bits. -/
def wordOfDigits? (digits : List Char) : Option UInt64 :=
  let n := Date.number digits
  if digits.isEmpty then none
  else if n < UInt64.size then some (UInt64.ofNat n)
  else none

def codeNumber? (code : String) : Option UInt64 :=
  match code.toList with
  | 'C' :: rest => wordOfDigits? (rest.takeWhile Char.isDigit)
  | _ => none

def formatCode (n : UInt64) : String := String.ofList ('C' :: Date.padded 3 n.toNat)

/-- The code behind the highest number in use. -/
def nextCodeAfter (highest : UInt64) : Except Error String :=
  if highest.toNat + 1 < UInt64.size then .ok (formatCode (highest + 1))
  else .error (.codesExhausted highest)

end AqlGateway.Tree
