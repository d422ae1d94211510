/-!
# Bytes

* `bytesOfHex` — the bytes of pairs of hexadecimal digits;
* `byteLines` — the lines of bytes, without their line feeds.
-/

namespace AqlGateway.Text

/-- The value of a hexadecimal digit, zero for anything else. -/
def hexDigit (c : Char) : UInt8 :=
  if '0' ≤ c ∧ c ≤ '9' then UInt8.ofNat (c.toNat - '0'.toNat)
  else if 'a' ≤ c ∧ c ≤ 'f' then UInt8.ofNat (c.toNat - 'a'.toNat + 10)
  else if 'A' ≤ c ∧ c ≤ 'F' then UInt8.ofNat (c.toNat - 'A'.toNat + 10)
  else 0

def bytesOfPairs : List Char → List UInt8
  | a :: b :: rest => (hexDigit a * 16 + hexDigit b) :: bytesOfPairs rest
  | _ => []

def bytesOfHex (s : String) : List UInt8 := bytesOfPairs s.toList

/-- The lines of bytes; what stands behind the last line feed is a line unless it is empty. -/
def byteLines : List UInt8 → List (List UInt8)
  | [] => []
  | b :: rest =>
    if b = 10 then [] :: byteLines rest
    else match byteLines rest with
      | [] => [[b]]
      | line :: more => (b :: line) :: more

end AqlGateway.Text
