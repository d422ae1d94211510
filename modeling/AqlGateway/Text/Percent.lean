import AqlGateway.Text.Bytes
import AqlGateway.Text.Utf8

/-!
# Percent encoding

In an address a percent sign and two hexadecimal digits stand for a byte.

* `Percent.bytes` — the bytes that a text stands for;
* `Percent.decode?` — the text that a text stands for, if its bytes are one.
-/

namespace AqlGateway.Text.Percent

def isHexDigit (c : Char) : Bool :=
  c.isDigit || ('a' ≤ c && c ≤ 'f') || ('A' ≤ c && c ≤ 'F')

def bytes : List Char → List UInt8
  | [] => []
  | '%' :: a :: b :: s =>
    if isHexDigit a && isHexDigit b then (hexDigit a * 16 + hexDigit b) :: bytes s
    else Utf8.encode "%" ++ bytes (a :: b :: s)
  | c :: s => Utf8.encode (String.singleton c) ++ bytes s

/-- The text that characters stand for. -/
def decode? (s : List Char) : Option String := (Utf8.decode (bytes s)).toOption

end AqlGateway.Text.Percent
