import AqlGateway.Binary64.Shortest

/-!
# The text of a double

Both texts have the fewest digits that read back.

* `plainText` — positional at every size and without a point on whole numbers: `100000`, `0.5`,
  `-0`, `NaN`, `inf`;
* `jsonText` — positional for magnitudes from `10⁻⁵` to below `10¹⁶`, with `.0` on whole numbers,
  and with an exponent elsewhere: `4.0`, `1e-7`, `1.5e+300`.
-/

namespace AqlGateway.Binary64

def signText (negative : Bool) : String := if negative then "-" else ""

def digitsOf (n : Nat) : List Char := Nat.toDigits 10 n

def zeros (n : Nat) : List Char := List.replicate n '0'

/-- Digits with the point after the first `point` of them, and `whole` behind a whole number. -/
def positional (whole : List Char) (digits : List Char) (point : Int) : List Char :=
  if point ≤ 0 then '0' :: '.' :: zeros point.natAbs ++ digits
  else if digits.length ≤ point.toNat then digits ++ zeros (point.toNat - digits.length) ++ whole
  else digits.take point.toNat ++ '.' :: digits.drop point.toNat

/-- Digits with a point after the first and a signed exponent. -/
def scientific (digits : List Char) (point : Int) : List Char :=
  let exponent := point - 1
  let mark := if exponent < 0 then '-' else '+'
  let fraction := if digits.length ≤ 1 then [] else '.' :: digits.drop 1
  digits.take 1 ++ fraction ++ 'e' :: mark :: digitsOf exponent.natAbs

/-- The text of a double, positional at every size. -/
def plainText : Binary64 → String
  | nan => "NaN"
  | infinite negative => signText negative ++ "inf"
  | finite negative code =>
    if code.val = 0 then signText negative ++ "0"
    else
      let d := shortest .upward code
      let digits := digitsOf d.digits
      signText negative ++ String.ofList (positional [] digits (digits.length + d.exponent))

/-- The text of a double as a JSON number; JSON writes `null` for what is no finite number. -/
def jsonText : Binary64 → String
  | nan => "null"
  | infinite _ => "null"
  | finite negative code =>
    if code.val = 0 then signText negative ++ "0.0"
    else
      let d := shortest .toEven code
      let digits := digitsOf d.digits
      let point := digits.length + d.exponent
      let text :=
        if -5 < point ∧ point ≤ 16 then positional ['.', '0'] digits point
        else scientific digits point
      signText negative ++ String.ofList text

end AqlGateway.Binary64
