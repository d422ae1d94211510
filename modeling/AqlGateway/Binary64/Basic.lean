/-!
# Double-precision numbers

A finite double is a whole number of units of `2⁻¹⁰⁷⁴`. The magnitudes are numbered in ascending
order by their codes, the bit patterns without the sign: below `2⁵²` the code is the number of
units itself, above it every `2⁵²` codes double the distance between neighbours.

* `unitsOf` — the units of a magnitude's code;
* `nearestCode` — the code whose magnitude is nearest to a fraction, a tie going to the even code;
* `Binary64.ofRatio` — the double nearest to a signed fraction, infinite beyond the largest;
* `Binary64.ofInt`, `Binary64.truncate` — to and from whole numbers;
* `Binary64.add`, `mul`, `div`, `round` — the rounded operations;
* `Binary64.single` — the nearest single-precision number, as a double.
-/

namespace AqlGateway

/-- The number of finite magnitudes. -/
def Binary64.codeCount : Nat := 2047 * Nat.pow 2 52

/-- A double-precision number; the values that are not numbers are one. -/
inductive Binary64
  | nan
  | infinite (negative : Bool)
  | finite (negative : Bool) (code : Fin Binary64.codeCount)
  deriving DecidableEq, Repr

namespace Binary64

/-! ### Rounding to a binary grid -/

/-- The number of units of a magnitude on a grid with `width` fraction bits. -/
def unitsOn (width code : Nat) : Nat :=
  let exponent := code / Nat.pow 2 width
  let fraction := code % Nat.pow 2 width
  if exponent = 0 then fraction else (Nat.pow 2 width + fraction) * Nat.pow 2 (exponent - 1)

/-- `numerator / denominator` rounded to the nearest whole number, a tie to the even one. -/
def roundHalfEven (numerator denominator : Nat) : Nat :=
  let q := numerator / denominator
  let twice := 2 * (numerator % denominator)
  if twice < denominator then q
  else if denominator < twice then q + 1
  else if q % 2 = 0 then q else q + 1

/-- The code of the magnitude nearest to `numerator / denominator` on the grid of `width` fraction
bits in units of `2^-lowest`. -/
def nearestCode (width lowest numerator denominator : Nat) : Nat :=
  let scaled := numerator * Nat.pow 2 lowest
  let shift := Nat.log2 (scaled / denominator) - width
  shift * Nat.pow 2 width + roundHalfEven scaled (denominator * Nat.pow 2 shift)

/-! ### Doubles as fractions -/

/-- The number of units of a magnitude's code. -/
def unitsOf (code : Nat) : Nat := unitsOn 52 code

/-- The exponent of the unit: there are `2 ^ unitPlaces` units in one. -/
def unitPlaces : Nat := 1074

def unitsInOne : Nat := Nat.pow 2 unitPlaces

/-- The double with a sign and a magnitude's code, infinite beyond the largest finite one. -/
def ofCode (negative : Bool) (code : Nat) : Binary64 :=
  if h : code < codeCount then finite negative ⟨code, h⟩ else infinite negative

def zero (negative : Bool) : Binary64 := ofCode negative 0

/-- The double nearest to a signed fraction; a zero denominator stands for infinity. -/
def ofRatio (negative : Bool) (numerator denominator : Nat) : Binary64 :=
  if denominator = 0 then infinite negative
  else ofCode negative (nearestCode 52 unitPlaces numerator denominator)

def ofInt (n : Int) : Binary64 := ofRatio (n < 0) n.natAbs 1

def negate : Binary64 → Binary64
  | nan => nan
  | infinite negative => infinite (!negative)
  | finite negative code => finite (!negative) code

/-- The magnitude of a double with the sign `negative`. -/
def withSign (negative : Bool) : Binary64 → Binary64
  | nan => nan
  | infinite _ => infinite negative
  | finite _ code => finite negative code

def isZero : Binary64 → Bool
  | finite _ code => code.val == 0
  | _ => false

def isFinite : Binary64 → Bool
  | finite _ _ => true
  | _ => false

/-- The signed number of units of a finite double. -/
def units (negative : Bool) (code : Nat) : Int :=
  if negative then -(unitsOf code : Int) else unitsOf code

/-! ### Whole numbers -/

/-- The whole part of the magnitude of a finite double. -/
def wholePart (code : Nat) : Nat := unitsOf code / unitsInOne

/-- A whole number brought into the range of 64-bit signed integers. -/
def clamp64 (n : Int) : Int64 :=
  if n < Int64.minValue.toInt then Int64.minValue
  else if Int64.maxValue.toInt < n then Int64.maxValue
  else Int64.ofInt n

/-- The whole part of a double as a 64-bit integer, held at the limits of that range. -/
def truncate : Binary64 → Int64
  | nan => 0
  | infinite negative => if negative then Int64.minValue else Int64.maxValue
  | finite negative code =>
    clamp64 (if negative then -(wholePart code.val : Int) else wholePart code.val)

/-- The nearest whole number to the magnitude of a finite double, a half going up. -/
def roundedPart (code : Nat) : Nat := (2 * unitsOf code + unitsInOne) / (2 * unitsInOne)

/-- The nearest whole number, a half going away from zero, as a double. -/
def round : Binary64 → Binary64
  | finite negative code => ofRatio negative (roundedPart code.val) 1
  | x => x

/-! ### Rounded operations -/

def add : Binary64 → Binary64 → Binary64
  | nan, _ => nan
  | _, nan => nan
  | infinite s, infinite t => if s = t then infinite s else nan
  | infinite s, finite _ _ => infinite s
  | finite _ _, infinite t => infinite t
  | finite s a, finite t b =>
    let sum := units s a + units t b
    if sum = 0 then zero (s && t) else ofRatio (sum < 0) sum.natAbs unitsInOne

def mul : Binary64 → Binary64 → Binary64
  | nan, _ => nan
  | _, nan => nan
  | infinite s, infinite t => infinite (s != t)
  | infinite s, finite t b => if b.val = 0 then nan else infinite (s != t)
  | finite s a, infinite t => if a.val = 0 then nan else infinite (s != t)
  | finite s a, finite t b =>
    ofRatio (s != t) (unitsOf a * unitsOf b) (unitsInOne * unitsInOne)

def div : Binary64 → Binary64 → Binary64
  | nan, _ => nan
  | _, nan => nan
  | infinite _, infinite _ => nan
  | infinite s, finite t _ => infinite (s != t)
  | finite s _, infinite t => zero (s != t)
  | finite s a, finite t b =>
    if a.val = 0 ∧ b.val = 0 then nan else ofRatio (s != t) (unitsOf a) (unitsOf b)

/-! ### Single precision -/

def singleCodeCount : Nat := 255 * Nat.pow 2 23

/-- The nearest single-precision number, which is a double too. -/
def single : Binary64 → Binary64
  | finite negative code =>
    let near := nearestCode 23 149 (unitsOf code) unitsInOne
    if near < singleCodeCount then ofRatio negative (unitsOn 23 near) (Nat.pow 2 149)
    else infinite negative
  | x => x

end Binary64

end AqlGateway
