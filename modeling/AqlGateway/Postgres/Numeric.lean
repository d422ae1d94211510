import AqlGateway.Binary64.Reader
import AqlGateway.Text.Split

/-!
# Decimal numbers of any size

The database sends a decimal number as digits and the place of its point. It is kept in 96 bits:
fraction digits that do not fit are rounded away, and a number whose whole part does not fit, or
with more than 28 fraction digits, is not read.

* `Numeric.ofText?` — the number of a decimal text;
* `Numeric.fitted?` — the number in 96 bits;
* `Numeric.toReal` — the double that stands for it.
-/

namespace AqlGateway.Postgres

/-- The number `coefficient / 10 ^ scale` with a sign. -/
structure Numeric where
  negative : Bool
  coefficient : Nat
  scale : Nat
  deriving DecidableEq, Repr, Inhabited

namespace Numeric

/-! ### Reading -/

/-- The number of digits with or without a point. -/
def ofText? (s : String) : Option Numeric :=
  let (negative, body) := Binary64.splitSign s.toList
  let whole := body.takeWhile Char.isDigit
  let fraction? := match body.dropWhile Char.isDigit with
    | [] => some []
    | '.' :: fraction => if fraction.all Char.isDigit then some fraction else none
    | _ => none
  match fraction? with
  | none => none
  | some fraction =>
    if whole.isEmpty && fraction.isEmpty then none
    else some ⟨negative, Binary64.digitsValue (Binary64.digitsValue 0 whole) fraction,
      fraction.length⟩

/-! ### The limits -/

/-- One beyond the largest coefficient. -/
def coefficientCount : Nat := 79228162514264337593543950336

def scaleLimit : Nat := 28

/-- The number without zeros behind the last fraction digit that is kept at most, of which there are
at most `steps`. -/
def trimmed : (steps : Nat) → Numeric → Numeric
  | 0, n => n
  | steps + 1, n =>
    if scaleLimit < n.scale ∧ n.coefficient % 10 = 0 then
      trimmed steps ⟨n.negative, n.coefficient / 10, n.scale - 1⟩
    else n

/-- The number with `dropped` fraction digits rounded away, and with as many more, but no more
than `steps`, as it takes to fit. -/
def rounded? (n : Numeric) : (steps dropped : Nat) → Option Numeric
  | steps, dropped =>
    let coefficient := Binary64.roundHalfEven n.coefficient (Nat.pow 10 dropped)
    if coefficient < coefficientCount then some ⟨n.negative, coefficient, n.scale - dropped⟩
    else match steps with
      | 0 => none
      | steps + 1 => rounded? n steps (dropped + 1)

/-- The number in 96 bits. -/
def fitted? (n : Numeric) : Option Numeric :=
  let n := n.trimmed n.scale
  if scaleLimit < n.scale then none else rounded? n n.scale 0

/-! ### As a double -/

/-- The sum of whole part and fraction, brought back to the number of fraction digits. -/
def mended (whole fraction : Binary64) (scale : Nat) : Binary64 :=
  let power := Binary64.ofDecimal false 1 scale
  (((whole.add fraction).mul power).round).div power

/-- The magnitude of a number as a double. Whole part and fraction are rounded apart. -/
def magnitude (n : Numeric) : Binary64 :=
  if n.scale = 0 then Binary64.ofInt n.coefficient
  else
    let power := Nat.pow 10 n.scale
    let whole := Binary64.ofInt (n.coefficient / power : Nat)
    let fraction := (Binary64.ofInt (n.coefficient % power : Nat)).div (Binary64.ofInt power)
    if fraction.isZero then whole else mended whole fraction n.scale

/-- The double that stands for a number; zero has no sign. -/
def toReal (n : Numeric) : Binary64 :=
  if n.coefficient = 0 then Binary64.zero false else n.magnitude.withSign n.negative

end Numeric

end AqlGateway.Postgres
