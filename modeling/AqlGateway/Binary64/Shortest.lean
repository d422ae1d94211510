import AqlGateway.Binary64.Basic

/-!
# The fewest digits of a double

A decimal reads back as a given double when it lies in the interval of the numbers that round to
it; the ends belong to the interval exactly when the code of the double is even. `shortest` finds
the decimal with the fewest digits in that interval, and of two such decimals the nearer one.

* `Decimal` — digits and the power of ten that they are multiplied by;
* `Tie` — what to do with two decimals at the same distance;
* `shortest` — the decimal of a positive magnitude.
-/

namespace AqlGateway.Binary64

/-- The number `digits * 10 ^ exponent`. -/
structure Decimal where
  digits : Nat
  exponent : Int
  deriving DecidableEq, Repr

/-- The choice between two decimals at the same distance from the exact value. -/
inductive Tie
  | upward
  | toEven
  deriving DecidableEq, Repr

/-- A fraction multiplied by a power of ten. -/
def scaleTen (numerator denominator : Nat) (exponent : Int) : Nat × Nat :=
  match exponent with
  | .ofNat n => (numerator * Nat.pow 10 n, denominator)
  | .negSucc n => (numerator, denominator * Nat.pow 10 (n + 1))

/-- The first exponent from `start` on, in at most `steps` steps, whose power of ten is above
`numerator / denominator`. -/
def exponentAbove (numerator denominator : Nat) : (steps : Nat) → (start : Int) → Int
  | 0, start => start
  | steps + 1, start =>
    let (n, d) := scaleTen numerator denominator (-start)
    if n < d then start else exponentAbove numerator denominator steps (start + 1)

/-- The least exponent whose power of ten is above `units / 2 ^ places`. -/
def decimalExponent (units places : Nat) : Int :=
  let binary : Int := (Nat.log2 units : Int) - places
  exponentAbove units (Nat.pow 2 places) 4 (binary * 30103 / 100000)

/-- The interval that rounds to a magnitude, in halves of a unit, and whether its ends belong to
it. -/
structure Interval where
  low : Nat
  value : Nat
  high : Nat
  closed : Bool

/-- The interval of the numbers that round to the magnitude with a positive code. -/
def interval (code : Nat) : Interval where
  low := unitsOf (code - 1) + unitsOf code
  value := 2 * unitsOf code
  high := unitsOf code + unitsOf (code + 1)
  closed := code % 2 = 0

/-- The decimal with `digits` digits next to the magnitude that lies in its interval, if any; the
nearer one of two. -/
def candidate? (tie : Tie) (i : Interval) (top : Int) (digits : Nat) : Option Decimal :=
  let exponent := top - digits
  -- everything is measured on the grid of `10 ^ exponent`
  let (value, unit) := scaleTen i.value (2 * unitsInOne) (-exponent)
  let (low, _) := scaleTen i.low (2 * unitsInOne) (-exponent)
  let (high, _) := scaleTen i.high (2 * unitsInOne) (-exponent)
  let below := value / unit
  let above := below + 1
  let belowFits := if i.closed then low ≤ below * unit else low < below * unit
  let aboveFits := if i.closed then above * unit ≤ high else above * unit < high
  let down := value - below * unit
  let up := above * unit - value
  let pick :=
    if down < up then below
    else if up < down then above
    else match tie with
      | .upward => above
      | .toEven => if below % 2 = 0 then below else above
  if belowFits && aboveFits then some ⟨pick, exponent⟩
  else if belowFits then some ⟨below, exponent⟩
  else if aboveFits then some ⟨above, exponent⟩
  else none

/-- The first of the candidates with `digits`, `digits + 1`, … digits. -/
def firstCandidate (tie : Tie) (i : Interval) (top : Int) : (steps digits : Nat) → Decimal
  | 0, digits => ⟨0, top - digits⟩
  | steps + 1, digits =>
    match candidate? tie i top digits with
    | some decimal => decimal
    | none => firstCandidate tie i top steps (digits + 1)

/-- A decimal without the zeros at the end of its digits, of which there are at most `steps`. -/
def Decimal.stripZeros : (steps : Nat) → Decimal → Decimal
  | 0, d => d
  | steps + 1, d =>
    if d.digits ≠ 0 ∧ d.digits % 10 = 0 then stripZeros steps ⟨d.digits / 10, d.exponent + 1⟩ else d

/-- The decimal with the fewest digits that reads back as the magnitude with a positive code.
Seventeen digits are always enough. -/
def shortest (tie : Tie) (code : Nat) : Decimal :=
  let top := decimalExponent (unitsOf code) unitPlaces
  (firstCandidate tie (interval code) top 17 1).stripZeros 18

end AqlGateway.Binary64
