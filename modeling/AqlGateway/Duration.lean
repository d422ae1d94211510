/-!
# Durations

A duration is a whole number of milliseconds. Its text uses the largest unit that is not above
the duration and drops trailing zeros of the fraction: `500ms`, `1.5s`, `10s`, and `0ns` for none.
-/

namespace AqlGateway

structure Duration where
  milliseconds : Nat
  deriving DecidableEq, Repr, Inhabited

namespace Duration

/-- The fraction of a second that `milliseconds < 1000` make, with its point and without trailing
zeros. -/
def fractionText (milliseconds : Nat) : String :=
  if milliseconds = 0 then ""
  else if milliseconds % 100 = 0 then "." ++ toString (milliseconds / 100)
  else if milliseconds % 10 = 0 then
    "." ++ toString (milliseconds / 100) ++ toString (milliseconds / 10 % 10)
  else
    "." ++ toString (milliseconds / 100) ++ toString (milliseconds / 10 % 10)
      ++ toString (milliseconds % 10)

def text (d : Duration) : String :=
  if d.milliseconds = 0 then "0ns"
  else if d.milliseconds < 1000 then toString d.milliseconds ++ "ms"
  else toString (d.milliseconds / 1000) ++ fractionText (d.milliseconds % 1000) ++ "s"

end Duration

end AqlGateway
