/-!
# UTF-8

* `Utf8.decode` — the characters of bytes, or where and how the bytes are not UTF-8;
* `Utf8.Fault.message` — the text of a fault;
* `Utf8.encode` — the bytes of a text.
-/

namespace AqlGateway.Text.Utf8

/-- Where bytes stop to be UTF-8: `index` bytes are good, and behind them stands the beginning of a
character that either ends too early or goes wrong after `length` bytes. -/
inductive Fault
  | incomplete (index : Nat)
  | invalid (length index : Nat)
  deriving DecidableEq, Repr

def Fault.message : Fault → String
  | incomplete index => "incomplete utf-8 byte sequence from index " ++ toString index
  | invalid length index =>
    "invalid utf-8 sequence of " ++ toString length ++ " bytes from index " ++ toString index

def within (low high b : UInt8) : Bool := low ≤ b && b ≤ high

/-- Whether a byte continues a character. -/
def continues (b : UInt8) : Bool := within 0x80 0xBF b

/-- Whether a byte may follow the first byte of a character of three bytes. -/
def secondOfThree (first b : UInt8) : Bool :=
  if first = 0xE0 then within 0xA0 0xBF b
  else if first = 0xED then within 0x80 0x9F b
  else continues b

/-- Whether a byte may follow the first byte of a character of four bytes. -/
def secondOfFour (first b : UInt8) : Bool :=
  if first = 0xF0 then within 0x90 0xBF b
  else if first = 0xF4 then within 0x80 0x8F b
  else continues b

/-- The bits that a continuing byte adds to a code point. -/
def extend (n : Nat) (b : UInt8) : Nat := n * 64 + b.toNat % 64

/-- The characters of bytes that stand behind `index` others. -/
def decodeFrom (index : Nat) : List UInt8 → Except Fault (List Char)
  | [] => .ok []
  | a :: s =>
    if a < 0x80 then (decodeFrom (index + 1) s).map (Char.ofNat a.toNat :: ·)
    else if within 0xC2 0xDF a then
      match s with
      | [] => .error (.incomplete index)
      | b :: s =>
        if continues b then
          (decodeFrom (index + 2) s).map (Char.ofNat (extend (a.toNat % 32) b) :: ·)
        else .error (.invalid 1 index)
    else if within 0xE0 0xEF a then
      match s with
      | [] => .error (.incomplete index)
      | [b] => .error (if secondOfThree a b then .incomplete index else .invalid 1 index)
      | b :: c :: s =>
        if !secondOfThree a b then .error (.invalid 1 index)
        else if !continues c then .error (.invalid 2 index)
        else
          let point := extend (extend (a.toNat % 16) b) c
          (decodeFrom (index + 3) s).map (Char.ofNat point :: ·)
    else if within 0xF0 0xF4 a then
      match s with
      | [] => .error (.incomplete index)
      | [b] => .error (if secondOfFour a b then .incomplete index else .invalid 1 index)
      | [b, c] =>
        .error (if !secondOfFour a b then .invalid 1 index
          else if continues c then .incomplete index else .invalid 2 index)
      | b :: c :: d :: s =>
        if !secondOfFour a b then .error (.invalid 1 index)
        else if !continues c then .error (.invalid 2 index)
        else if !continues d then .error (.invalid 3 index)
        else
          let point := extend (extend (extend (a.toNat % 8) b) c) d
          (decodeFrom (index + 4) s).map (Char.ofNat point :: ·)
    else .error (.invalid 1 index)

def decode (bytes : List UInt8) : Except Fault String :=
  (decodeFrom 0 bytes).map String.ofList

def encode (s : String) : List UInt8 := s.toUTF8.toList

end AqlGateway.Text.Utf8
