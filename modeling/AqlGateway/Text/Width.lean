import AqlGateway.Text.Width.Ranges

/-!
# The width of text on a terminal

A character takes one column, except that wide East Asian characters take two and marks that
extend the character in front of them take none. A picture takes two columns, whatever it is
composed of: a symbol and the selector of its picture, a picture and a skin tone, or several
pictures joined to one.

* `charWidth` — the number of columns of a character by itself;
* `beginsPicture` — whether a picture begins at a character;
* `width` — the number of columns of a text.
-/

namespace AqlGateway.Text

/-- The number of columns of a character by itself. -/
def charWidth (c : Char) : Nat :=
  if inRanges markRanges c then 0
  else if inRanges wideRanges c then 2
  else 1

/-- The selector behind a symbol that is to be shown as a picture. -/
def pictureSelector : Char := '\ufe0f'

/-- The selector behind a picture that is to be shown as a symbol. -/
def symbolSelector : Char := '\ufe0e'

/-- The character that joins two pictures to one. -/
def joiner : Char := '\u200d'

def isTone (c : Char) : Bool := 0x1F3FB ≤ c.toNat && c.toNat ≤ 0x1F3FF

/-- The number of columns of a character at which no picture begins. A picture that is to be shown as
a symbol takes one column, unless it is a framed ideograph. -/
def symbolWidth (c : Char) (next : Option Char) : Nat :=
  let isFramed := 0x1F200 ≤ c.toNat && c.toNat ≤ 0x1F2FF
  if inRanges pictureRanges c && next == some symbolSelector && !isFramed then 1 else charWidth c

/-- Whether a picture begins at a character with `next` behind it. -/
def beginsPicture (c : Char) (next : Option Char) : Bool :=
  (inRanges pictureRanges c && next != some symbolSelector)
    || (inRanges symbolRanges c && next == some pictureSelector)
    || (inRanges tintableRanges c && next.any isTone)

inductive Preceding
  | text
  /-- A picture, of which this was the last character. -/
  | picture (last : Char)
  /-- A picture and a joiner. -/
  | joint
  deriving DecidableEq, Repr

/-- The columns that a character adds, and what stands in front of the character behind it. -/
def advanceWidth (preceding : Preceding) (c : Char) (next : Option Char) : Nat × Preceding :=
  let alone := if beginsPicture c next then (2, .picture c) else (symbolWidth c next, .text)
  match preceding with
  | .text => alone
  | .joint => if beginsPicture c next then (0, .picture c) else alone
  | .picture last =>
    if c = joiner then (0, .joint)
    else if c = pictureSelector then (0, .picture c)
    else if isTone c && inRanges tintableRanges last then (0, .picture c)
    else alone

/-- The number of columns of a text behind another. -/
def widthBehind (preceding : Preceding) : List Char → Nat
  | [] => 0
  | c :: s =>
    let (columns, behind) := advanceWidth preceding c s.head?
    columns + widthBehind behind s

/-- The number of columns of a text. -/
def width (s : List Char) : Nat := widthBehind .text s

end AqlGateway.Text
