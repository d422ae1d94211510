/-!
# Cutting and joining text

* `expect?` — the rest of a text behind a given beginning;
* `breakAt?` — a text cut in front of the first occurrence of a pattern;
* `splitOn` — the pieces of a text between the occurrences of a separator, never none;
* `lines` — the lines of a text, each without its terminator;
* `joinWith` — strings joined by a separator.
-/

namespace AqlGateway.Text

/-- The rest of `s` behind `lead`, when `s` begins with `lead`. -/
def expect? : (lead s : List Char) → Option (List Char)
  | [], s => some s
  | _ :: _, [] => none
  | c :: lead, d :: s => if c = d then expect? lead s else none

/-- A text begins with `lead` exactly when it is `lead` and a rest. -/
theorem expect?_eq_some_iff {lead s r : List Char} :
    expect? lead s = some r ↔ s = lead ++ r := by
  induction lead generalizing s with
  | nil => simp [expect?, eq_comm]
  | cons c lead ih =>
    cases s with
    | nil => simp [expect?]
    | cons d s =>
      by_cases h : c = d
      · simp [expect?, h, ih]
      · simp [expect?, h, Ne.symm h]

/-- The text in front of the first occurrence of `pattern`, and the text from there on. -/
def breakAt? (pattern : List Char) : List Char → Option (List Char × List Char)
  | [] => if pattern.isEmpty then some ([], []) else none
  | c :: s =>
    if pattern.isPrefixOf (c :: s) then some ([], c :: s)
    else (breakAt? pattern s).map fun (before, rest) => (c :: before, rest)

/-- The pieces of a text between the occurrences of `separator`. -/
def splitOn (separator : Char) : List Char → List (List Char)
  | [] => [[]]
  | c :: s =>
    if c = separator then [] :: splitOn separator s
    else match splitOn separator s with
      | [] => [[c]]
      | piece :: pieces => (c :: piece) :: pieces

/-- A text has at least one piece. -/
theorem splitOn_ne_nil (separator : Char) (s : List Char) : splitOn separator s ≠ [] := by
  cases s with
  | nil => simp [splitOn]
  | cons c s =>
    by_cases h : c = separator
    · simp [splitOn, h]
    · simp only [splitOn, h, if_false]
      split <;> simp

/-- A line without the carriage return that ends it, if one does. -/
def withoutReturn (line : List Char) : List Char :=
  if line.getLast? = some '\r' then line.dropLast else line

/-- The lines of a text; a line ends at a line feed, and a carriage return in front of the line
feed belongs to the terminator. -/
def lines (s : List Char) : List (List Char) :=
  match (splitOn '\n' s).reverse with
  | [] => []
  | last :: terminated =>
    terminated.reverse.map withoutReturn ++ (if last.isEmpty then [] else [last])

def joinWith (separator : String) : List String → String
  | [] => ""
  | [s] => s
  | s :: t :: rest => s ++ separator ++ joinWith separator (t :: rest)

end AqlGateway.Text
