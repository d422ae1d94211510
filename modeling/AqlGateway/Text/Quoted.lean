/-!
# Quoted literals

A quoted literal stands between two single quotes, and a quote inside it is written twice.

* `quoteText` — the literal of a text;
* `doubled`, `undoubled?` — the two directions of writing a quote twice;
* `undoubled?_doubled` — reading gives back what was written.
-/

namespace AqlGateway.Text

/-- The text with every single quote written twice. -/
def doubled : List Char → List Char
  | [] => []
  | c :: s => if c = '\'' then '\'' :: '\'' :: doubled s else c :: doubled s

/-- The text whose quotes were written twice; none when a quote stands alone. -/
def undoubled? : List Char → Option (List Char)
  | [] => some []
  | '\'' :: '\'' :: s => (undoubled? s).map ('\'' :: ·)
  | c :: s => if c = '\'' then none else (undoubled? s).map (c :: ·)

/-- Reading a text with doubled quotes gives the text back. -/
theorem undoubled?_doubled (s : List Char) : undoubled? (doubled s) = some s := by
  induction s with
  | nil => rfl
  | cons c s ih => by_cases h : c = '\'' <;> simp [doubled, undoubled?, h, ih]

def quoteText (s : String) : String :=
  String.ofList ('\'' :: doubled s.toList ++ ['\''])

end AqlGateway.Text
