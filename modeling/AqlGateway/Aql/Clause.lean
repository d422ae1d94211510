import AqlGateway.Text.Blank

/-!
# Clauses

A clause is the free text between the keywords of a statement. It is never blank, its single
quotes come in pairs, and it has no semicolon outside them, so that it cannot hold a second
statement.

* `outsideQuotes` — follows the quotes of a text and looks for a semicolon outside them;
* `clause?` — the trimmed clause of a text, none when the text is no clause.
-/

namespace AqlGateway.Aql

open Text

/-- Whether a text, read inside (`quoted`) or outside a quoted literal, ends outside of one and
has no semicolon outside of one. -/
def outsideQuotes (quoted : Bool) : List Char → Bool
  | [] => !quoted
  | c :: s =>
    if c = '\'' then outsideQuotes (!quoted) s
    else if c = ';' ∧ quoted = false then false
    else outsideQuotes quoted s

def isSingleStatement (s : List Char) : Bool := outsideQuotes false s

/-- The trimmed clause of a text. -/
def clause? (s : List Char) : Option (List Char) :=
  let text := trim s
  if text.isEmpty || !isSingleStatement text then none else some text

end AqlGateway.Aql
