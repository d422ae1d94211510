import Mathlib.Algebra.Ring.Parity
import AqlGateway.Aql.Clause
import AqlGateway.Proofs.Text.Trim

/-!
# What a clause is

* `IsClause` — the rule: the trimmed text is not empty, has an even number of single quotes, and
  has no semicolon behind an even number of them;
* `clause?_eq_some_iff` — the clauses are the texts that follow the rule;
* `clause?_eq_none_iff` — every other text is refused;
* `isClause_of_plain` — a text without quotes and semicolons is a clause unless it is blank.
-/

namespace AqlGateway.Aql

open Text

/-- The rule for a clause. A semicolon behind an odd number of quotes stands inside a literal. -/
structure IsClause (x : List Char) : Prop where
  ne_nil : trim x ≠ []
  even_quotes : Even ((trim x).count '\'')
  odd_before_semicolon :
    ∀ before after, trim x = before ++ ';' :: after → Odd (before.count '\'')

/-! ### Quotes -/

/-- The number of quotes that a reader counts who starts inside (`quoted`) or outside a literal. -/
def quotesFrom (quoted : Bool) (s : List Char) : Nat := s.count '\'' + quoted.toNat

variable {quoted : Bool} {s : List Char}

theorem odd_quotesFrom_nil : Odd (quotesFrom quoted []) ↔ quoted = true := by
  cases quoted <;> decide

theorem even_quotesFrom_nil : Even (quotesFrom quoted []) ↔ quoted = false := by
  cases quoted <;> decide

/-- A quote in front changes sides. -/
theorem even_quotesFrom_quote :
    Even (quotesFrom quoted ('\'' :: s)) ↔ Even (quotesFrom (!quoted) s) := by
  cases quoted <;> simp [quotesFrom, Nat.even_add_one]

/-- Reading a quote changes sides. -/
theorem odd_quotesFrom_quote :
    Odd (quotesFrom quoted ('\'' :: s)) ↔ Odd (quotesFrom (!quoted) s) := by
  rw [← Nat.not_even_iff_odd, ← Nat.not_even_iff_odd, even_quotesFrom_quote]

theorem quotesFrom_other {c : Char} (hc : c ≠ '\'') :
    quotesFrom quoted (c :: s) = quotesFrom quoted s := by
  rw [quotesFrom, quotesFrom, List.count_cons_of_ne hc]

/-- Every semicolon of a text stands inside a literal, for a reader who starts inside (`quoted`)
or outside one. -/
def SemicolonsInside (quoted : Bool) (s : List Char) : Prop :=
  ∀ before after, s = before ++ ';' :: after → Odd (quotesFrom quoted before)

theorem semicolonsInside_nil : SemicolonsInside quoted [] := by
  intro before after h
  simp at h

theorem semicolonsInside_quote :
    SemicolonsInside quoted ('\'' :: s) ↔ SemicolonsInside (!quoted) s := by
  constructor
  · intro h before after hs
    exact odd_quotesFrom_quote.mp (h ('\'' :: before) after (by simp [hs]))
  · intro h before after hs
    cases before with
    | nil => simp at hs
    | cons c before =>
      rw [List.cons_append, List.cons.injEq] at hs
      obtain ⟨rfl, hs⟩ := hs
      exact odd_quotesFrom_quote.mpr (h before after hs)

/-- A semicolon is allowed inside of a literal only. -/
theorem semicolonsInside_semicolon :
    SemicolonsInside quoted (';' :: s) ↔ quoted = true ∧ SemicolonsInside quoted s := by
  constructor
  · intro h
    refine ⟨odd_quotesFrom_nil.mp (h [] s rfl), ?_⟩
    intro before after hs
    have := h (';' :: before) after (by simp [hs])
    rwa [quotesFrom_other (by decide)] at this
  · rintro ⟨hq, h⟩ before after hs
    cases before with
    | nil => exact odd_quotesFrom_nil.mpr hq
    | cons c before =>
      rw [List.cons_append, List.cons.injEq] at hs
      obtain ⟨rfl, hs⟩ := hs
      rw [quotesFrom_other (by decide)]
      exact h before after hs

theorem semicolonsInside_other {c : Char} (hq : c ≠ '\'') (hs : c ≠ ';') :
    SemicolonsInside quoted (c :: s) ↔ SemicolonsInside quoted s := by
  constructor
  · intro h before after heq
    have := h (c :: before) after (by simp [heq])
    rwa [quotesFrom_other hq] at this
  · intro h before after heq
    cases before with
    | nil =>
      rw [List.nil_append, List.cons.injEq] at heq
      exact absurd heq.1 hs
    | cons d before =>
      rw [List.cons_append, List.cons.injEq] at heq
      obtain ⟨rfl, heq⟩ := heq
      rw [quotesFrom_other hq]
      exact h before after heq

/-- Following the quotes of a text is counting them. -/
theorem outsideQuotes_iff :
    outsideQuotes quoted s = true ↔ Even (quotesFrom quoted s) ∧ SemicolonsInside quoted s := by
  induction s generalizing quoted with
  | nil => simp [outsideQuotes, even_quotesFrom_nil, semicolonsInside_nil]
  | cons c s ih =>
    by_cases hquote : c = '\''
    · subst hquote
      rw [outsideQuotes, if_pos rfl, ih, even_quotesFrom_quote, semicolonsInside_quote]
    · rw [outsideQuotes, if_neg hquote, quotesFrom_other hquote]
      by_cases hsemi : c = ';'
      · subst hsemi
        rw [semicolonsInside_semicolon]
        cases quoted with
        | false => simp
        | true => simp [ih]
      · rw [if_neg (fun h => hsemi h.1), ih, semicolonsInside_other hquote hsemi]

/-! ### Clauses -/

/-- The reader accepts what the rule for clauses accepts. -/
theorem isClause_iff {x : List Char} :
    IsClause x ↔ trim x ≠ [] ∧ isSingleStatement (trim x) = true := by
  rw [isSingleStatement, outsideQuotes_iff]
  constructor
  · intro h
    exact ⟨h.ne_nil, h.even_quotes, h.odd_before_semicolon⟩
  · rintro ⟨hne, heven, hodd⟩
    exact ⟨hne, heven, hodd⟩

/-- The clauses are the texts that follow the rule, and each is read without its outer blanks. -/
theorem clause?_eq_some_iff {x y : List Char} :
    clause? x = some y ↔ IsClause x ∧ y = trim x := by
  rw [isClause_iff, clause?]
  by_cases hne : trim x = []
  · simp [hne]
  · by_cases hsingle : isSingleStatement (trim x) = true
    · simp only [hsingle, Bool.not_true, Bool.or_false, List.isEmpty_iff, hne, if_false,
        Option.some.injEq]
      exact ⟨fun h => ⟨⟨hne, trivial⟩, h.symm⟩, fun h => h.2.symm⟩
    · simp [hsingle]

theorem clause?_of_isClause {x : List Char} (h : IsClause x) : clause? x = some (trim x) :=
  clause?_eq_some_iff.mpr ⟨h, rfl⟩

/-- Every text that does not follow the rule is refused. -/
theorem clause?_eq_none_iff {x : List Char} : clause? x = none ↔ ¬ IsClause x := by
  constructor
  · intro h hx
    rw [clause?_of_isClause hx] at h
    exact absurd h (by simp)
  · intro h
    cases hx : clause? x with
    | none => rfl
    | some y => exact absurd (clause?_eq_some_iff.mp hx).1 h

/-- Whether a text is a clause depends on its trimmed text only. -/
theorem clause?_congr {x y : List Char} (h : trim x = trim y) : clause? x = clause? y := by
  simp only [clause?, h]

/-- A text without quotes and semicolons is a clause unless it is blank. -/
theorem isClause_of_plain {x : List Char} (hne : trim x ≠ []) (hquote : '\'' ∉ x)
    (hsemi : ';' ∉ x) : IsClause x where
  ne_nil := hne
  even_quotes := by
    rw [count_trim (by decide), List.count_eq_zero_of_not_mem hquote]
    exact Even.zero
  odd_before_semicolon := by
    intro before after h
    have hmem : ';' ∈ trim x := by simp [h]
    exact absurd ((mem_trim_of_not_blank (by decide)).mp hmem) hsemi

/-- A literal that is left open makes a text no clause. -/
theorem not_isClause_of_odd {x : List Char} (h : Odd (x.count '\'')) : ¬ IsClause x := by
  intro hclause
  have heven := hclause.even_quotes
  rw [count_trim (by decide)] at heven
  exact Nat.not_even_iff_odd.mpr h heven

end AqlGateway.Aql
