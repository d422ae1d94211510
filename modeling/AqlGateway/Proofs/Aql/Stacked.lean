import AqlGateway.Proofs.Aql.Acceptance
import AqlGateway.Proofs.Aql.Sheltered

/-!
# Stacked statements

A database reads the quotes of SQL by two rules: a literal stands between single quotes and an
identifier may stand between double quotes, and in each of them the other quote is a character like
any other. The rule for a clause follows the single quotes alone. The two readings part ways where a
single quote stands inside of a quoted identifier.

* `Quoting`, `Quoting.behind` — where a reader of SQL stands behind a text;
* `IsSingle` — no semicolon stands outside of quotes;
* `hiddenQuotes` — the single quotes inside of quoted identifiers;
* `Spelling.sheltered` — the SQL of an accepted text keeps its semicolons inside of single quotes;
* `Spelling.quotedBy` — it has double quotes only if the text has them;
* `toSql_isSingle_iff` — when the SQL of an accepted text is one statement.
-/

namespace AqlGateway.Aql

open Text

/-! ### The quotes of SQL -/

/-- Where a reader of SQL stands. -/
inductive Quoting
  | outside
  /-- Between the single quotes of a literal. -/
  | literal
  /-- Between the double quotes of an identifier. -/
  | identifier
  deriving DecidableEq, Repr

namespace Quoting

/-- Where a reader stands behind one more character. A quote that is written twice ends the quoted
text and goes on with it at once. -/
def next : Quoting → Char → Quoting
  | outside, c => if c = '\'' then literal else if c = '"' then identifier else outside
  | literal, c => if c = '\'' then outside else literal
  | identifier, c => if c = '"' then outside else identifier

/-- Where a reader stands behind a text. -/
def behind (quoting : Quoting) (s : List Char) : Quoting := s.foldl next quoting

end Quoting

/-- No semicolon of a text stands outside of quotes. -/
def IsSingle (sql : List Char) : Prop :=
  ∀ before after, sql = before ++ ';' :: after → Quoting.outside.behind before ≠ .outside

/-- The number of single quotes that a reader meets inside of quoted identifiers. -/
def hiddenQuotes : Quoting → List Char → Nat
  | _, [] => 0
  | quoting, c :: s =>
    (if quoting = .identifier ∧ c = '\'' then 1 else 0) + hiddenQuotes (quoting.next c) s

/-- One inside of a literal, zero elsewhere. -/
def Quoting.literals : Quoting → Nat
  | literal => 1
  | _ => 0

variable {s before q : List Char} {sentence : Sentence}

/-- A single quote is hidden, or it begins or ends a literal. -/
theorem even_quotes_behind (quoting : Quoting) (s : List Char) :
    Even (s.count '\'' + quoting.literals + hiddenQuotes quoting s
      + (quoting.behind s).literals) := by
  induction s generalizing quoting with
  | nil =>
    show Even (0 + quoting.literals + 0 + quoting.literals)
    rw [Nat.zero_add, Nat.add_zero]
    exact ⟨_, rfl⟩
  | cons c s ih =>
    have hrest := ih (quoting.next c)
    have hbehind : quoting.behind (c :: s) = (quoting.next c).behind s := rfl
    rw [hbehind, hiddenQuotes]
    by_cases hquote : c = '\''
    · subst hquote
      rw [List.count_cons_self]
      cases quoting <;> simp [Quoting.next, Quoting.literals] at hrest ⊢ <;> grind
    · rw [List.count_cons_of_ne hquote, if_neg fun h => hquote h.2, Nat.zero_add]
      have hsame : (quoting.next c).literals = quoting.literals := by
        cases quoting <;> simp only [Quoting.next, hquote, if_false] <;> split <;> rfl
      rwa [hsame] at hrest

/-- Quotes inside of identifiers are counted from where the first text leaves the reader. -/
theorem hiddenQuotes_append (quoting : Quoting) (s r : List Char) :
    hiddenQuotes quoting (s ++ r) = hiddenQuotes quoting s + hiddenQuotes (quoting.behind s) r := by
  induction s generalizing quoting with
  | nil => exact (Nat.zero_add _).symm
  | cons c s ih =>
    rw [List.cons_append, hiddenQuotes, ih, hiddenQuotes, Nat.add_assoc]
    rfl

theorem hiddenQuotes_of_notMem (h : '"' ∉ s) (quoting : Quoting) (hne : quoting ≠ .identifier) :
    hiddenQuotes quoting s = 0 := by
  induction s generalizing quoting with
  | nil => rfl
  | cons c s ih =>
    have hc : c ≠ '"' := fun hc => h (by simp [hc])
    have hnext : quoting.next c ≠ .identifier := by
      cases quoting with
      | identifier => exact absurd rfl hne
      | _ => simp only [Quoting.next, hc, if_false]; split <;> simp
    rw [hiddenQuotes, if_neg fun h => hne h.1, ih (fun hmem => h (by simp [hmem])) _ hnext]

/-! ### The SQL of a sentence -/

/-- A text that ends outside of single quotes is passed without notice. -/
theorem outsideQuotes_append {quoted : Bool} (h : outsideQuotes quoted s = true) (r : List Char) :
    outsideQuotes quoted (s ++ r) = outsideQuotes false r := by
  induction s generalizing quoted with
  | nil =>
    cases quoted with
    | false => rfl
    | true => exact absurd h (by simp [outsideQuotes])
  | cons c s ih =>
    rw [outsideQuotes] at h
    rw [List.cons_append, outsideQuotes]
    split
    · next hquote =>
      rw [if_pos hquote] at h
      exact ih h
    · next hquote =>
      rw [if_neg hquote] at h
      split
      · next hsemi =>
        rw [if_pos hsemi] at h
        exact absurd h (by simp)
      · next hsemi =>
        rw [if_neg hsemi] at h
        exact ih h

theorem IsClause.sheltered (h : IsClause s) : Sheltered (trim s) :=
  outsideQuotes_append (isClause_iff.mp h).2

theorem IsName.sheltered (h : IsName s) : Sheltered s :=
  sheltered_plain (h.notMem (by decide)) (h.notMem (by decide))

theorem FilterSpelling.sheltered {tail : List Char} {filter : Option (List Char)}
    (h : FilterSpelling tail filter) : Sheltered (whereSql filter) := by
  cases h with
  | absent => exact fun r => rfl
  | present hv hdimana hw hcondition hclause =>
    exact (sheltered_plain (by decide) (by decide)).append hclause.sheltered

/-- The SQL of an accepted text keeps its semicolons inside of single quotes. -/
theorem Spelling.sheltered (h : Spelling q sentence) : Sheltered sentence.sql := by
  have reading {keyword c table : List Char} {filter : Option (List Char)}
      (h : FromSpelling keyword q c table filter) :
      Sheltered ("SELECT ".toList ++ c ++ " FROM ".toList ++ table ++ whereSql filter) := by
    cases h with
    | intro hu hc hdari hnot hv hvgap htable hfilter =>
      refine .append (.append (.append (.append ?_ hc.sheltered) ?_) htable.isName.sheltered)
        hfilter.sheltered <;> exact sheltered_plain (by decide) (by decide)
  cases h with
  | createTable hu hname hw hx =>
    refine .append (.append (.append (.append ?_ hname.isName.sheltered) ?_) hx.sheltered) ?_ <;>
      exact sheltered_plain (by decide) (by decide)
  | insert hu htable hw hclose hc hv₁ hv₂ hx =>
    refine .append (.append (.append (.append (.append (.append ?_ htable.isName.sheltered) ?_)
      hc.sheltered) ?_) hx.sheltered) ?_ <;> exact sheltered_plain (by decide) (by decide)
  | select h => exact reading h
  | update hu htable hv₁ hvgap₁ hv₂ hvgap₂ hset hend hfilter =>
    refine .append (.append (.append (.append ?_ htable.isName.sheltered) ?_) hset.sheltered)
      hfilter.sheltered <;> exact sheltered_plain (by decide) (by decide)
  | delete hu htable hfilter =>
    refine .append (.append ?_ htable.isName.sheltered) hfilter.sheltered
    exact sheltered_plain (by decide) (by decide)
  | dropTable hu hname => exact (sheltered_plain (by decide) (by decide)).append hname.sheltered
  | listTables =>
    have hsingle : outsideQuotes false listTablesSql.toList = true := by decide +kernel
    exact outsideQuotes_append hsingle
  | count h => exact reading h

/-- The SQL of strict translation is that of a sentence which the text spells. -/
theorem exists_spelling {text sql : String} (h : toSql .strict text = .ok sql) :
    ∃ sentence, Spelling (trim text.toList) sentence ∧ sql.toList = sentence.sql := by
  rw [toSql] at h
  cases hchars : trimmedToSql .strict (trim text.toList) with
  | error e =>
    rw [hchars] at h
    exact absurd h (by simp [Except.map])
  | ok chars =>
    rw [hchars] at h
    obtain ⟨sentence, hspell, rfl⟩ := trimmedToSql_strict_eq_ok_iff.mp hchars
    exact ⟨sentence, hspell, by rw [← Except.ok.inj h, String.toList_ofList]⟩

/-! ### Double quotes -/

/-- A text has double quotes only if another text has them. -/
def QuotedBy (q s : List Char) : Prop := '"' ∈ s → '"' ∈ q

namespace QuotedBy

variable {t x : List Char}

theorem append (hs : QuotedBy q s) (ht : QuotedBy q t) : QuotedBy q (s ++ t) := fun h =>
  (List.mem_append.mp h).elim hs ht

theorem plain (h : '"' ∉ s) : QuotedBy q s := fun hmem => absurd hmem h

theorem name (h : IsName s) : QuotedBy q s := plain (h.notMem (by decide))

theorem trim (h : QuotedBy q x) : QuotedBy q (Text.trim x) := fun hmem =>
  h ((mem_trim_of_not_blank (by decide)).mp hmem)

theorem filter {tail : List Char} {filter : Option (List Char)} (h : FilterSpelling tail filter)
    (htail : QuotedBy q tail) : QuotedBy q (whereSql filter) := by
  cases h with
  | absent => exact plain List.not_mem_nil
  | present hv hdimana hw hcondition hclause =>
    refine append (plain (by decide)) (trim fun hx => htail ?_)
    simp only [List.mem_append, hx, or_true]

end QuotedBy

theorem FromSpelling.quotedBy {keyword c table : List Char} {filter : Option (List Char)}
    (h : FromSpelling keyword q c table filter) :
    QuotedBy q ("SELECT ".toList ++ c ++ " FROM ".toList ++ table ++ whereSql filter) := by
  cases h with
  | intro hu hc hdari hnot hv hvgap htable hfilter =>
    refine .append (.append (.append (.append (.plain (by decide)) (.trim ?_)) (.plain (by decide)))
      (.name htable.isName)) (.filter hfilter ?_) <;> intro hx <;>
      simp only [List.mem_append, hx, true_or, or_true]

/-- The SQL of an accepted text has double quotes only if the text has them. -/
theorem Spelling.quotedBy (h : Spelling q sentence) : QuotedBy q sentence.sql := by
  cases h with
  | createTable hu hname hw hx =>
    refine .append (.append (.append (.append (.plain (by decide)) (.name hname.isName))
      (.plain (by decide))) (.trim ?_)) (.plain (by decide))
    intro hx
    simp only [List.mem_append, List.mem_cons, hx, true_or, or_true]
  | insert hu htable hw hclose hc hv₁ hv₂ hx =>
    refine .append (.append (.append (.append (.append (.append (.plain (by decide))
      (.name htable.isName)) (.plain (by decide))) (.trim ?_)) (.plain (by decide))) (.trim ?_))
      (.plain (by decide)) <;> intro hx <;>
      simp only [List.mem_append, List.mem_cons, hx, true_or, or_true]
  | select h => exact h.quotedBy
  | update hu htable hv₁ hvgap₁ hv₂ hvgap₂ hset hend hfilter =>
    refine .append (.append (.append (.append (.plain (by decide)) (.name htable.isName))
      (.plain (by decide))) (.trim ?_)) (.filter hfilter ?_) <;> intro hx <;>
      simp only [List.mem_append, hx, true_or, or_true]
  | delete hu htable hfilter =>
    refine .append (.append (.plain (by decide)) (.name htable.isName)) (.filter hfilter ?_)
    intro hx
    simp only [List.mem_append, hx, or_true]
  | dropTable hu hname => exact .append (.plain (by decide)) (.name hname)
  | listTables => exact .plain (by decide +kernel)
  | count h => exact h.quotedBy

/-! ### Statements -/

/-- Behind an odd number of single quotes, a reader of SQL stands outside of quotes exactly if it is
not in an identifier and an odd number of the quotes is hidden. -/
theorem outside_iff_of_odd (hodd : Odd (before.count '\'')) :
    Quoting.outside.behind before = .outside ↔
      Quoting.outside.behind before ≠ .identifier ∧ ¬ Even (hiddenQuotes .outside before) := by
  have hodd := Nat.not_even_iff_odd.mpr hodd
  have heven := even_quotes_behind .outside before
  cases hbehind : Quoting.outside.behind before <;>
    simp [hbehind, Quoting.literals, Nat.even_add, hodd] at heven ⊢ <;> grind

/-- A sheltered text is one statement exactly when, in front of each semicolon outside of quoted
identifiers, the single quotes hidden in such identifiers are even in number. -/
theorem Sheltered.isSingle_iff (h : Sheltered s) :
    IsSingle s ↔ ∀ before after, s = before ++ ';' :: after →
      Quoting.outside.behind before ≠ .identifier → Even (hiddenQuotes .outside before) := by
  have hodd : ∀ before after, s = before ++ ';' :: after → Odd (before.count '\'') :=
    (outsideQuotes_iff.mp h.single).2
  constructor
  · intro hsingle before after hs hidentifier
    by_contra heven
    exact hsingle before after hs
      ((outside_iff_of_odd (hodd before after hs)).mpr ⟨hidentifier, heven⟩)
  · intro hparity before after hs houtside
    obtain ⟨hidentifier, heven⟩ := (outside_iff_of_odd (hodd before after hs)).mp houtside
    exact heven (hparity before after hs hidentifier)

/-- The SQL of an accepted text is one statement exactly if in front of each of its semicolons, those
in quoted identifiers apart, an even number of single quotes stands inside of quoted identifiers. It
is one statement whenever no single quote does, and so for every text without double quotes. -/
theorem toSql_isSingle_iff {text sql : String} (h : toSql .strict text = .ok sql) :
    (IsSingle sql.toList ↔ ∀ before after, sql.toList = before ++ ';' :: after →
      Quoting.outside.behind before ≠ .identifier → Even (hiddenQuotes .outside before))
    ∧ (hiddenQuotes .outside sql.toList = 0 → IsSingle sql.toList)
    ∧ ('"' ∉ text.toList → IsSingle sql.toList) := by
  obtain ⟨sentence, hspell, hsql⟩ := exists_spelling h
  have hsheltered : Sheltered sql.toList := hsql ▸ hspell.sheltered
  have hiff := hsheltered.isSingle_iff
  have hvisible : hiddenQuotes .outside sql.toList = 0 → IsSingle sql.toList := by
    intro hnone
    refine hiff.mpr fun before after hs _ => ?_
    rw [hs, hiddenQuotes_append] at hnone
    rw [Nat.eq_zero_of_add_eq_zero_right hnone]
    exact Even.zero
  refine ⟨hiff, hvisible, fun hnone => hvisible ?_⟩
  refine hiddenQuotes_of_notMem (fun hmem => hnone ?_) _ (by decide)
  exact (mem_trim_of_not_blank (by decide)).mp (hspell.quotedBy (hsql ▸ hmem))

/-- The semicolon stands in a literal behind a quoted identifier. -/
theorem select_isSingle :
    toSql .strict "PANEN \"a\" DARI t DIMANA note='x;\"y'"
        = .ok "SELECT \"a\" FROM t WHERE note='x;\"y'"
    ∧ IsSingle "SELECT \"a\" FROM t WHERE note='x;\"y'".toList :=
  have h : toSql .strict "PANEN \"a\" DARI t DIMANA note='x;\"y'"
      = .ok "SELECT \"a\" FROM t WHERE note='x;\"y'" := by
    decide +kernel
  ⟨h, (toSql_isSingle_iff h).2.1 (by decide +kernel)⟩

/-- A single quote in an identifier lets a second statement through. -/
theorem delete_stacked :
    toSql .strict "GUSUR DARI trees DIMANA \"'\"=1; DROP TABLE users; SELECT \"'\""
        = .ok "DELETE FROM trees WHERE \"'\"=1; DROP TABLE users; SELECT \"'\""
    ∧ ¬ IsSingle "DELETE FROM trees WHERE \"'\"=1; DROP TABLE users; SELECT \"'\"".toList := by
  refine ⟨by decide +kernel, fun h => ?_⟩
  exact h "DELETE FROM trees WHERE \"'\"=1".toList " DROP TABLE users; SELECT \"'\"".toList
    (by decide +kernel) (by decide +kernel)

end AqlGateway.Aql
