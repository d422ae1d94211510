import AqlGateway.Proofs.Aql.Boundaries
import AqlGateway.Proofs.Aql.Stacked

/-!
# Quoted data in SQL

* `Spelling.stretches_sql` — the SQL of a sentence has the quoted stretches of the text that spells it;
* `stretches_toSql` — translation keeps the quoted stretches of a text, and takes the text apart
  outside of them only.
-/

namespace AqlGateway.Aql

open Text

variable {q s tail c x : List Char} {sentence : Sentence} {filter : Option (List Char)}

/-! ### Stretches of the parts -/

theorem IsName.notMem_quote (h : IsName s) : '\'' ∉ s := h.notMem (by decide)

theorem stretches_cons {d : Char} (hd : d ≠ '\'') (s : List Char) :
    stretches (d :: s) = stretches s :=
  stretchesFrom_outside hd s

/-- Behind a clause a reader of quotes starts afresh. -/
theorem IsClause.stretches_append (h : IsClause c) (s : List Char) :
    stretches (c ++ s) = stretches c ++ stretches s :=
  Text.stretches_append h.even_count

theorem IsClause.stretches_trim_append (h : IsClause c) (s : List Char) :
    stretches (trim c ++ s) = stretches c ++ stretches s := by
  rw [Text.stretches_append h.even_quotes, stretches_trim]

theorem FilterSpelling.stretches_whereSql (h : FilterSpelling tail filter) :
    stretches (whereSql filter) = stretches tail := by
  cases h with
  | absent => rfl
  | @present v w x hv hvgap hw hwgap hx =>
    have hwhere : stretches (" WHERE ".toList ++ trim x) = stretches x := by
      rw [stretches_plain_append (by decide), stretches_trim]
    have htail : stretches (v ++ ("DIMANA".toList ++ (w ++ x))) = stretches x := by
      rw [stretches_plain_append hvgap.notMem_quote, stretches_plain_append (by decide),
        stretches_plain_append hwgap.notMem_quote]
    rw [htail]
    exact hwhere

/-- The SQL of a select or a count has the stretches of its text. -/
theorem FromSpelling.stretches_sql {keyword c table : List Char} (hkeyword : '\'' ∉ keyword)
    (h : FromSpelling keyword q c table filter) :
    stretches ("SELECT ".toList ++ c ++ " FROM ".toList ++ table ++ whereSql filter)
      = stretches q := by
  cases h with
  | @intro u c v table tail filter hu hc hdari hnot hv hvgap htable hfilter =>
    simp only [List.append_assoc]
    rw [stretches_plain_append (s := "SELECT ".toList) (by decide), hc.stretches_trim_append,
      stretches_plain_append (s := " FROM ".toList) (by decide),
      stretches_plain_append htable.isName.notMem_quote, hfilter.stretches_whereSql,
      stretches_plain_append hkeyword, stretches_plain_append hu.notMem_quote, hc.stretches_append,
      stretches_plain_append (s := " DARI".toList) (by decide),
      stretches_plain_append hvgap.notMem_quote, stretches_plain_append htable.isName.notMem_quote]

/-- The SQL of a sentence has the quoted stretches of the text that spells the sentence. -/
theorem Spelling.stretches_sql (h : Spelling q sentence) (hlist : sentence ≠ .listTables) :
    stretches sentence.sql = stretches q := by
  -- Quotes stand in clauses only: keywords, names and separators drop out on both sides.
  cases h with
  | @createTable u name w x hu hname hw hx =>
    show stretches ("CREATE TABLE ".toList ++ name ++ " (".toList ++ trim x ++ ")".toList) = _
    simp only [List.append_assoc]
    rw [stretches_plain_append (s := "CREATE TABLE ".toList) (by decide),
      stretches_plain_append hname.isName.notMem_quote,
      stretches_plain_append (s := " (".toList) (by decide), hx.stretches_trim_append,
      stretches_plain_append (s := "LAHAN".toList) (by decide),
      stretches_plain_append hu.notMem_quote, stretches_plain_append hname.isName.notMem_quote,
      stretches_plain_append hw.notMem_quote, stretches_cons (by decide), hx.stretches_append]
    rfl
  | @insert u table w c v₁ v₂ x hu htable hw hparen hc hv₁ hv₂ hx =>
    show stretches ("INSERT INTO ".toList ++ table ++ " (".toList ++ trim c ++ ") VALUES (".toList
      ++ trim x ++ ")".toList) = _
    simp only [List.append_assoc]
    rw [stretches_plain_append (s := "INSERT INTO ".toList) (by decide),
      stretches_plain_append htable.isName.notMem_quote,
      stretches_plain_append (s := " (".toList) (by decide), hc.stretches_trim_append,
      stretches_plain_append (s := ") VALUES (".toList) (by decide), hx.stretches_trim_append,
      stretches_plain_append (s := "TANAM KE".toList) (by decide),
      stretches_plain_append hu.notMem_quote, stretches_plain_append htable.isName.notMem_quote,
      stretches_plain_append hw.notMem_quote, stretches_cons (by decide), hc.stretches_append,
      stretches_cons (by decide), stretches_plain_append hv₁.notMem_quote,
      stretches_plain_append (s := "BIBIT".toList) (by decide),
      stretches_plain_append hv₂.notMem_quote, stretches_cons (by decide), hx.stretches_append]
    rfl
  | select h => exact h.stretches_sql (by decide)
  | @update u table v₁ v₂ set tail filter hu htable hv₁ hgap₁ hv₂ hgap₂ hset hend hfilter =>
    show stretches ("UPDATE ".toList ++ table ++ " SET ".toList ++ trim set ++ whereSql filter) = _
    simp only [List.append_assoc]
    rw [stretches_plain_append (s := "UPDATE ".toList) (by decide),
      stretches_plain_append htable.isName.notMem_quote,
      stretches_plain_append (s := " SET ".toList) (by decide), hset.stretches_trim_append,
      hfilter.stretches_whereSql, stretches_plain_append (s := "PUPUK".toList) (by decide),
      stretches_plain_append hu.notMem_quote, stretches_plain_append htable.isName.notMem_quote,
      stretches_plain_append hgap₁.notMem_quote,
      stretches_plain_append (s := "DENGAN".toList) (by decide),
      stretches_plain_append hgap₂.notMem_quote, hset.stretches_append]
  | @delete u table tail filter hu htable hfilter =>
    show stretches ("DELETE FROM ".toList ++ table ++ whereSql filter) = _
    simp only [List.append_assoc]
    rw [stretches_plain_append (s := "DELETE FROM ".toList) (by decide),
      stretches_plain_append htable.isName.notMem_quote, hfilter.stretches_whereSql,
      stretches_plain_append (s := "GUSUR DARI".toList) (by decide),
      stretches_plain_append hu.notMem_quote, stretches_plain_append htable.isName.notMem_quote]
  | @dropTable u name hu hname =>
    show stretches ("DROP TABLE ".toList ++ name) = _
    rw [stretches_plain_append (s := "DROP TABLE ".toList) (by decide),
      stretches_plain_append (s := "BAKAR LAHAN".toList) (by decide),
      stretches_plain_append hu.notMem_quote]
  | listTables => exact absurd rfl hlist
  | count h => exact h.stretches_sql (by decide)

/-! ### Blanks around a text -/

/-- A text is its trimmed text between blanks, those behind it being `endBlanks`. -/
theorem exists_startBlanks (text : List Char) :
    ∃ a, text = a ++ (trim text ++ endBlanks text) ∧ ∀ c ∈ a, isBlank c = true := by
  obtain ⟨a, ha, hblank⟩ := trimStart_spec text
  have hend : trimStart text = trim text ++ endBlanks text := by
    rw [trim, trimEnd, endBlanks, ← List.reverse_append, List.takeWhile_append_dropWhile,
      List.reverse_reverse]
  refine ⟨a, ?_, hblank⟩
  rw [← hend]
  exact ha

/-- A reader begins outside of quotes, in front of the trimmed text. -/
theorem passed_trim (text : List Char) : Passed text (endBlanks text) (trim text) := by
  obtain ⟨a, htext, ha⟩ := exists_startBlanks text
  refine ⟨a, htext, ?_⟩
  rw [List.count_eq_zero_of_not_mem (notMem_quote_of_blanks ha)]
  exact Even.zero

/-! ### Translation -/

/-- Translation keeps the quoted stretches of a text, in their order, and every boundary at which it
takes the text apart stands outside of them. -/
theorem stretches_toSql {text sql : String} (hkind : Kind.ofText? text ≠ some .listTables)
    (h : toSql .strict text = .ok sql) :
    stretches sql.toList = stretches text.toList ∧
      ∃ sentence boundaries, cutText? text.toList = some (sentence, boundaries) ∧
        sql.toList = sentence.sql ∧ ∀ b ∈ boundaries, b.Outside text.toList := by
  obtain ⟨sentence, hspell, hsql⟩ := exists_spelling h
  have hread := hspell.read
  have hopens := Kind.ofTrimmed?_eq_some_iff.mpr hspell.opens
  constructor
  · have hlist : sentence ≠ .listTables := by
      rintro rfl
      exact hkind hopens
    rw [hsql, hspell.stretches_sql hlist, stretches_trim]
  · rw [← Sentence.map_fst_cut?] at hread
    obtain ⟨⟨read, boundaries⟩, hcut, rfl⟩ := Option.map_eq_some_iff.mp hread
    have houtside := Sentence.outside_of_cut (passed_trim text.toList) hcut
    refine ⟨read, boundaries.map fun b => ⟨b.word, b.rest ++ endBlanks text.toList⟩, ?_, hsql, ?_⟩
    · rw [cutText?, hopens]
      show (Sentence.cut? _ _).bind _ = _
      rw [hcut]
      rfl
    · intro b hb
      obtain ⟨b', hb', rfl⟩ := List.mem_map.mp hb
      exact houtside b' hb'

/-- Literals with doubled quotes, parentheses and keywords inside. -/
theorem stretches_toSql_insert :
    let text := " TANAM KE t (id, n)BIBIT ( 'a'') BIBIT (', ' DARI x')\n"
    let sql := "INSERT INTO t (id, n) VALUES ('a'') BIBIT (', ' DARI x')"
    Kind.ofText? text ≠ some .listTables ∧ toSql .strict text = .ok sql ∧
      stretches sql.toList = stretches text.toList ∧
      ∃ sentence boundaries, cutText? text.toList = some (sentence, boundaries) ∧
        sql.toList = sentence.sql ∧ ∀ b ∈ boundaries, b.Outside text.toList := by
  intro text sql
  have hkind : Kind.ofText? text ≠ some .listTables := by decide +kernel
  have hsql : toSql .strict text = .ok sql := by decide +kernel
  exact ⟨hkind, hsql, stretches_toSql hkind hsql⟩

end AqlGateway.Aql
