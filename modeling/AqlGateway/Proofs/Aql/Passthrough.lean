import AqlGateway.Proofs.Aql.Preparation
import AqlGateway.Proofs.Aql.Stacked

/-!
# Text that is passed through

Passthrough mode forwards what strict mode refuses. What it returns can be given to it again.

* `Spelling.isSolid_sql` — the SQL of an accepted text has no blanks at its ends;
* `Sentence.ofTrimmed?_sql` — it begins like no statement;
* `toSql_trimText` — blanks around a text are of no consequence;
* `toSql_of_unrecognized`, `toSql_of_refused` — what becomes of SQL in either mode, and in passthrough
  mode of a text that strict mode refuses;
* `toSql_passthrough` — what passthrough mode returns of a text, and of what it returned.
-/

namespace AqlGateway.Aql

open Text

variable {q tail s : List Char} {filter : Option (List Char)} {sentence : Sentence}
  {text sql : String}

/-! ### The ends of SQL -/

theorem IsName.isSolid (h : IsName s) : IsSolid s :=
  isSolid_of_not_blank h.ne_nil fun c hc => isBlank_of_isWordChar (h.wordChar c hc)

theorem FilterSpelling.isSolid_sql (h : FilterSpelling tail filter) (hs : IsSolid s) :
    IsSolid (s ++ whereSql filter) := by
  cases h with
  | absent =>
    show IsSolid (s ++ [])
    rw [List.append_nil]
    exact hs
  | @present v w x hv hvgap hw hwgap hclause =>
    show IsSolid (s ++ (" WHERE ".toList ++ trim x))
    exact hs.around (isSolid_trim hclause.ne_nil) _

/-- The SQL of an accepted text has no blanks at its ends. -/
theorem Spelling.isSolid_sql (h : Spelling q sentence) : IsSolid sentence.sql := by
  have hclose : IsSolid ")".toList := ⟨by decide, by decide, by decide⟩
  have reading {keyword c table : List Char} {filter : Option (List Char)}
      (h : FromSpelling keyword q c table filter) :
      IsSolid ("SELECT ".toList ++ c ++ " FROM ".toList ++ table ++ whereSql filter) := by
    cases h with
    | intro hu hc hdari hnot hv hvgap htable hfilter =>
      refine hfilter.isSolid_sql (htable.isName.isSolid.behind (by simp) ?_)
      rw [List.append_assoc]
      exact stops_append (by decide) (by decide)
  cases h with
  | createTable hu hname hw hx =>
    refine hclose.behind (by simp) ?_
    simp only [List.append_assoc]
    exact stops_append (by decide) (by decide)
  | insert hu htable hw hparen hc hv₁ hv₂ hx =>
    refine hclose.behind (by simp) ?_
    simp only [List.append_assoc]
    exact stops_append (by decide) (by decide)
  | select h => exact reading h
  | update hu htable hv₁ hvgap₁ hv₂ hvgap₂ hset hend hfilter =>
    refine hfilter.isSolid_sql ((isSolid_trim hset.ne_nil).behind (by simp) ?_)
    rw [List.append_assoc]
    exact stops_append (by decide) (by decide)
  | delete hu htable hfilter =>
    exact hfilter.isSolid_sql (htable.isName.isSolid.behind (by decide) (by decide))
  | dropTable hu hname => exact hname.isSolid.behind (by decide) (by decide)
  | listTables => exact ⟨by decide +kernel, by decide +kernel, by decide +kernel⟩
  | count h => exact reading h

/-! ### SQL is no statement -/

/-- No statement begins with the verb of SQL. -/
theorem Kind.verb_lead_clash (k₁ k₂ : Kind) :
    ¬ (k₁.verb.toList ++ [' '] <+: k₂.lead ∨ k₂.lead <+: k₁.verb.toList ++ [' ']) := by
  cases k₁ <;> cases k₂ <;> decide

/-- SQL does not begin like a statement of any kind. -/
theorem Sentence.ofTrimmed?_sql (sentence : Sentence) : Kind.ofTrimmed? sentence.sql = none := by
  cases h : Kind.ofTrimmed? sentence.sql with
  | none => rfl
  | some kind =>
    have hlead : kind.lead <+: sentence.sql :=
      Kind.lead_prefix_of_opens (Kind.ofTrimmed?_eq_some_iff.mp h)
    exact absurd (List.prefix_or_prefix_of_prefix sentence.verb_prefix_sql hlead)
      (Kind.verb_lead_clash _ _)

/-- The SQL of an accepted text is trimmed, not empty, and begins like no statement. -/
theorem unrecognized_of_strict (h : toSql .strict text = .ok sql) :
    trim sql.toList = sql.toList ∧ sql.toList ≠ [] ∧ Kind.ofTrimmed? sql.toList = none := by
  obtain ⟨sentence, hspell, hsql⟩ := exists_spelling h
  rw [hsql]
  exact ⟨hspell.isSolid_sql.trim_eq, hspell.isSolid_sql.ne_nil, sentence.ofTrimmed?_sql⟩

/-! ### Translation -/

/-- Blanks around a text are of no consequence. -/
theorem toSql_trimText (mode : Mode) (text : String) :
    toSql mode (trimText text) = toSql mode text := by
  rw [toSql, toSql, toList_trimText, trim_trim]

/-- A text that begins like no statement is refused or forwarded as a whole. -/
theorem toSql_of_unrecognized (mode : Mode) (htrim : trim text.toList = text.toList)
    (hne : text.toList ≠ []) (hkind : Kind.ofTrimmed? text.toList = none) :
    toSql mode text = match mode with
      | .strict => .error (.unrecognizedStatement text)
      | .passthrough => .ok text := by
  have hempty : text.toList.isEmpty = false := by simpa using hne
  rw [toSql, htrim, trimmedToSql, hempty, hkind]
  cases mode with
  | strict =>
    show Except.error (Error.unrecognizedStatement (String.ofList text.toList)) = _
    rw [String.ofList_toList]
  | passthrough =>
    show Except.ok (String.ofList text.toList) = _
    rw [String.ofList_toList]

/-- Passthrough mode forwards the trimmed texts that strict mode refuses, the empty one among them. -/
theorem trimmedToSql_of_refused {e : Error} (h : trimmedToSql .strict s = .error e) :
    trimmedToSql .passthrough s = .ok s := by
  cases hkind : Kind.ofTrimmed? s with
  | none =>
    have hmode : (s.isEmpty && Mode.passthrough == Mode.strict) = false := Bool.and_false _
    rw [trimmedToSql, hmode, hkind]
    rfl
  | some kind =>
    rw [trimmedToSql_of_opens (Kind.ofTrimmed?_eq_some_iff.mp hkind)] at h ⊢
    cases hread : Sentence.read? kind s with
    | none => rfl
    | some sentence =>
      rw [hread] at h
      exact absurd h (by simp)

/-- What strict translation refuses is passed through as it is, without the blanks around it. -/
theorem toSql_of_refused {e : Error} (h : toSql .strict text = .error e) :
    toSql .passthrough text = .ok (trimText text) := by
  rw [toSql] at h
  cases hstrict : trimmedToSql .strict (trim text.toList) with
  | ok sql =>
    rw [hstrict] at h
    exact absurd h (by simp [Except.map])
  | error e =>
    rw [toSql, trimmedToSql_of_refused hstrict]
    rfl

/-- Passthrough mode always returns a text, which it returns again when it is given it. The text is the
SQL of strict mode, which begins like no statement and is refused for that reason, or, where strict
mode fails, the trimmed text. -/
theorem toSql_passthrough (text : String) :
    ∃ sql, toSql .passthrough text = .ok sql ∧ toSql .passthrough sql = .ok sql ∧
      ((toSql .strict text = .ok sql ∧ Kind.ofText? sql = none ∧
          toSql .strict sql = .error (.unrecognizedStatement sql)) ∨
        ((∃ e, toSql .strict text = .error e) ∧ sql = trimText text)) := by
  cases hstrict : toSql .strict text with
  | ok sql =>
    obtain ⟨htrim, hne, hkind⟩ := unrecognized_of_strict hstrict
    have hagain := toSql_of_unrecognized .passthrough htrim hne hkind
    have hrefused := toSql_of_unrecognized .strict htrim hne hkind
    refine ⟨sql, toSql_of_strict hstrict .passthrough, hagain, .inl ⟨rfl, ?_, hrefused⟩⟩
    rw [Kind.ofText?, htrim]
    exact hkind
  | error e =>
    have hforward := toSql_of_refused hstrict
    refine ⟨trimText text, hforward, ?_, .inr ⟨⟨e, rfl⟩, rfl⟩⟩
    rw [toSql_trimText]
    exact hforward

end AqlGateway.Aql
