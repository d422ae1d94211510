import AqlGateway.Proofs.Aql.Acceptance
import AqlGateway.Proofs.Aql.Rendering

/-!
# Prepared statements

* `Statement.validate_eq_ok_iff` — the checks that a statement passes;
* `prepare_eq_ok_iff` — a statement is prepared when it passes them and its text is translated;
* `opens_textOf` — the text of a checked statement begins like a statement of its kind;
* `sql_of_prepare` — prepared SQL begins with the verb of the statement's kind, or is the
  statement's own text, forwarded as it is;
* `prepare_dropTable` — how the drop of a table is prepared.
-/

namespace AqlGateway.Aql

open Text

/-! ### Results -/

theorem bind_eq_ok_iff {α β : Type} {x : Except Error α} {f : α → Except Error β} {b : β} :
    (x >>= f) = .ok b ↔ ∃ a, x = .ok a ∧ f a = .ok b := by
  cases x with
  | error e =>
    constructor
    · intro h
      exact absurd h (by simp [bind, Except.bind])
    · rintro ⟨a, h, -⟩
      exact absurd h (by simp)
  | ok a =>
    constructor
    · intro h
      exact ⟨a, rfl, h⟩
    · rintro ⟨a', h, hf⟩
      rw [← Except.ok.inj h] at hf
      exact hf

/-! ### Validation -/

namespace Statement

variable {statement : Statement}

/-- A statement is checked when its table, its columns and what is special to its kind are. -/
theorem validate_eq_ok_iff :
    statement.validate = .ok () ↔
      (∀ t, statement.table? = some t → isIdentifier t = true) ∧
        statement.validateShape = .ok () ∧
        ∀ t ∈ statement.columnNames, isIdentifier t = true := by
  have htable : validateIdentifiers statement.table?.toList = .ok () ↔
      ∀ t, statement.table? = some t → isIdentifier t = true := by
    rw [validateIdentifiers_eq_ok_iff]
    simp only [Option.mem_toList]
  rw [validate, bind_eq_ok_iff]
  simp only [bind_eq_ok_iff]
  rw [← htable, ← validateIdentifiers_eq_ok_iff]
  constructor
  · rintro ⟨⟨⟩, htable, ⟨⟩, hshape, hcolumns⟩
    exact ⟨htable, hshape, hcolumns⟩
  · rintro ⟨htable, hshape, hcolumns⟩
    exact ⟨(), htable, (), hshape, hcolumns⟩

/-- The table of a checked statement is an identifier. -/
theorem isName_of_validate {table : String} (h : statement.validate = .ok ())
    (htable : statement.table? = some table) : IsName table.toList :=
  isIdentifier_iff.mp ((validate_eq_ok_iff.mp h).1 table htable)

end Statement

/-- Preparing is checking and translating the numbered text; the parameters are those of the
statement. -/
theorem prepare_eq_ok_iff {mode : Mode} {statement : Statement} {q : BoundQuery} :
    prepare mode statement = .ok q ↔
      statement.validate = .ok () ∧
        ∃ sql, toSql mode statement.numberedText = .ok sql ∧ q = ⟨sql, statement.params⟩ := by
  rw [prepare, bind_eq_ok_iff, statement.template_eq]
  constructor
  · rintro ⟨⟨⟩, hvalid, h⟩
    obtain ⟨sql, hsql, hq⟩ := bind_eq_ok_iff.mp h
    exact ⟨hvalid, sql, hsql, (Except.ok.inj hq).symm⟩
  · rintro ⟨hvalid, sql, hsql, rfl⟩
    exact ⟨(), hvalid, bind_eq_ok_iff.mpr ⟨sql, hsql, rfl⟩⟩

/-- What strict mode accepts is translated alike in either mode. -/
theorem toSql_of_strict {text sql : String} (h : toSql .strict text = .ok sql) (mode : Mode) :
    toSql mode text = .ok sql := by
  cases mode with
  | strict => exact h
  | passthrough =>
    rw [toSql] at h ⊢
    cases htext : trimmedToSql .strict (trim text.toList) with
    | error e =>
      rw [htext] at h
      exact absurd h (by simp [Except.map])
    | ok chars =>
      obtain ⟨sentence, hspell, rfl⟩ := trimmedToSql_strict_eq_ok_iff.mp htext
      rw [htext] at h
      rw [trimmedToSql_of_spelling .passthrough hspell]
      exact h

/-- The mode makes no difference for a statement that is prepared strictly. -/
theorem prepare_of_strict {statement : Statement} {q : BoundQuery}
    (h : prepare .strict statement = .ok q) (mode : Mode) : prepare mode statement = .ok q := by
  obtain ⟨hvalid, sql, hsql, rfl⟩ := prepare_eq_ok_iff.mp h
  exact prepare_eq_ok_iff.mpr ⟨hvalid, sql, toSql_of_strict hsql mode, rfl⟩

/-! ### The beginning of a statement's text -/

/-- A text with a name behind its beginning still begins the same when it is trimmed. -/
theorem prefix_trim_of_name {lead name rest : List Char} (hlead : Stops isBlank lead)
    (hne : lead ≠ []) (hname : IsName name) (hmem : ∀ c ∈ name, c ∈ rest) :
    lead <+: trim (lead ++ rest) := by
  cases name with
  | nil => exact absurd hname id
  | cons c name =>
    have hc : isBlank c = false := isBlank_of_isWordChar (hname.wordChar c (by simp))
    exact append_prefix_trim (stops_append hlead hne) (hmem c (by simp)) hc

theorem toList_withFilter (s : String) (filter : Option String) :
    ∃ tail, (Template.withFilter s filter).toList = s.toList ++ tail := by
  cases filter with
  | none => exact ⟨[], (List.append_nil _).symm⟩
  | some f =>
    rw [Template.withFilter]
    split
    · exact ⟨[], (List.append_nil _).symm⟩
    · exact ⟨" DIMANA ".toList ++ f.toList, by simp only [String.toList_append, List.append_assoc]⟩

namespace Statement

variable {statement : Statement}

/-- The text of a statement begins like a statement of its kind; behind that stands the name of its
table, among other things. -/
theorem toList_textOf (bound : List String) (condition : Option String) {table : String}
    (h : statement.table? = some table) :
    ∃ rest, (statement.textOf bound condition).toList = statement.kind.lead ++ rest ∧
      ∀ c ∈ table.toList, c ∈ rest := by
  cases statement with
  | createTable name columns =>
    obtain rfl := Option.some.inj h
    have hlead : "LAHAN ".toList = Kind.createTable.lead := by decide
    show ∃ rest, (Template.createTable name columns).toList = Kind.createTable.lead ++ rest ∧ _
    rw [Template.createTable, ← hlead]
    split
    · exact ⟨name.toList, String.toList_append, fun c hc => hc⟩
    · refine ⟨name.toList ++ (" (" ++ columns ++ ")").toList, ?_, ?_⟩
      · simp only [String.toList_append, List.append_assoc]
      · exact fun c hc => List.mem_append_left _ hc
  | insert name columns values =>
    obtain rfl := Option.some.inj h
    have hlead : "TANAM KE ".toList = Kind.insert.lead := by decide
    refine ⟨name.toList ++ (" (" ++ joinWith ", " columns ++ ") BIBIT (" ++
      joinWith ", " bound ++ ")").toList, ?_, ?_⟩
    · show (Template.insert name columns _).toList = Kind.insert.lead ++ _
      rw [← hlead, Template.insert]
      simp only [String.toList_append, List.append_assoc]
    · exact fun c hc => List.mem_append_left _ hc
  | select name columns filter =>
    obtain rfl := Option.some.inj h
    have hlead : "PANEN ".toList = Kind.select.lead := by decide
    obtain ⟨tail, htail⟩ := toList_withFilter ("PANEN " ++ columns ++ " DARI " ++ name) condition
    refine ⟨(columns ++ " DARI ").toList ++ (name.toList ++ tail), ?_, ?_⟩
    · show (Template.withFilter _ _).toList = Kind.select.lead ++ _
      rw [htail, ← hlead]
      simp only [String.toList_append, List.append_assoc]
    · exact fun c hc => List.mem_append_right _ (List.mem_append_left _ hc)
  | update name assignments filter =>
    obtain rfl := Option.some.inj h
    have hlead : "PUPUK ".toList = Kind.update.lead := by decide
    obtain ⟨tail, htail⟩ :=
      toList_withFilter ("PUPUK " ++ name ++ " DENGAN " ++ joinWith ", " bound) condition
    refine ⟨name.toList ++ ((" DENGAN " ++ joinWith ", " bound).toList ++ tail), ?_, ?_⟩
    · show (Template.withFilter _ _).toList = Kind.update.lead ++ _
      rw [htail, ← hlead]
      simp only [String.toList_append, List.append_assoc]
    · exact fun c hc => List.mem_append_left _ hc
  | delete name filter =>
    obtain rfl := Option.some.inj h
    have hlead : "GUSUR DARI ".toList = Kind.delete.lead := by decide
    obtain ⟨tail, htail⟩ := toList_withFilter ("GUSUR DARI " ++ name) condition
    refine ⟨name.toList ++ tail, ?_, ?_⟩
    · show (Template.withFilter _ _).toList = Kind.delete.lead ++ _
      rw [htail, ← hlead]
      simp only [String.toList_append, List.append_assoc]
    · exact fun c hc => List.mem_append_left _ hc
  | dropTable name =>
    obtain rfl := Option.some.inj h
    have hlead : "BAKAR LAHAN ".toList = Kind.dropTable.lead := by decide
    refine ⟨name.toList, ?_, fun c hc => hc⟩
    show (Template.dropTable name).toList = Kind.dropTable.lead ++ _
    rw [← hlead, Template.dropTable, String.toList_append]
  | listTables => exact absurd h (by simp [table?])
  | count name filter =>
    obtain rfl := Option.some.inj h
    have hlead : "HITUNG COUNT(*) DARI ".toList = Kind.count.lead ++ "COUNT(*) DARI ".toList := by
      decide
    obtain ⟨tail, htail⟩ := toList_withFilter ("HITUNG COUNT(*) DARI " ++ name) condition
    -- `COUNT(*)` belongs to what stands behind the beginning that all counts share.
    refine ⟨"COUNT(*) DARI ".toList ++ (name.toList ++ tail), ?_, ?_⟩
    · show (Template.withFilter _ _).toList = Kind.count.lead ++ _
      rw [htail, String.toList_append, hlead]
      simp only [List.append_assoc]
    · exact fun c hc => List.mem_append_right _ (List.mem_append_left _ hc)

/-- The text of a checked statement begins like a statement of its kind. -/
theorem opens_textOf {bound : List String} {condition : Option String}
    (h : statement.validate = .ok ()) :
    statement.kind.opens (trim (statement.textOf bound condition).toList) = true := by
  cases htable : statement.table? with
  | none =>
    cases statement with
    | listTables => exact (by decide : Kind.listTables.opens (trim Template.listTables.toList) = true)
    | _ => exact absurd htable (by simp [table?])
  | some table =>
    have hkind : statement.kind ≠ .listTables := by
      cases statement with
      | listTables => exact absurd htable (by simp [table?])
      | _ => simp [kind]
    have hne : statement.kind.lead ≠ [] := by
      cases statement.kind <;> decide
    obtain ⟨rest, htext, hmem⟩ := toList_textOf bound condition htable
    rw [htext]
    exact Kind.opens_of_begins hkind (prefix_trim_of_name (Kind.stops_lead _) hne
      (isName_of_validate h htable) hmem)

/-- The text of a checked statement begins with the keyword of its own kind. -/
theorem opens_numberedText (h : statement.validate = .ok ()) :
    statement.kind.opens (trim statement.numberedText.toList) = true := by
  rw [numberedText_eq]
  exact opens_textOf h

end Statement

/-! ### The SQL of a prepared statement -/

/-- The words that the SQL of a kind begins with. -/
def Kind.verb : Kind → String
  | createTable => "CREATE TABLE"
  | insert => "INSERT INTO"
  | select => "SELECT"
  | update => "UPDATE"
  | delete => "DELETE FROM"
  | dropTable => "DROP TABLE"
  | listTables => "SELECT"
  | count => "SELECT"

/-- The SQL of a sentence begins with the verb of its kind and a space. -/
theorem Sentence.verb_prefix_sql (sentence : Sentence) :
    sentence.kind.verb.toList ++ [' '] <+: sentence.sql := by
  cases sentence with
  | createTable name columns =>
    have hverb : Kind.createTable.verb.toList ++ [' '] <+: "CREATE TABLE ".toList := by decide
    show _ <+: "CREATE TABLE ".toList ++ name ++ " (".toList ++ columns ++ ")".toList
    simp only [List.append_assoc]
    exact hverb.trans (List.prefix_append _ _)
  | insert table columns values =>
    have hverb : Kind.insert.verb.toList ++ [' '] <+: "INSERT INTO ".toList := by decide
    show _ <+: "INSERT INTO ".toList ++ table ++ " (".toList ++ columns ++ ") VALUES (".toList ++
      values ++ ")".toList
    simp only [List.append_assoc]
    exact hverb.trans (List.prefix_append _ _)
  | select columns table filter =>
    have hverb : Kind.select.verb.toList ++ [' '] <+: "SELECT ".toList := by decide
    show _ <+: "SELECT ".toList ++ columns ++ " FROM ".toList ++ table ++ whereSql filter
    simp only [List.append_assoc]
    exact hverb.trans (List.prefix_append _ _)
  | update table set filter =>
    have hverb : Kind.update.verb.toList ++ [' '] <+: "UPDATE ".toList := by decide
    show _ <+: "UPDATE ".toList ++ table ++ " SET ".toList ++ set ++ whereSql filter
    simp only [List.append_assoc]
    exact hverb.trans (List.prefix_append _ _)
  | delete table filter =>
    have hverb : Kind.delete.verb.toList ++ [' '] <+: "DELETE FROM ".toList := by decide
    show _ <+: "DELETE FROM ".toList ++ table ++ whereSql filter
    simp only [List.append_assoc]
    exact hverb.trans (List.prefix_append _ _)
  | dropTable name =>
    have hverb : Kind.dropTable.verb.toList ++ [' '] <+: "DROP TABLE ".toList := by decide
    show _ <+: "DROP TABLE ".toList ++ name
    exact hverb.trans (List.prefix_append _ _)
  | listTables =>
    have hverb : Kind.listTables.verb.toList ++ [' '] <+:
        "SELECT tablename FROM pg_catalog.pg_tables ".toList := by decide
    show _ <+: (_ ++ _ : String).toList
    rw [String.toList_append]
    exact hverb.trans (List.prefix_append _ _)
  | count columns table filter =>
    have hverb : Kind.count.verb.toList ++ [' '] <+: "SELECT ".toList := by decide
    show _ <+: "SELECT ".toList ++ columns ++ " FROM ".toList ++ table ++ whereSql filter
    simp only [List.append_assoc]
    exact hverb.trans (List.prefix_append _ _)

/-- A text that begins like a kind is translated into SQL with the verb of the kind, unless it is
forwarded as it is. -/
theorem trimmedToSql_verb {mode : Mode} {kind : Kind} {s sql : List Char}
    (hopens : kind.opens s = true) (h : trimmedToSql mode s = .ok sql) :
    kind.verb.toList ++ [' '] <+: sql ∨ mode = .passthrough ∧ sql = s := by
  rw [trimmedToSql_of_opens hopens] at h
  cases hread : Sentence.read? kind s with
  | some sentence =>
    rw [hread] at h
    have hkind : sentence.kind = kind :=
      Kind.opens_unique (spelling_of_read hopens hread).opens hopens
    rw [← Except.ok.inj h, ← hkind]
    exact .inl sentence.verb_prefix_sql
  | none =>
    rw [hread] at h
    cases mode with
    | strict => exact absurd h (by simp [fallback])
    | passthrough => exact .inr ⟨rfl, (Except.ok.inj h).symm⟩

/-- Prepared SQL begins with the verb of the statement's kind, or is the trimmed text of the
statement, which begins with the kind's keyword. -/
theorem sql_of_prepare {mode : Mode} {statement : Statement} {q : BoundQuery}
    (h : prepare mode statement = .ok q) :
    statement.kind.verb.toList ++ [' '] <+: q.sql.toList ∨
      mode = .passthrough ∧ q.sql = trimText statement.template.1 ∧
        statement.kind.keyword.toList <+: q.sql.toList := by
  obtain ⟨hvalid, sql, hsql, rfl⟩ := prepare_eq_ok_iff.mp h
  have hopens := statement.opens_numberedText hvalid
  rw [toSql] at hsql
  cases htext : trimmedToSql mode (trim statement.numberedText.toList) with
  | error e => rw [htext] at hsql; exact absurd hsql (by simp [Except.map])
  | ok chars =>
    rw [htext] at hsql
    obtain rfl : String.ofList chars = sql := Except.ok.inj hsql
    rw [String.toList_ofList, statement.template_eq]
    rcases trimmedToSql_verb hopens htext with hverb | ⟨hmode, rfl⟩
    · exact .inl hverb
    · refine .inr ⟨hmode, rfl, ?_⟩
      exact (Kind.keyword_prefix_lead _).trans (Kind.lead_prefix_of_opens hopens)

/-! ### Drops -/

theorem validate_dropTable (table : String) :
    (Statement.dropTable table).validate = validateIdentifier table := by
  show (validateIdentifiers [table] >>= fun _ => (.ok () : Except Error Unit)) = _
  rw [validateIdentifiers]
  cases validateIdentifier table <;> rfl

/-- The text that drops a table is translated when the table's name is an identifier. -/
theorem toSql_dropTable (mode : Mode) {table : String} (h : isIdentifier table = true) :
    toSql mode ("BAKAR LAHAN " ++ table) = .ok ("DROP TABLE " ++ table) := by
  have hname : IsName table.toList := isIdentifier_iff.mp h
  have htext : ("BAKAR LAHAN " ++ table).toList = "BAKAR LAHAN".toList ++ ([' '] ++ table.toList) := by
    rw [String.toList_append, ← List.append_assoc]
    exact congrArg (· ++ table.toList) (by decide)
  have htrim : trim ("BAKAR LAHAN " ++ table).toList = ("BAKAR LAHAN " ++ table).toList := by
    refine trim_eq_self ?_ ?_
    · rw [htext]
      exact stops_append (by decide) (by decide)
    · rw [String.toList_append, List.reverse_append]
      exact stops_append hname.stops_reverse (by simp [hname.ne_nil])
  have hspell : Spelling ("BAKAR LAHAN".toList ++ ([' '] ++ table.toList)) (.dropTable table.toList) :=
    .dropTable ⟨gapBefore_space hname.stops_gap, rfl⟩ hname
  rw [toSql, htrim, htext, trimmedToSql_of_spelling mode hspell]
  show Except.ok (String.ofList ("DROP TABLE ".toList ++ table.toList)) = _
  rw [String.ofList_append, String.ofList_toList, String.ofList_toList]

/-- The drop of a table is prepared exactly when the table's name is an identifier. -/
theorem prepare_dropTable (mode : Mode) (table : String) :
    prepare mode (.dropTable table) =
      if isIdentifier table then .ok ⟨"DROP TABLE " ++ table, []⟩
      else .error (.invalidIdentifier table) := by
  split
  · next h =>
    refine prepare_eq_ok_iff.mpr ⟨?_, _, toSql_dropTable mode h, rfl⟩
    rw [validate_dropTable, validateIdentifier_eq_ok_iff.mpr h]
  · next h =>
    rw [prepare, validate_dropTable, validateIdentifier, if_neg h]
    rfl

end AqlGateway.Aql
