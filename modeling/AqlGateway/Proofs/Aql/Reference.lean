import AqlGateway.Proofs.Aql.ReadBack

/-!
# Reference queries

* `Statement.referenceSql` — the SQL that a statement stands for, written down at once;
* `Statement.freeTexts` — the texts that a caller writes into a statement and no check reads;
* `FollowsReference` — a statement is prepared as its reference query exactly when its free texts
  are clauses;
* `followsReference_of_condition` — what has to be shown of a statement with a condition.

All kinds but the updates follow their reference, and it is shown here.
-/

namespace AqlGateway.Aql

open Text

namespace Statement

def whereText : Option String → String
  | none => ""
  | some f => " WHERE " ++ trimText f

def referenceSql : Statement → String
  | createTable name columns => "CREATE TABLE " ++ name ++ " (" ++ trimText columns ++ ")"
  | insert table columns values =>
    "INSERT INTO " ++ table ++ " (" ++ joinWith ", " columns ++ ") VALUES ("
      ++ joinWith ", " (placeholders 0 values.length) ++ ")"
  | select table columns filter =>
    "SELECT " ++ trimText columns ++ " FROM " ++ table
      ++ whereText (select table columns filter).conditionText?
  | update table assignments filter =>
    "UPDATE " ++ table ++ " SET " ++ joinWith ", " (assignmentTexts 0 assignments)
      ++ whereText (update table assignments filter).conditionText?
  | delete table filter => "DELETE FROM " ++ table ++ whereText (delete table filter).conditionText?
  | dropTable name => "DROP TABLE " ++ name
  | listTables => listTablesSql
  | count table filter =>
    "SELECT COUNT(*) FROM " ++ table ++ whereText (count table filter).conditionText?

/-- The SQL with these texts for the values, and this condition. -/
def sqlOf (bound : List String) (condition : Option String) : Statement → String
  | createTable name columns => "CREATE TABLE " ++ name ++ " (" ++ trimText columns ++ ")"
  | insert table columns _ =>
    "INSERT INTO " ++ table ++ " (" ++ joinWith ", " columns ++ ") VALUES ("
      ++ joinWith ", " bound ++ ")"
  | select table columns _ =>
    "SELECT " ++ trimText columns ++ " FROM " ++ table ++ whereText condition
  | update table _ _ => "UPDATE " ++ table ++ " SET " ++ joinWith ", " bound ++ whereText condition
  | delete table _ => "DELETE FROM " ++ table ++ whereText condition
  | dropTable name => "DROP TABLE " ++ name
  | listTables => listTablesSql
  | count table _ => "SELECT COUNT(*) FROM " ++ table ++ whereText condition

theorem referenceSql_eq (statement : Statement) :
    statement.referenceSql = statement.sqlOf statement.boundTexts statement.conditionText? := by
  cases statement <;> rfl

/-- What is read from the text of a statement, up to its condition. -/
def sentenceOf (bound : List String) (statement : Statement) (condition : Option (List Char)) :
    Sentence :=
  match statement with
  | createTable name columns => .createTable name.toList (trim columns.toList)
  | insert table columns _ =>
    .insert table.toList (joinWith ", " columns).toList (joinWith ", " bound).toList
  | select table columns _ => .select (trim columns.toList) table.toList condition
  | update table _ _ => .update table.toList (joinWith ", " bound).toList condition
  | delete table _ => .delete table.toList condition
  | dropTable name => .dropTable name.toList
  | listTables => .listTables
  | count table _ => .count "COUNT(*)".toList table.toList condition

/-- What a caller writes into a statement and no check reads: the column definitions of a new table,
and the condition. -/
def freeTexts : Statement → List String
  | createTable _ columns => [columns]
  | statement => statement.conditionText?.toList

/-- The parts without which a statement's text has no shape: an insert has columns, an update has
assignments, and no column of a select is named like the word behind them. -/
def HasParts : Statement → Prop
  | insert _ columns _ => columns ≠ []
  | select _ columns _ => "DARI" ∉ listItems (trim columns.toList)
  | update _ assignments _ => assignments ≠ []
  | _ => True

instance : (statement : Statement) → Decidable statement.HasParts
  | insert _ columns _ => inferInstanceAs (Decidable (columns ≠ []))
  | select _ columns _ => inferInstanceAs (Decidable ("DARI" ∉ listItems (trim columns.toList)))
  | update _ assignments _ => inferInstanceAs (Decidable (assignments ≠ []))
  | createTable _ _ => isTrue trivial
  | delete _ _ => isTrue trivial
  | dropTable _ => isTrue trivial
  | listTables => isTrue trivial
  | count _ _ => isTrue trivial

end Statement

/-- A statement is prepared as its reference query when its free texts are clauses, and refused as
malformed when they are not. -/
structure FollowsReference (statement : Statement) : Prop where
  accepted : (∀ x ∈ statement.freeTexts, IsClause x.toList) →
    prepare .strict statement = .ok ⟨statement.referenceSql, statement.params⟩
  refused : (¬ ∀ x ∈ statement.freeTexts, IsClause x.toList) →
    prepare .strict statement
      = .error (.malformedStatement statement.kind (trimText statement.template.1))

/-! ### From sentences to prepared statements -/

variable {statement : Statement} {bound : List String} {condition : Option String}

theorem whereSql_trim (filter : Option String) :
    whereSql (filter.map fun f => trim f.toList) = (Statement.whereText filter).toList := by
  cases filter with
  | none => rfl
  | some f =>
    show " WHERE ".toList ++ trim f.toList = (" WHERE " ++ trimText f).toList
    rw [String.toList_append, toList_trimText]

/-- The SQL of what is read from a statement's text. -/
theorem Statement.sql_sentenceOf (statement : Statement) (bound : List String)
    (condition : Option String) :
    (statement.sentenceOf bound (condition.map fun f => trim f.toList)).sql
      = (statement.sqlOf bound condition).toList := by
  cases statement with
  | createTable name columns =>
    show "CREATE TABLE ".toList ++ name.toList ++ " (".toList ++ trim columns.toList ++ ")".toList
      = ("CREATE TABLE " ++ name ++ " (" ++ trimText columns ++ ")").toList
    simp only [String.toList_append, toList_trimText]
  | insert table columns values =>
    show "INSERT INTO ".toList ++ table.toList ++ " (".toList ++ (joinWith ", " columns).toList
        ++ ") VALUES (".toList ++ (joinWith ", " bound).toList ++ ")".toList
      = ("INSERT INTO " ++ table ++ " (" ++ joinWith ", " columns ++ ") VALUES ("
        ++ joinWith ", " bound ++ ")").toList
    simp only [String.toList_append]
  | select table columns filter =>
    show "SELECT ".toList ++ trim columns.toList ++ " FROM ".toList ++ table.toList ++ whereSql _
      = ("SELECT " ++ trimText columns ++ " FROM " ++ table ++ whereText condition).toList
    rw [whereSql_trim]
    simp only [String.toList_append, toList_trimText]
  | update table assignments filter =>
    show "UPDATE ".toList ++ table.toList ++ " SET ".toList ++ (joinWith ", " bound).toList
        ++ whereSql _
      = ("UPDATE " ++ table ++ " SET " ++ joinWith ", " bound ++ whereText condition).toList
    rw [whereSql_trim]
    simp only [String.toList_append]
  | delete table filter =>
    show "DELETE FROM ".toList ++ table.toList ++ whereSql _
      = ("DELETE FROM " ++ table ++ whereText condition).toList
    rw [whereSql_trim]
    simp only [String.toList_append]
  | dropTable name => exact String.toList_append.symm
  | listTables => rfl
  | count table filter =>
    show "SELECT ".toList ++ "COUNT(*)".toList ++ " FROM ".toList ++ table.toList ++ whereSql _
      = ("SELECT COUNT(*) FROM " ++ table ++ whereText condition).toList
    rw [whereSql_trim, String.toList_append, String.toList_append]
    exact congrArg (· ++ table.toList ++ _) (by decide)

/-- The SQL of a statement is that of the sentence that is read in its text. -/
theorem toSql_of_read {sentence : Sentence} {sql : String} (hvalid : statement.validate = .ok ())
    (hread : Sentence.read? statement.kind (trim (statement.textOf bound condition).toList)
      = some sentence) (hsql : sentence.sql = sql.toList) :
    toSql .strict (statement.textOf bound condition) = .ok sql := by
  rw [toSql, trimmedToSql_of_opens (Statement.opens_textOf hvalid), hread]
  show Except.ok (String.ofList sentence.sql) = _
  rw [hsql, String.ofList_toList]

/-- A text in which no sentence of its kind is read is refused as malformed. -/
theorem toSql_of_unread (hvalid : statement.validate = .ok ())
    (hread : Sentence.read? statement.kind (trim (statement.textOf bound condition).toList) = none) :
    toSql .strict (statement.textOf bound condition)
      = .error (.malformedStatement statement.kind
          (trimText (statement.textOf bound condition))) := by
  rw [toSql, trimmedToSql_of_opens (Statement.opens_textOf hvalid), hread]
  rfl

/-- A statement is prepared as the SQL of the sentence that is read in its numbered text. -/
theorem prepare_of_read {sentence : Sentence} {sql : String} (hvalid : statement.validate = .ok ())
    (hread : Sentence.read? statement.kind (trim statement.numberedText.toList) = some sentence)
    (hsql : sentence.sql = sql.toList) :
    prepare .strict statement = .ok ⟨sql, statement.params⟩ := by
  refine prepare_eq_ok_iff.mpr ⟨hvalid, sql, ?_, rfl⟩
  rw [Statement.numberedText_eq] at hread ⊢
  exact toSql_of_read hvalid hread hsql

theorem prepare_of_unread (hvalid : statement.validate = .ok ())
    (hread : Sentence.read? statement.kind (trim statement.numberedText.toList) = none) :
    prepare .strict statement
      = .error (.malformedStatement statement.kind (trimText statement.template.1)) := by
  rw [prepare, hvalid, statement.template_eq, Statement.numberedText_eq]
  rw [Statement.numberedText_eq] at hread
  show (toSql .strict (statement.textOf _ _) >>= fun sql => _) = _
  rw [toSql_of_unread hvalid hread]
  rfl

theorem readCondition_of_clause {filter : Option String}
    (h : ∀ x ∈ filter.toList, IsClause x.toList) :
    readCondition filter = some (filter.map fun f => trim f.toList) := by
  cases filter with
  | none => rfl
  | some f =>
    rw [readCondition, clause?_of_isClause (h f (by simp))]
    rfl

theorem readCondition_of_not_clause {filter : Option String}
    (h : ¬ ∀ x ∈ filter.toList, IsClause x.toList) : readCondition filter = none := by
  cases filter with
  | none => exact absurd (fun x hx => absurd hx (by simp)) h
  | some f =>
    have hf : ¬ IsClause f.toList := by simpa using h
    rw [readCondition, clause?_eq_none_iff.mpr hf]
    rfl

/-- A statement that is read up to its condition follows its reference. -/
theorem followsReference_of_condition (hvalid : statement.validate = .ok ())
    (hfree : statement.freeTexts = statement.conditionText?.toList)
    (hread : Sentence.read? statement.kind
        (trim (statement.textOf statement.boundTexts statement.conditionText?).toList)
      = (readCondition statement.conditionText?).map (statement.sentenceOf statement.boundTexts)) :
    FollowsReference statement where
  accepted h := by
    rw [hfree] at h
    rw [readCondition_of_clause h, ← Statement.numberedText_eq] at hread
    refine prepare_of_read hvalid hread ?_
    rw [statement.sql_sentenceOf, Statement.referenceSql_eq]
  refused h := by
    rw [hfree] at h
    rw [readCondition_of_not_clause h, ← Statement.numberedText_eq] at hread
    exact prepare_of_unread hvalid hread

/-! ### Reading each kind -/

/-- The word behind the columns of a select or a count is the first of its kind. -/
def FirstDari (columns : String) : Prop :=
  ∀ rest, NotBefore " DARI ".toList (skipGap columns.toList) (" DARI ".toList ++ rest)

/-- The word behind the columns is the first of its kind when no column has its name. -/
theorem firstDari_of_notMem {columns : String} (h : validateColumns columns = .ok ())
    (hparts : "DARI" ∉ listItems (trim columns.toList)) : FirstDari columns := by
  intro rest
  obtain ⟨w, hsplit, hw⟩ := skipGap_spec columns.toList
  exact notBefore_dari h hparts hsplit (fun d hd => isBlank_of_isGap (hw.gaps d hd)) rest

/-- The trimmed text of a select or a count. -/
theorem trim_from_text {keyword : List Char} {text columns table : String}
    (htext : text.toList
      = (keyword ++ [' ']) ++ ((columns.toList ++ " DARI ".toList) ++ table.toList))
    (hkeyword : Stops isBlank keyword) (hne : keyword ≠ []) (hname : IsName table.toList)
    (hcondition : condition ≠ some "") :
    trim (Template.withFilter text condition).toList
      = keyword ++ ([' '] ++ (columns.toList ++ (" DARI ".toList
          ++ (table.toList ++ conditionTail condition)))) := by
  rw [trim_withFilter htext (stops_append hkeyword hne) (by simp) hname.stops_reverse hname.ne_nil
    hcondition]
  simp only [List.append_assoc]

theorem toList_select (table columns : String) :
    ("PANEN " ++ columns ++ " DARI " ++ table).toList
      = ("PANEN".toList ++ [' ']) ++ ((columns.toList ++ " DARI ".toList) ++ table.toList) := by
  have hlead : "PANEN ".toList = "PANEN".toList ++ [' '] := by decide
  rw [← hlead]
  simp only [String.toList_append, List.append_assoc]

theorem read_select_text {table columns : String} {filter : Option Predicate}
    (hvalid : (Statement.select table columns filter).validate = .ok ())
    (hdari : FirstDari columns) (hcondition : condition ≠ some "") :
    Sentence.read? .select (trim (Template.select table columns condition).toList)
      = (readCondition condition).map (.select (trim columns.toList) table.toList) := by
  have hname : IsName table.toList := Statement.isName_of_validate hvalid rfl
  have hcolumns : validateColumns columns = .ok () := (Statement.validate_eq_ok_iff.mp hvalid).2.1
  show (readFrom? "PANEN".toList (trim (Template.withFilter _ _).toList)).map _ = _
  rw [trim_from_text (toList_select table columns) (by decide) (by decide) hname hcondition,
    read_from hname (isClause_columns hcolumns) hdari]
  cases readCondition condition <;> rfl

theorem read_count_text {table : String} (hname : IsName table.toList)
    (hcondition : condition ≠ some "") :
    Sentence.read? .count (trim (Template.count table condition).toList)
      = (readCondition condition).map (.count "COUNT(*)".toList table.toList) := by
  have htext : ("HITUNG COUNT(*) DARI " ++ table).toList
      = ("HITUNG".toList ++ [' ']) ++ (("COUNT(*)".toList ++ " DARI ".toList) ++ table.toList) := by
    rw [String.toList_append, ← List.append_assoc]
    exact congrArg (· ++ table.toList) (by decide)
  have hcolumns : validateColumns "COUNT(*)" = .ok () := by decide
  have htrim : trim "COUNT(*)".toList = "COUNT(*)".toList := by decide
  show (readFrom? "HITUNG".toList (trim (Template.withFilter _ _).toList)).map _ = _
  rw [trim_from_text htext (by decide) (by decide) hname hcondition,
    read_from hname (isClause_columns hcolumns) (firstDari_of_notMem hcolumns (by decide)), htrim]
  cases readCondition condition <;> rfl

theorem read_delete_text {table : String} (hname : IsName table.toList)
    (hcondition : condition ≠ some "") :
    Sentence.read? .delete (trim (Template.delete table condition).toList)
      = (readCondition condition).map (.delete table.toList) := by
  have hlead : "GUSUR DARI ".toList = "GUSUR DARI".toList ++ [' '] := by decide
  have hbase : ("GUSUR DARI " ++ table).toList = "GUSUR DARI ".toList ++ ([] ++ table.toList) :=
    String.toList_append
  show readDelete? (trim (Template.withFilter _ _).toList) = _
  rw [trim_withFilter hbase (by decide) (by decide) hname.stops_reverse hname.ne_nil hcondition,
    hlead, List.append_assoc, List.nil_append, read_delete hname]

theorem read_insert_text {table : String} {columns : List String} (hname : IsName table.toList)
    (hcolumns : ∀ t ∈ columns, IsToken t) (hparts : columns ≠ [])
    (hsolid : IsSolid (joinWith ", " bound).toList) (hbound : IsClause (joinWith ", " bound).toList) :
    Sentence.read? .insert (trim (Template.insert table columns bound).toList)
      = some (.insert table.toList (joinWith ", " columns).toList (joinWith ", " bound).toList) := by
  have hspell : Spelling
      ("TANAM KE".toList ++ ([' '] ++ (table.toList ++ ([' '] ++ '(' ::
        ((joinWith ", " columns).toList ++ ')' :: ([' '] ++ ("BIBIT".toList ++ ([' '] ++ '(' ::
          ((joinWith ", " bound).toList ++ [')'])))))))))
      (.insert table.toList (trim (joinWith ", " columns).toList)
        (trim (joinWith ", " bound).toList)) :=
    .insert ⟨gapBefore_space (stops_append hname.stops_gap hname.ne_nil), rfl⟩
      ⟨hname, stops_cons.mpr (by decide)⟩ (gapBefore_space (stops_cons.mpr (by decide)))
      (notMem_tokens hcolumns (by decide) (by decide)) (isClause_tokens hcolumns hparts)
      (gapBefore_space (stops_append (by decide) (by decide)))
      (gapBefore_space (stops_cons.mpr (by decide))) hbound
  have hlead : "TANAM KE ".toList = "TANAM KE".toList ++ [' '] := by decide
  have hopen : " (".toList = [' ', '('] := by decide
  have hmiddle : ") BIBIT (".toList
      = [')'] ++ ([' '] ++ ("BIBIT".toList ++ ([' '] ++ ['(']))) := by decide
  have hclose : ")".toList = [')'] := by decide
  have htext : (Template.insert table columns bound).toList
      = "TANAM KE ".toList ++ ((table.toList ++ (" (".toList ++ ((joinWith ", " columns).toList ++
        (") BIBIT (".toList ++ (joinWith ", " bound).toList)))) ++ ")".toList) := by
    rw [Template.insert]
    simp only [String.toList_append, List.append_assoc]
  have hread := hspell.read
  rw [trim_tokens hcolumns, hsolid.trim_eq] at hread
  refine Eq.trans ?_ hread
  rw [htext, trim_between (by decide) (by decide) (by decide) (by decide), hlead, hopen, hmiddle,
    hclose]
  simp only [List.append_assoc, List.cons_append, List.nil_append]
  rfl

/-! ### The kinds -/

theorem followsReference_createTable {name columns : String}
    (hvalid : (Statement.createTable name columns).validate = .ok ()) :
    FollowsReference (.createTable name columns) := by
  have hname : IsName name.toList := Statement.isName_of_validate hvalid rfl
  have hlead : "LAHAN ".toList = "LAHAN".toList ++ [' '] := by decide
  have hread : Sentence.read? .createTable
      (trim (Statement.createTable name columns).numberedText.toList)
        = (clause? columns.toList).map (.createTable name.toList) := by
    show readCreateTable? (trim (Template.createTable name columns).toList) = _
    rw [Template.createTable]
    split
    · next hblank =>
      have hnone : clause? columns.toList = none :=
        clause?_eq_none_iff.mpr fun h => h.ne_nil ((isAllBlank_iff columns).mp hblank)
      have htext : ("LAHAN " ++ name).toList = "LAHAN ".toList ++ ([] ++ name.toList) :=
        String.toList_append
      rw [htext, trim_between (by decide) (by decide) hname.ne_nil hname.stops_reverse, hlead,
        List.append_assoc, List.nil_append, read_createTable_bare hname, hnone]
      rfl
    · have hopen : " (".toList = [' '] ++ ['('] := by decide
      have hclose : ")".toList = [')'] := by decide
      have htext : ("LAHAN " ++ name ++ " (" ++ columns ++ ")").toList
          = "LAHAN ".toList ++ ((name.toList ++ (" (".toList ++ columns.toList)) ++ ")".toList) := by
        simp only [String.toList_append, List.append_assoc]
      rw [htext, trim_between (by decide) (by decide) (by decide) (by decide), hlead, hopen, hclose,
        ← read_createTable hname]
      simp only [List.append_assoc, List.cons_append, List.nil_append]
  constructor
  · intro h
    have hclause : IsClause columns.toList := h columns (by simp [Statement.freeTexts])
    rw [clause?_of_isClause hclause] at hread
    exact prepare_of_read hvalid hread
      ((Statement.createTable name columns).sql_sentenceOf [] none)
  · intro h
    have hclause : ¬ IsClause columns.toList := by simpa [Statement.freeTexts] using h
    rw [clause?_eq_none_iff.mpr hclause] at hread
    exact prepare_of_unread hvalid hread

/-- The columns of a select may hold anything that is checked, but no item named like the word
behind them. -/
theorem followsReference_select {table columns : String} {filter : Option Predicate}
    (hvalid : (Statement.select table columns filter).validate = .ok ())
    (hparts : "DARI" ∉ listItems (trim columns.toList))
    (hcondition : (Statement.select table columns filter).conditionText? ≠ some "") :
    FollowsReference (.select table columns filter) :=
  followsReference_of_condition hvalid rfl (read_select_text hvalid
    (firstDari_of_notMem (Statement.validate_eq_ok_iff.mp hvalid).2.1 hparts) hcondition)

theorem followsReference_count {table : String} {filter : Option Predicate}
    (hvalid : (Statement.count table filter).validate = .ok ())
    (hcondition : (Statement.count table filter).conditionText? ≠ some "") :
    FollowsReference (.count table filter) :=
  followsReference_of_condition hvalid rfl
    (read_count_text (Statement.isName_of_validate hvalid rfl) hcondition)

theorem followsReference_delete {table : String} {filter : Option Predicate}
    (hvalid : (Statement.delete table filter).validate = .ok ())
    (hcondition : (Statement.delete table filter).conditionText? ≠ some "") :
    FollowsReference (.delete table filter) :=
  followsReference_of_condition hvalid rfl
    (read_delete_text (Statement.isName_of_validate hvalid rfl) hcondition)

/-- A checked insert has as many values as columns, and its columns are identifiers. -/
theorem insert_parts {table : String} {columns : List String} {values : List Value}
    (hvalid : (Statement.insert table columns values).validate = .ok ()) :
    columns.length = values.length ∧ ∀ t ∈ columns, IsToken t := by
  obtain ⟨-, hshape, hcolumns⟩ := Statement.validate_eq_ok_iff.mp hvalid
  refine ⟨?_, fun t ht => isToken_of_isIdentifier (hcolumns t ht)⟩
  have harity : (if columns.length = values.length then .ok ()
      else .error (Statement.arityError columns.length values.length)) = Except.ok () := hshape
  split at harity
  · next h => exact h
  · exact absurd harity (by simp)

/-- An insert has no condition, and the placeholders of its values make a clause. -/
theorem followsReference_insert {table : String} {columns : List String} {values : List Value}
    (hvalid : (Statement.insert table columns values).validate = .ok ()) (hparts : columns ≠ []) :
    FollowsReference (.insert table columns values) := by
  obtain ⟨hlength, hcolumns⟩ := insert_parts hvalid
  have hvalues : ∀ t ∈ placeholders 0 values.length, IsToken t := fun t ht =>
    isToken_of_mem_placeholders ht
  have hne : placeholders 0 values.length ≠ [] := by
    cases values with
    | nil => exact absurd (List.length_eq_zero_iff.mp hlength) hparts
    | cons value rest => exact List.cons_ne_nil _ _
  exact followsReference_of_condition hvalid rfl
    (read_insert_text (Statement.isName_of_validate hvalid rfl) hcolumns hparts
      (isSolid_tokens hvalues hne) (isClause_tokens hvalues hne))

theorem followsReference_dropTable {table : String}
    (hvalid : (Statement.dropTable table).validate = .ok ()) :
    FollowsReference (.dropTable table) := by
  have hname : isIdentifier table = true := (Statement.validate_eq_ok_iff.mp hvalid).1 table rfl
  constructor
  · intro _
    rw [prepare_dropTable, if_pos hname]
    rfl
  · intro h
    exact absurd (fun x hx => absurd hx (by simp [Statement.freeTexts, Statement.conditionText?,
      Statement.filter?])) h

theorem followsReference_listTables : FollowsReference .listTables := by
  have hread : Sentence.read? .listTables (trim Template.listTables.toList) = some .listTables := by
    decide
  exact followsReference_of_condition rfl rfl hread

end AqlGateway.Aql
