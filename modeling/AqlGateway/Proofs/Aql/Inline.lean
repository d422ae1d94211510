import AqlGateway.Proofs.Aql.Dangling
import AqlGateway.Proofs.Aql.Slots

/-!
# Placeholders and literals

The text of a statement with literals says what its template says with the literals filled in, unless
a literal moves the end of a set clause.

* `KeepsBounds`, `read_keepsBounds` — texts for the values with which a statement is read back;
* `keepsBounds_numbered`, `keepsBounds_literals` — the placeholders are such texts, and so are the
  literals when none of them is cut by the word ` DIMANA `;
* `fill_sqlOf` — filling the SQL with placeholders gives the SQL with literals;
* `read_splitsSet` — a literal that is cut by the word leaves no clause in front of it;
* `toSql_text` — the text with literals is translated into the filled SQL, or it is malformed, and
  when.
-/

namespace AqlGateway.Aql

open Text

/-- An update that assigns a text with the word ` DIMANA ` in it. -/
def Statement.SplitsSet : Statement → Prop
  | update _ assignments _ => ∃ a ∈ assignments, HoldsDimana a.value
  | _ => False

instance : (statement : Statement) → Decidable statement.SplitsSet
  | .update _ assignments _ => inferInstanceAs (Decidable (∃ a ∈ assignments, HoldsDimana a.value))
  | .createTable _ _ | .insert _ _ _ | .select _ _ _ | .delete _ _ | .dropTable _ | .listTables
  | .count _ _ => isFalse id

variable {statement : Statement}

/-! ### Leads -/

/-- In a checked statement nothing but a column and its sign is in front of a value. -/
theorem isLead_of_boundSlots (hvalid : statement.validate = .ok ()) :
    ∀ slot ∈ statement.boundSlots, IsLead slot.lead := by
  intro slot hslot
  have hcolumns := (Statement.validate_eq_ok_iff.mp hvalid).2.2
  cases statement with
  | insert table columns values =>
    obtain ⟨value, -, rfl⟩ := List.mem_map.mp hslot
    exact fun c hc => absurd hc List.not_mem_nil
  | update table assignments filter =>
    obtain ⟨a, ha, rfl⟩ := List.mem_map.mp hslot
    exact isLead_column (isIdentifier_of_update hvalid a ha)
  | _ => exact absurd hslot List.not_mem_nil

theorem Predicate.columns_eq (p : Predicate) {slot : Slot} (h : slot ∈ p.slots) :
    ∃ column ∈ p.columns, slot.lead = column ++ "=" := by
  induction p with
  | eq column value =>
    rw [List.mem_singleton.mp h]
    exact ⟨column, List.mem_singleton_self column, rfl⟩
  | and left right ihl ihr =>
    rcases List.mem_append.mp h with h | h
    · obtain ⟨column, hcolumn, hlead⟩ := ihl h
      exact ⟨column, List.mem_append_left _ hcolumn, hlead⟩
    · obtain ⟨column, hcolumn, hlead⟩ := ihr h
      exact ⟨column, List.mem_append_right _ hcolumn, hlead⟩
  | raw text => exact absurd h List.not_mem_nil

/-- The columns of a checked condition are identifiers. -/
theorem isLead_of_condition {p : Predicate} (hvalid : statement.validate = .ok ())
    (hp : statement.filter? = some p) : ∀ slot ∈ p.slots, IsLead slot.lead := by
  intro slot hslot
  obtain ⟨column, hcolumn, hlead⟩ := p.columns_eq hslot
  have hmem : column ∈ statement.columnNames := by
    cases statement with
    | update table assignments filter =>
      obtain rfl : filter = some p := hp
      exact List.mem_append_right _ hcolumn
    | select table columns filter =>
      obtain rfl : filter = some p := hp
      exact hcolumn
    | delete table filter =>
      obtain rfl : filter = some p := hp
      exact hcolumn
    | count table filter =>
      obtain rfl : filter = some p := hp
      exact hcolumn
    | _ => exact absurd hp (by simp [Statement.filter?])
  rw [hlead]
  exact isLead_column ((Statement.validate_eq_ok_iff.mp hvalid).2.2 column hmem)

/-! ### Reading -/

/-- Texts for the values and for the condition that leave a statement its boundaries. -/
structure KeepsBounds (statement : Statement) (bound : List String) (condition : Option String) :
    Prop where
  solid : statement.boundSlots ≠ [] → IsSolid (joinWith ", " bound).toList
  clause : statement.boundSlots ≠ [] → IsClause (joinWith ", " bound).toList
  filter : ∀ f ∈ condition.toList, IsClause f.toList
  word : statement.kind = .update →
    ∀ tail, NotBefore " DIMANA ".toList (joinWith ", " bound).toList tail

section KeepsBounds

variable {bound : List String} {condition : Option String}

theorem KeepsBounds.not_blank (h : KeepsBounds statement bound condition) {f : String}
    (hf : condition = some f) : ¬ isAllBlank f = true := by
  intro hblank
  have hclause : IsClause f.toList := h.filter f (by simp [hf])
  exact hclause.ne_nil ((isAllBlank_iff f).mp hblank)

theorem KeepsBounds.condition_ne (h : KeepsBounds statement bound condition) :
    condition ≠ some "" := fun hempty => h.not_blank hempty rfl

theorem boundSlots_ne_nil {table : String} {columns : List String} {values : List Value}
    (hvalid : (Statement.insert table columns values).validate = .ok ()) (hparts : columns ≠ []) :
    (Statement.insert table columns values).boundSlots ≠ [] := by
  have hlength := (insert_parts hvalid).1
  cases values with
  | nil => exact absurd (List.length_eq_zero_iff.mp hlength) hparts
  | cons value rest => exact List.cons_ne_nil _ _

/-- A statement is read back from such texts. -/
theorem read_keepsBounds (hvalid : statement.validate = .ok ()) (hparts : statement.HasParts)
    (hbound : statement.isBound = true) (h : KeepsBounds statement bound condition) :
    Sentence.read? statement.kind (trim (statement.textOf bound condition).toList)
      = some (statement.sentenceOf bound (condition.map fun f => trim f.toList)) := by
  have hcondition : readCondition condition = some (condition.map fun f => trim f.toList) :=
    readCondition_of_clause h.filter
  cases statement with
  | insert table columns values =>
    have hne := boundSlots_ne_nil hvalid hparts
    exact read_insert_text (Statement.isName_of_validate hvalid rfl) (insert_parts hvalid).2 hparts
      (h.solid hne) (h.clause hne)
  | select table columns filter =>
    have hdari := firstDari_of_notMem (Statement.validate_eq_ok_iff.mp hvalid).2.1 hparts
    have hread := read_select_text hvalid hdari h.condition_ne
    rw [hcondition] at hread
    exact hread
  | update table assignments filter =>
    have hne : (Statement.update table assignments filter).boundSlots ≠ [] := by
      have hassigned : assignments ≠ [] := hparts
      simpa [Statement.boundSlots] using hassigned
    have hread := read_update_clause (Statement.isName_of_validate hvalid rfl) (h.solid hne)
      (h.clause hne) h.condition_ne (h.word rfl) fun f hf => h.not_blank hf
    rw [hcondition] at hread
    exact hread
  | delete table filter =>
    have hread := read_delete_text (Statement.isName_of_validate hvalid rfl) h.condition_ne
    rw [hcondition] at hread
    exact hread
  | count table filter =>
    have hread := read_count_text (Statement.isName_of_validate hvalid rfl) h.condition_ne
    rw [hcondition] at hread
    exact hread
  | _ => exact absurd hbound (by simp [Statement.isBound])

end KeepsBounds

/-- The condition of a checked statement is a clause, in whatever form its values are written. -/
theorem isClause_condition {join : List Slot → String} (hvalid : statement.validate = .ok ())
    (hbound : statement.isBound = true)
    (hjoin : ∀ slots, slots ≠ [] → (∀ slot ∈ slots, IsLead slot.lead) →
      IsClause (join slots).toList) :
    ∀ f ∈ (statement.conditionSlots?.map join).toList, IsClause f.toList := by
  intro f hf
  rw [Statement.conditionSlots?] at hf
  cases hp : statement.filter? with
  | none =>
    rw [hp] at hf
    exact absurd hf List.not_mem_nil
  | some p =>
    rw [hp] at hf
    obtain rfl := List.mem_singleton.mp hf
    exact hjoin p.slots (p.slots_ne_nil (Statement.isBound_of_mem hbound hp))
      (isLead_of_condition hvalid hp)

theorem isClause_numbered {slots : List Slot} {separator : String} (n : Nat) (hne : slots ≠ [])
    (hseparator : Sheltered separator.toList) (hleads : ∀ slot ∈ slots, IsLead slot.lead) :
    IsClause (joinWith separator (Slot.numberedTexts n slots)).toList := by
  have htokens : ∀ t ∈ Slot.numberedTexts n slots, IsToken t := fun t ht =>
    isToken_of_mem_numberedTexts hleads ht
  exact isClause_joinWith (Slot.numberedTexts_ne_nil hne) hseparator
    (fun t ht => (htokens t ht).isSolid) fun t ht => (htokens t ht).sheltered

theorem isSolid_numbered {slots : List Slot} {separator : String} (n : Nat) (hne : slots ≠ [])
    (hleads : ∀ slot ∈ slots, IsLead slot.lead) :
    IsSolid (joinWith separator (Slot.numberedTexts n slots)).toList :=
  isSolid_joinWith (Slot.numberedTexts_ne_nil hne) fun _ ht =>
    (isToken_of_mem_numberedTexts hleads ht).isSolid

/-- Placeholders leave a statement its boundaries. -/
theorem keepsBounds_numbered (hvalid : statement.validate = .ok ())
    (hbound : statement.isBound = true) :
    KeepsBounds statement statement.boundTexts statement.conditionText? := by
  have hleads := isLead_of_boundSlots hvalid
  rw [statement.boundTexts_eq, Statement.conditionText?_eq hbound]
  refine ⟨fun h => isSolid_numbered 0 h hleads,
    fun h => isClause_numbered 0 h (sheltered_plain (by decide) (by decide)) hleads,
    isClause_condition hvalid hbound fun slots hne hslots =>
      isClause_numbered _ hne (sheltered_plain (by decide) (by decide)) hslots, ?_⟩
  intro hkind tail
  cases statement with
  | update table assignments filter =>
    rw [← Statement.boundTexts_eq]
    exact notBefore_dimana (isIdentifier_of_update hvalid) 0 tail
  | _ => exact absurd hkind (by simp [Statement.kind])

/-! ### Literals -/

theorem isSolid_literals {slots : List Slot} {separator : String} (hne : slots ≠ [])
    (hleads : ∀ slot ∈ slots, IsLead slot.lead) :
    IsSolid (joinWith separator (slots.map Slot.literalText)).toList := by
  refine isSolid_joinWith (by simpa using hne) ?_
  intro t ht
  obtain ⟨slot, hslot, rfl⟩ := List.mem_map.mp ht
  exact (hleads slot hslot).isSolid

theorem isClause_literals {slots : List Slot} {separator : String} (hne : slots ≠ [])
    (hseparator : Sheltered separator.toList) (hleads : ∀ slot ∈ slots, IsLead slot.lead) :
    IsClause (joinWith separator (slots.map Slot.literalText)).toList := by
  refine Sheltered.isClause (sheltered_joinWith hseparator ?_) (isSolid_literals hne hleads)
  intro t ht
  obtain ⟨slot, hslot, rfl⟩ := List.mem_map.mp ht
  exact (hleads slot hslot).sheltered

section Assignments

variable {table : String} {assignments : List Assignment} {filter : Option Predicate}

theorem mem_literalTexts {t : String}
    (h : t ∈ (Statement.update table assignments filter).literalTexts) :
    ∃ a ∈ assignments, t = a.slot.literalText := by
  obtain ⟨slot, hslot, rfl⟩ := List.mem_map.mp h
  obtain ⟨a, ha, rfl⟩ := List.mem_map.mp hslot
  exact ⟨a, ha, rfl⟩

theorem notBefore_lead {column : String} (h : isIdentifier column = true) (r : List Char) :
    NotBefore " DIMANA ".toList (column ++ "=").toList r := by
  rw [dimana_eq_cons]
  exact notBefore_of_notMem ((isLead_column h).notMem (by decide) (by decide))

theorem notBefore_assigned {a : Assignment} (hcolumn : isIdentifier a.column = true)
    (h : ¬ HoldsDimana a.value) (r : List Char) :
    NotBefore " DIMANA ".toList a.slot.literalText.toList r := by
  rw [Slot.literalText, String.toList_append]
  exact (notBefore_lead hcolumn _).append (notBefore_literal h r)

/-- An assigned text with the word of a condition in it is cut inside of its quotes. -/
theorem cutInside_assigned {a : Assignment} (hcolumn : isIdentifier a.column = true)
    (h : HoldsDimana a.value) : CutInside " DIMANA ".toList a.slot.literalText.toList := by
  rw [Slot.literalText, String.toList_append]
  refine (cutInside_literal h).append_left (fun r => notBefore_lead hcolumn _) ?_
  exact (sheltered_plain ((isLead_column hcolumn).notMem (by decide) (by decide))
    ((isLead_column hcolumn).notMem (by decide) (by decide))).even_quotes

/-- A literal with the word cuts the set clause of its update. -/
theorem cutInside_literalTexts
    (hvalid : (Statement.update table assignments filter).validate = .ok ())
    (h : (Statement.update table assignments filter).SplitsSet) :
    CutInside " DIMANA ".toList
      (joinWith ", " (Statement.update table assignments filter).literalTexts).toList := by
  have hcolumns := isIdentifier_of_update hvalid
  refine cutInside_assignments ?_ ?_ ?_ ?_
  · intro t ht
    obtain ⟨a, ha, rfl⟩ := mem_literalTexts ht
    exact beginsAssignment_append (hcolumns a ha) a.value.literal
  · intro t ht
    obtain ⟨a, ha, rfl⟩ := mem_literalTexts ht
    exact IsLead.sheltered (isLead_column (hcolumns a ha))
  · intro t ht
    obtain ⟨a, ha, rfl⟩ := mem_literalTexts ht
    by_cases hholds : HoldsDimana a.value
    · exact .inl (cutInside_assigned (hcolumns a ha) hholds)
    · exact .inr (notBefore_assigned (hcolumns a ha) hholds)
  · obtain ⟨a, ha, hholds⟩ := h
    exact ⟨a.slot.literalText, List.mem_map_of_mem (List.mem_map_of_mem ha),
      cutInside_assigned (hcolumns a ha) hholds⟩

end Assignments

/-- Literals do so as well, unless one of them splits the set clause. -/
theorem keepsBounds_literals (hvalid : statement.validate = .ok ())
    (hbound : statement.isBound = true) (hsplit : ¬ statement.SplitsSet) :
    KeepsBounds statement statement.literalTexts statement.literalCondition? := by
  have hleads := isLead_of_boundSlots hvalid
  refine ⟨fun h => isSolid_literals h hleads,
    fun h => isClause_literals h (sheltered_plain (by decide) (by decide)) hleads,
    isClause_condition hvalid hbound fun slots hne hslots =>
      isClause_literals hne (sheltered_plain (by decide) (by decide)) hslots, ?_⟩
  intro hkind tail
  cases statement with
  | update table assignments filter =>
    have hcolumns := isIdentifier_of_update hvalid
    refine notBefore_joined separates_comma ?_ ?_ tail
    · intro t ht
      obtain ⟨a, ha, rfl⟩ := mem_literalTexts ht
      exact beginsAssignment_append (hcolumns a ha) a.value.literal
    · intro t ht r
      obtain ⟨a, ha, rfl⟩ := mem_literalTexts ht
      exact notBefore_assigned (hcolumns a ha) (fun hholds => hsplit ⟨a, ha, hholds⟩) r
  | _ => exact absurd hkind (by simp [Statement.kind])

/-! ### Filling the SQL -/

/-- The SQL of a statement around the texts of its values. -/
structure SqlParts (statement : Statement) (head close : List Char) : Prop where
  head_plain : '$' ∉ head
  close_plain : '$' ∉ close
  close_stops : Stops Char.isDigit close
  eq : ∀ bound condition, (statement.boundSlots = [] → bound = []) →
    (statement.conditionSlots? = none → condition = none) →
    (statement.sqlOf bound condition).toList
      = head ++ ((joinWith ", " bound).toList ++ (close ++ (Statement.whereText condition).toList))

theorem notMem_names {columns : List String} (h : ∀ t ∈ columns, isIdentifier t = true) :
    '$' ∉ (joinWith ", " columns).toList := by
  intro hmem
  rcases mem_joinWith hmem with ⟨t, ht, hc⟩ | hseparator
  · exact (isIdentifier_iff.mp (h t ht)).notMem (by decide) hc
  · exact absurd hseparator (by decide)

/-- The SQL of a statement is the same around the texts of its values, whatever they are. -/
theorem exists_sqlParts (hvalid : statement.validate = .ok ()) (hbound : statement.isBound = true) :
    ∃ head close, SqlParts statement head close := by
  have htable : ∀ {table}, statement.table? = some table → '$' ∉ table.toList := fun h =>
    (Statement.isName_of_validate hvalid h).notMem (by decide)
  -- Placeholders are filled behind dollar signs, of which SQL has none of its own.
  have hwords : '$' ∉ "INSERT INTO ".toList ∧ '$' ∉ " (".toList ∧ '$' ∉ ") VALUES (".toList ∧
      '$' ∉ "SELECT ".toList ∧ '$' ∉ " FROM ".toList ∧ '$' ∉ "UPDATE ".toList ∧
      '$' ∉ " SET ".toList ∧ '$' ∉ "DELETE FROM ".toList ∧ '$' ∉ "SELECT COUNT(*) FROM ".toList := by
    decide
  obtain ⟨hinsert, hopen, hvalues, hselect, hfrom, hupdate, hset, hdelete, hcount⟩ := hwords
  cases statement with
  | insert table columns values =>
    have hname := htable rfl
    have hcolumns := notMem_names (Statement.validate_eq_ok_iff.mp hvalid).2.2
    refine ⟨("INSERT INTO " ++ table ++ " (" ++ joinWith ", " columns ++ ") VALUES (").toList,
      ")".toList, ?_, by decide, by decide, ?_⟩
    · simp only [String.toList_append, List.mem_append, not_or]
      exact ⟨⟨⟨⟨hinsert, hname⟩, hopen⟩, hcolumns⟩, hvalues⟩
    · intro bound condition _ hcondition
      have hempty : (Statement.whereText none).toList = [] := rfl
      rw [hcondition rfl, hempty, List.append_nil]
      show ("INSERT INTO " ++ table ++ " (" ++ joinWith ", " columns ++ ") VALUES ("
        ++ joinWith ", " bound ++ ")").toList = _
      simp only [String.toList_append, List.append_assoc]
  | select table columns filter =>
    have hname := htable rfl
    have hcolumns : '$' ∉ (trimText columns).toList := by
      rw [toList_trimText, mem_trim_of_not_blank (by decide)]
      exact notMem_columns (Statement.validate_eq_ok_iff.mp hvalid).2.1 (by decide) (by decide)
        (by decide) (by decide)
    refine ⟨("SELECT " ++ trimText columns ++ " FROM " ++ table).toList, [], ?_, by simp,
      stops_nil, ?_⟩
    · simp only [String.toList_append, List.mem_append, not_or]
      exact ⟨⟨⟨hselect, hcolumns⟩, hfrom⟩, hname⟩
    · intro bound condition hnone _
      rw [hnone rfl]
      show ("SELECT " ++ trimText columns ++ " FROM " ++ table ++ Statement.whereText condition).toList = _
      rw [String.toList_append]
      rfl
  | update table assignments filter =>
    have hname := htable rfl
    refine ⟨("UPDATE " ++ table ++ " SET ").toList, [], ?_, by simp, stops_nil, ?_⟩
    · simp only [String.toList_append, List.mem_append, not_or]
      exact ⟨⟨hupdate, hname⟩, hset⟩
    · intro bound condition _ _
      show ("UPDATE " ++ table ++ " SET " ++ joinWith ", " bound
        ++ Statement.whereText condition).toList = _
      rw [String.toList_append, String.toList_append, List.append_assoc]
      rfl
  | delete table filter =>
    have hname := htable rfl
    refine ⟨("DELETE FROM " ++ table).toList, [], ?_, by simp, stops_nil, ?_⟩
    · simp only [String.toList_append, List.mem_append, not_or]
      exact ⟨hdelete, hname⟩
    · intro bound condition hnone _
      rw [hnone rfl]
      show ("DELETE FROM " ++ table ++ Statement.whereText condition).toList = _
      rw [String.toList_append]
      rfl
  | count table filter =>
    have hname := htable rfl
    refine ⟨("SELECT COUNT(*) FROM " ++ table).toList, [], ?_, by simp, stops_nil, ?_⟩
    · simp only [String.toList_append, List.mem_append, not_or]
      exact ⟨hcount, hname⟩
    · intro bound condition hnone _
      rw [hnone rfl]
      show ("SELECT COUNT(*) FROM " ++ table ++ Statement.whereText condition).toList = _
      rw [String.toList_append]
      rfl
  | _ => exact absurd hbound (by simp [Statement.isBound])

theorem toList_whereText {f : String} (h : IsSolid f.toList) :
    (Statement.whereText (some f)).toList = " WHERE ".toList ++ f.toList := by
  rw [Statement.whereText, String.toList_append, toList_trimText, h.trim_eq]

theorem stops_whereText (condition : Option String) :
    Stops Char.isDigit (Statement.whereText condition).toList := by
  cases condition with
  | none => exact stops_nil
  | some f =>
    rw [Statement.whereText, String.toList_append]
    exact stops_append (by decide) (by decide)

/-- The condition of a checked statement is filled like the values in front of it. -/
theorem fill_whereText (hvalid : statement.validate = .ok ()) (hbound : statement.isBound = true) :
    fillPlaceholders statement.params (Statement.whereText statement.conditionText?).toList
      = (Statement.whereText statement.literalCondition?).toList := by
  rw [Statement.conditionText?_eq hbound, Statement.literalCondition?]
  cases hp : statement.filter? with
  | none =>
    rw [Statement.conditionSlots?, hp]
    exact fill_of_notMem List.not_mem_nil
  | some p =>
    have hslots : statement.conditionSlots? = some p.slots := by
      rw [Statement.conditionSlots?, hp]
      rfl
    have hleads := isLead_of_condition hvalid hp
    have hne := p.slots_ne_nil (Statement.isBound_of_mem hbound hp)
    have hparams : statement.params
        = statement.boundSlots.map Slot.value ++ (p.slots.map Slot.value ++ []) := by
      rw [statement.params_eq, hslots, List.append_nil]
      rfl
    have hfill := Slot.fill_slots hparams (List.length_map Slot.value)
      (show '$' ∉ " AND ".toList by decide) (by decide) (by decide)
      (fun slot hslot => (hleads slot hslot).notMem (by decide) (by decide)) stops_nil
    rw [fill_of_notMem List.not_mem_nil, List.append_nil, List.append_nil] at hfill
    rw [hslots]
    show fillPlaceholders _ (Statement.whereText (some _)).toList
      = (Statement.whereText (some _)).toList
    rw [toList_whereText (isSolid_numbered _ hne hleads), toList_whereText (isSolid_literals hne hleads),
      fill_notMem (by decide), hfill]

/-- The SQL with placeholders, filled, is the SQL with literals. -/
theorem fill_sqlOf (hvalid : statement.validate = .ok ()) (hbound : statement.isBound = true) :
    fillPlaceholders statement.params
        (statement.sqlOf statement.boundTexts statement.conditionText?).toList
      = (statement.sqlOf statement.literalTexts statement.literalCondition?).toList := by
  obtain ⟨head, close, hparts⟩ := exists_sqlParts hvalid hbound
  have hleads := isLead_of_boundSlots hvalid
  have hnumbered : statement.boundSlots = [] → statement.boundTexts = [] := by
    intro h
    rw [statement.boundTexts_eq, h]
    rfl
  have hliterals : statement.boundSlots = [] → statement.literalTexts = [] := by
    intro h
    rw [Statement.literalTexts, h]
    rfl
  have hcondition : statement.conditionSlots? = none → statement.conditionText? = none := by
    intro h
    rw [Statement.conditionText?_eq hbound, h]
    rfl
  have hliteral : statement.conditionSlots? = none → statement.literalCondition? = none := by
    intro h
    rw [Statement.literalCondition?, h]
    rfl
  -- The last placeholder in front of the condition ends where `close` begins, or where the
  -- condition does.
  have hstops : Stops Char.isDigit
      (close ++ (Statement.whereText statement.conditionText?).toList) := by
    cases close with
    | nil => exact stops_whereText _
    | cons c close => exact stops_append hparts.close_stops (List.cons_ne_nil c close)
  have hparams : statement.params = [] ++ (statement.boundSlots.map Slot.value
      ++ (statement.conditionSlots?.getD []).map Slot.value) := statement.params_eq
  have hzero : ([] : List Value).length = 0 := rfl
  have hfill := Slot.fill_slots hparams hzero (show '$' ∉ ", ".toList by decide) (by decide)
    (by decide) (fun slot hslot => (hleads slot hslot).notMem (by decide) (by decide)) hstops
  rw [hparts.eq _ _ hnumbered hcondition, hparts.eq _ _ hliterals hliteral,
    fill_notMem hparts.head_plain, statement.boundTexts_eq, hfill, fill_notMem hparts.close_plain,
    fill_whereText hvalid hbound]
  rfl

/-! ### Translating the text with literals -/

/-- The part of a set clause in front of the word has a literal that is not closed, so it is no
clause. -/
theorem read_splitsSet {table : String} {assignments : List Assignment} {filter : Option Predicate}
    (hvalid : (Statement.update table assignments filter).validate = .ok ())
    (hbound : (Statement.update table assignments filter).isBound = true)
    (hsplit : (Statement.update table assignments filter).SplitsSet) :
    Sentence.read? .update (trim ((Statement.update table assignments filter).textOf
        (Statement.update table assignments filter).literalTexts
        (Statement.update table assignments filter).literalCondition?).toList) = none := by
  obtain ⟨before, rest, hset, hword, hfirst, hodd⟩ := cutInside_literalTexts hvalid hsplit
  have hne : (Statement.update table assignments filter).boundSlots ≠ [] := by
    obtain ⟨a, ha, -⟩ := hsplit
    exact List.ne_nil_of_mem (List.mem_map_of_mem ha)
  have hcondition : (Statement.update table assignments filter).literalCondition? ≠ some "" := by
    intro hempty
    have hclause : IsClause "".toList := isClause_condition hvalid hbound
      (fun slots hslots hleads =>
        isClause_literals hslots (sheltered_plain (by decide) (by decide)) hleads)
      "" (Option.mem_toList.mpr hempty)
    exact hclause.ne_nil rfl
  have hread := read_update_text (Statement.isName_of_validate hvalid rfl)
    (isSolid_literals hne (isLead_of_boundSlots hvalid)) hcondition
    ((congrArg (· ++ _) hset).trans (List.append_assoc before rest _))
    (.condition (hword _) (hfirst _))
  rw [clause?_eq_none_iff.mpr (not_isClause_of_odd hodd)] at hread
  exact hread

/-- The text of a statement with literals and its template say the same. The text is translated into
the SQL of the template with the literals in the places of the parameters, or it is malformed; and it
is malformed exactly when an update assigns a text with the word ` DIMANA ` in it. -/
theorem toSql_text (statement : Statement) (hbound : statement.isBound = true)
    (hvalid : statement.validate = .ok ()) (hparts : statement.HasParts) :
    ∃ q, prepare .strict statement = .ok q ∧
      (¬ statement.SplitsSet → toSql .strict statement.text = .ok q.filled) ∧
      (statement.SplitsSet → toSql .strict statement.text
        = .error (.malformedStatement statement.kind (trimText statement.text))) := by
  have hnumbered := read_keepsBounds hvalid hparts hbound (keepsBounds_numbered hvalid hbound)
  rw [← statement.numberedText_eq] at hnumbered
  refine ⟨_, prepare_of_read hvalid hnumbered (statement.sql_sentenceOf _ _), ?_, ?_⟩
  · intro hsplit
    have hread := read_keepsBounds hvalid hparts hbound (keepsBounds_literals hvalid hbound hsplit)
    rw [Statement.text_eq hbound]
    refine toSql_of_read hvalid hread ?_
    rw [statement.sql_sentenceOf, BoundQuery.filled, String.toList_ofList]
    exact (fill_sqlOf hvalid hbound).symm
  · intro hsplit
    cases statement with
    | update table assignments filter =>
      rw [Statement.text_eq hbound]
      exact toSql_of_unread hvalid (read_splitsSet hvalid hbound hsplit)
    | _ => exact absurd hsplit id

/-- Two updates that assign a quote, a semicolon and the name of a parameter; the second one assigns
the word as well. -/
theorem toSql_text_updates :
    let note := "it's; $2 -- DIMANA"
    let first : Statement :=
      .update "trees" [⟨"note", .text note⟩, ⟨"age", .integer 7⟩] (some (.eq "code" (.text "'")))
    let second : Statement := .update "trees" [⟨"note", .text (note ++ " 1")⟩] none
    toSql .strict first.text
        = .ok "UPDATE trees SET note='it''s; $2 -- DIMANA', age=7 WHERE code=''''" ∧
      toSql .strict second.text
        = .error (.malformedStatement .update
            "PUPUK trees DENGAN note='it''s; $2 -- DIMANA 1'") := by
  intro note first second
  constructor
  · obtain ⟨q, hq, htext, -⟩ := toSql_text first (by decide) (by decide) (by decide)
    have hquery : prepare .strict first
        = .ok ⟨"UPDATE trees SET note=$1, age=$2 WHERE code=$3",
            [.text note, .integer 7, .text "'"]⟩ := by decide +kernel
    rw [hquery] at hq
    rw [htext (by decide +kernel), ← Except.ok.inj hq]
    decide +kernel
  · obtain ⟨q, -, -, htext⟩ := toSql_text second (by decide) (by decide) (by decide)
    rw [htext (by decide +kernel)]
    decide +kernel

end AqlGateway.Aql
