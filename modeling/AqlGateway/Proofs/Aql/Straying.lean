import AqlGateway.Proofs.Aql.DariColumns

/-!
# Statements that stray

A statement is written as text and read again, and a few statements are then read as others.

* `Statement.strayedSql?` — these statements, with the SQL that comes out for them;
* `Faithful` — a statement is prepared as its reference query, or refused as malformed;
* `prepare_update_strayed`, `prepare_select_strayed` — an update without assignments, and a select
  whose columns end in the word behind them;
* `faithful_iff` — all statements whose conditions are conjunctions of equalities, but these, are
  faithful.
-/

namespace AqlGateway.Aql

open Text

namespace Statement

/-- The SQL of the statements that are read as others. An update without assignments has the keyword
of its condition in its set clause; a select from a table `DIMANA`, whose last column is `DARI`, is
read as a select from `DARI`. -/
def strayedSql? : Statement → Option String
  | update table [] (some p) => some ("UPDATE " ++ table ++ " SET DIMANA " ++ p.numberedText 0)
  | select table columns (some p) =>
    if table = "DIMANA" then
      (frontOfDari? columns).map fun front =>
        "SELECT " ++ String.ofList front ++ " FROM DARI WHERE DIMANA " ++ p.numberedText 0
    else none
  | _ => none

def HasAssignments : Statement → Prop
  | update _ assignments _ => assignments ≠ []
  | _ => True

end Statement

/-- A statement is prepared as its reference query, or refused as malformed. -/
def Faithful (statement : Statement) : Prop :=
  (statement.HasAssignments ∧
      prepare .strict statement = .ok ⟨statement.referenceSql, statement.params⟩) ∨
    prepare .strict statement
      = .error (.malformedStatement statement.kind (trimText statement.template.1))

variable {statement : Statement} {table columns : String} {p : Predicate}
  {filter : Option Predicate}

/-- A statement that follows its reference is faithful, whatever its free texts are. -/
theorem faithful_of_followsReference (hassigned : statement.HasAssignments)
    (h : FollowsReference statement) : Faithful statement := by
  by_cases hfree : ∀ x ∈ statement.freeTexts, IsClause x.toList
  · exact .inl ⟨hassigned, h.accepted hfree⟩
  · exact .inr (h.refused hfree)

/-- A statement that is refused is faithful. -/
theorem faithful_of_unread (hvalid : statement.validate = .ok ())
    (hread : Sentence.read? statement.kind (trim statement.numberedText.toList) = none) :
    Faithful statement :=
  .inr (prepare_of_unread hvalid hread)

/-! ### Conjunctions of equalities -/

/-- A condition whose values have placeholders, behind columns that are identifiers. -/
structure Predicate.Checked (p : Predicate) : Prop where
  bound : p.isBound = true
  columns : ∀ column ∈ p.columns, isIdentifier column = true

theorem Predicate.Checked.mem_leafTexts (h : p.Checked) {n : Nat} {t : String}
    (ht : t ∈ p.leafTexts n) :
    ∃ column m, isIdentifier column = true ∧ t = column ++ "=" ++ placeholder m := by
  induction p generalizing n with
  | eq column value =>
    exact ⟨column, n + 1, h.columns column (List.mem_singleton_self column), List.mem_singleton.mp ht⟩
  | and left right ihl ihr =>
    obtain ⟨hl, hr⟩ := Bool.and_eq_true_iff.mp h.bound
    rcases List.mem_append.mp ht with ht | ht
    · exact ihl ⟨hl, fun c hc => h.columns c (List.mem_append_left _ hc)⟩ ht
    · exact ihr ⟨hr, fun c hc => h.columns c (List.mem_append_right _ hc)⟩ ht
  | raw text => exact absurd h.bound (by simp [isBound])

namespace Predicate.Checked

theorem isToken (h : p.Checked) {n : Nat} : ∀ t ∈ p.leafTexts n, IsToken t := by
  intro t ht
  obtain ⟨column, m, hcolumn, rfl⟩ := h.mem_leafTexts ht
  exact isToken_assignment hcolumn m

theorem begins (h : p.Checked) {n : Nat} : ∀ t ∈ p.leafTexts n, BeginsAssignment t := by
  intro t ht
  obtain ⟨column, m, hcolumn, rfl⟩ := h.mem_leafTexts ht
  exact beginsAssignment_append hcolumn (placeholder m)

theorem isSolid (h : p.Checked) (n : Nat) : IsSolid (p.numberedText n).toList :=
  isSolid_joinWith (p.leafTexts_ne_nil n) fun t ht => (h.isToken t ht).isSolid

theorem sheltered (h : p.Checked) (n : Nat) : Sheltered (p.numberedText n).toList :=
  sheltered_joinWith (sheltered_plain (by decide) (by decide)) fun t ht => (h.isToken t ht).sheltered

/-- The word of a condition does not occur in it, even behind the keyword without its first space. -/
theorem notBefore_keyword (h : p.Checked) (n : Nat) :
    NotBefore " DIMANA ".toList ("DIMANA ".toList ++ (p.numberedText n).toList) [] := by
  have htext : NotBefore " DIMANA ".toList (p.numberedText n).toList [] :=
    notBefore_joined separates_and h.begins (fun t ht r => by
      rw [dimana_eq_cons]
      exact notBefore_of_notMem ((h.isToken t ht).notMem (by decide))) []
  have hfirst : ¬ "DIMANA ".toList <+: (p.numberedText n).toList ++ [] := by
    obtain ⟨t, rest, hleaves⟩ := List.exists_cons_of_ne_nil (p.leafTexts_ne_nil n)
    rw [numberedText, hleaves]
    exact not_dimana_joined " AND " (h.begins (n := n) t (by simp [hleaves])) rest []
  have hkeyword : "DIMANA ".toList = "DIMANA".toList ++ [' '] := by decide
  refine NotBefore.append ?_ htext
  rw [hkeyword, dimana_eq_cons]
  exact (notBefore_of_notMem (by decide)).append
    (notBefore_cons.mpr ⟨fun hspace => hfirst (List.cons_prefix_cons.mp hspace).2, notBefore_nil⟩)

end Predicate.Checked

/-- The condition of a checked statement. -/
theorem checked_of_validate (hvalid : statement.validate = .ok ())
    (hbound : ∀ p, statement.filter? = some p → p.isBound = true)
    (hp : statement.filter? = some p) : p.Checked := by
  refine ⟨hbound p hp, fun column hcolumn => ?_⟩
  refine (Statement.validate_eq_ok_iff.mp hvalid).2.2 column ?_
  cases statement with
  | update table assignments filter =>
    obtain rfl : filter = some p := hp
    exact List.mem_append_right _ hcolumn
  | select table columns filter =>
    obtain rfl : filter = some p := hp
    exact hcolumn
  | delete table filter =>
    obtain rfl : filter = some p := hp
    exact hcolumn
  | count table filter =>
    obtain rfl : filter = some p := hp
    exact hcolumn
  | _ => exact absurd hp (by simp [Statement.filter?])

/-- The condition of a checked statement is not blank. -/
theorem isSolid_conditionText (hvalid : statement.validate = .ok ())
    (hbound : ∀ p, statement.filter? = some p → p.isBound = true) {f : String}
    (hf : statement.conditionText? = some f) : IsSolid f.toList := by
  obtain ⟨p, hp, rfl⟩ := Option.map_eq_some_iff.mp hf
  exact (checked_of_validate hvalid hbound hp).isSolid statement.boundValues.length

theorem conditionText?_ne (hvalid : statement.validate = .ok ())
    (hbound : ∀ p, statement.filter? = some p → p.isBound = true) :
    statement.conditionText? ≠ some "" := fun hf =>
  (isSolid_conditionText hvalid hbound hf).ne_nil rfl

/-! ### Updates without assignments -/

/-- The keyword of a condition without a set clause in front of it is taken for the set clause. -/
theorem prepare_update_strayed (hvalid : (Statement.update table [] (some p)).validate = .ok ())
    (hp : p.Checked) :
    prepare .strict (.update table [] (some p))
      = .ok ⟨"UPDATE " ++ table ++ " SET DIMANA " ++ p.numberedText 0, p.values⟩ := by
  have hname : IsName table.toList := Statement.isName_of_validate hvalid rfl
  have hsolid := hp.isSolid 0
  have hne : p.numberedText 0 ≠ "" := fun hempty => hsolid.ne_nil (by rw [hempty]; rfl)
  have htext : (Template.update table "" (some (p.numberedText 0))).toList
      = "PUPUK ".toList ++ ((table.toList ++ " DENGAN  DIMANA ".toList)
          ++ (p.numberedText 0).toList) := by
    rw [Template.update, Template.withFilter, if_neg hne]
    simp only [String.toList_append, List.append_assoc]
    rfl
  have hlead : "PUPUK ".toList = "PUPUK".toList ++ [' '] := by decide
  have hword : " DENGAN  DIMANA ".toList
      = [' '] ++ ("DENGAN".toList ++ ([' ', ' '] ++ "DIMANA ".toList)) := by decide
  -- Nothing stands between the two spaces, so both belong to the gap and the set clause begins
  -- with the keyword of the condition.
  have hgap : GapBefore [' ', ' '] (("DIMANA ".toList ++ (p.numberedText 0).toList) ++ []) := by
    have hstop : Stops isGap "DIMANA ".toList := by decide
    rw [List.append_nil]
    exact ⟨List.all_eq_true.mp rfl, stops_append hstop (by decide)⟩
  have hend : SetEnd ("DIMANA ".toList ++ (p.numberedText 0).toList) [] :=
    .textEnd (not_infix_of_notBefore (by decide) (hp.notBefore_keyword 0))
  have hread : Sentence.read? .update
      (trim (Template.update table "" (some (p.numberedText 0))).toList)
        = some (.update table.toList ("DIMANA ".toList ++ (p.numberedText 0).toList) none) := by
    have hupdate := read_update hname (List.cons_ne_nil _ _) hgap hend
    rw [clause?_keyword hsolid (hp.sheltered 0)] at hupdate
    rw [htext, trim_between (by decide) (by decide) hsolid.ne_nil hsolid.last, hlead, hword]
    simp only [List.append_assoc, List.append_nil] at hupdate ⊢
    exact hupdate
  refine prepare_of_read hvalid hread ?_
  show "UPDATE ".toList ++ table.toList ++ " SET ".toList
      ++ ("DIMANA ".toList ++ (p.numberedText 0).toList) ++ [] = _
  simp only [String.toList_append, List.append_assoc, List.append_nil]
  rfl

/-- Without a condition, nothing is left of the set clause. -/
theorem read_update_bare (hname : IsName table.toList) :
    Sentence.read? .update (trim (Template.update table "" none).toList) = none := by
  have htext : (Template.update table "" none).toList
      = ("PUPUK ".toList ++ ((table.toList ++ [' ']) ++ "DENGAN".toList)) ++ [' '] := by
    rw [Template.update, Template.withFilter]
    simp only [String.toList_append, List.append_assoc]
    rfl
  have hlead : "PUPUK ".toList = "PUPUK".toList ++ [' '] := by decide
  have hread : identifier? (table.toList ++ ([' '] ++ "DENGAN".toList))
      = some (table.toList, [' '] ++ "DENGAN".toList) :=
    identifier?_append hname (stops_cons.mpr (by decide))
  rw [htext, trim_append_blanks isBlank_of_mem_space,
    trim_between (by decide) (by decide) (by decide) (by decide), hlead]
  simp only [List.append_assoc]
  simp only [Sentence.read?, readUpdate?, expect?_append, gap?_space_name hname, hread,
    Option.bind_eq_bind, Option.bind_some]
  rfl

/-! ### Inserts without columns -/

theorem read_insert_bare (hname : IsName table.toList) :
    Sentence.read? .insert (trim (Template.insert table [] []).toList) = none := by
  have htext : (Template.insert table [] []).toList
      = "TANAM KE ".toList ++ (table.toList ++ " () BIBIT ()".toList) := by
    rw [Template.insert]
    simp only [String.toList_append, List.append_assoc]
    rfl
  have hlead : "TANAM KE ".toList = "TANAM KE".toList ++ [' '] := by decide
  have hread : identifier? (table.toList ++ " () BIBIT ()".toList)
      = some (table.toList, " () BIBIT ()".toList) :=
    identifier?_append hname (by decide)
  rw [htext, trim_between (by decide) (by decide) (by decide) (by decide), hlead, List.append_assoc]
  simp only [Sentence.read?, readInsert?, expect?_append, gap?_space_name hname,
    Option.bind_eq_bind, Option.bind_some]
  rw [hread]
  rfl

/-! ### Selects from the columns -/

/-- A select from a table `DIMANA` whose last column is `DARI` is read as a select from that column,
with the name of the table in its condition. -/
theorem prepare_select_strayed {front : List Char}
    (hvalid : (Statement.select "DIMANA" columns (some p)).validate = .ok ())
    (hfront : frontOfDari? columns = some front) (hp : p.Checked) :
    prepare .strict (.select "DIMANA" columns (some p))
      = .ok ⟨"SELECT " ++ String.ofList front ++ " FROM DARI WHERE DIMANA " ++ p.numberedText 0,
          p.values⟩ := by
  refine prepare_of_read hvalid
    (read_select_strayed hvalid hfront (hp.isSolid 0) (hp.sheltered 0)) ?_
  show "SELECT ".toList ++ front ++ " FROM ".toList ++ "DARI".toList
      ++ (" WHERE ".toList ++ ("DIMANA ".toList ++ (p.numberedText 0).toList)) = _
  simp only [String.toList_append, String.toList_ofList, List.append_assoc]
  rfl

/-! ### All statements -/

/-- In the reference of a select, its condition stands right behind the word WHERE. -/
theorem strayed_ne_reference {front : List Char} (hp : p.Checked) :
    "SELECT " ++ String.ofList front ++ " FROM DARI WHERE DIMANA " ++ p.numberedText 0
      ≠ (Statement.select "DIMANA" columns (some p)).referenceSql := by
  intro hsame
  have hstrayed : " FROM DARI WHERE DIMANA ".toList
      = " FROM DARI WHERE DIMAN".toList ++ ['A', ' '] := by decide
  have hreference : " FROM ".toList ++ ("DIMANA".toList ++ " WHERE ".toList)
      = " FROM DIMANA WHER".toList ++ ['E', ' '] := by decide
  have hchars : "SELECT ".toList ++ (front ++ (" FROM DARI WHERE DIMANA ".toList
        ++ (p.numberedText 0).toList))
      = "SELECT ".toList ++ (trim columns.toList ++ ((" FROM ".toList ++ ("DIMANA".toList
        ++ " WHERE ".toList)) ++ trim (p.numberedText 0).toList)) := by
    have htexts : ("SELECT " ++ String.ofList front ++ " FROM DARI WHERE DIMANA "
          ++ p.numberedText 0).toList
        = ("SELECT " ++ trimText columns ++ " FROM " ++ "DIMANA"
          ++ (" WHERE " ++ trimText (p.numberedText 0))).toList := congrArg String.toList hsame
    simpa only [String.toList_append, String.toList_ofList, toList_trimText, List.append_assoc]
      using htexts
  rw [(hp.isSolid 0).trim_eq, hstrayed, hreference] at hchars
  simp only [← List.append_assoc] at hchars
  exact absurd (List.append_inj' (List.append_cancel_right hchars) rfl).2 (by decide)

/-- A statement that is prepared as something else than its reference is not faithful. -/
theorem not_faithful_of_prepare {q : BoundQuery} (hprepare : prepare .strict statement = .ok q)
    (h : statement.HasAssignments → q.sql ≠ statement.referenceSql) : ¬ Faithful statement := by
  rintro (⟨hassigned, hreference⟩ | hrefused)
  · rw [hprepare] at hreference
    exact h hassigned (congrArg BoundQuery.sql (Except.ok.inj hreference))
  · rw [hprepare] at hrefused
    exact absurd hrefused (by simp)

/-- A statement that strays is prepared with the SQL that it strays to. -/
theorem prepare_of_strayed (hvalid : statement.validate = .ok ())
    (hbound : ∀ p, statement.filter? = some p → p.isBound = true) {sql : String}
    (h : statement.strayedSql? = some sql) :
    prepare .strict statement = .ok ⟨sql, statement.params⟩ ∧ ¬ Faithful statement := by
  cases statement with
  | update table assignments filter =>
    cases assignments with
    | cons a rest => exact absurd h (by simp [Statement.strayedSql?])
    | nil =>
      cases filter with
      | none => exact absurd h (by simp [Statement.strayedSql?])
      | some p =>
        have hprepare := prepare_update_strayed hvalid (checked_of_validate hvalid hbound rfl)
        rw [← Option.some.inj h]
        exact ⟨hprepare, not_faithful_of_prepare hprepare fun hassigned => absurd rfl hassigned⟩
  | select table columns filter =>
    cases filter with
    | none => exact absurd h (by simp [Statement.strayedSql?])
    | some p =>
      have hp := checked_of_validate hvalid hbound rfl
      by_cases htable : table = "DIMANA"
      · subst htable
        obtain ⟨front, hfront, rfl⟩ := Option.map_eq_some_iff.mp h
        have hprepare := prepare_select_strayed hvalid hfront hp
        exact ⟨hprepare, not_faithful_of_prepare hprepare fun _ => strayed_ne_reference hp⟩
      · exact absurd h (by simp [Statement.strayedSql?, htable])
  | _ => exact absurd h (by simp [Statement.strayedSql?])

/-- A select that does not stray is faithful. -/
theorem faithful_select (hvalid : (Statement.select table columns filter).validate = .ok ())
    (hbound : ∀ p, filter = some p → p.isBound = true)
    (h : (Statement.select table columns filter).strayedSql? = none) :
    Faithful (.select table columns filter) := by
  have hcondition : (Statement.select table columns filter).conditionText? ≠ some "" :=
    conditionText?_ne hvalid hbound
  by_cases hdari : FirstDari columns
  · exact faithful_of_followsReference trivial
      (followsReference_of_condition hvalid rfl (read_select_text hvalid hdari hcondition))
  · refine faithful_of_unread hvalid (read_select_refused hvalid hdari hcondition ?_)
    cases filter with
    | none => exact .inr (.inr rfl)
    | some p =>
      by_cases htable : table = "DIMANA"
      · left
        simpa [Statement.strayedSql?, htable] using h
      · exact .inr (.inl htable)

/-- An update that does not stray is faithful. -/
theorem faithful_update {assignments : List Assignment}
    (hvalid : (Statement.update table assignments filter).validate = .ok ())
    (hbound : ∀ p, filter = some p → p.isBound = true)
    (h : (Statement.update table assignments filter).strayedSql? = none) :
    Faithful (.update table assignments filter) := by
  have hcondition : (Statement.update table assignments filter).conditionText? ≠ some "" :=
    conditionText?_ne hvalid hbound
  cases assignments with
  | nil =>
    cases filter with
    | none =>
      exact faithful_of_unread hvalid (read_update_bare (Statement.isName_of_validate hvalid rfl))
    | some p => exact absurd h (by simp [Statement.strayedSql?])
  | cons a rest =>
    refine faithful_of_followsReference (List.cons_ne_nil a rest)
      (followsReference_update hvalid (List.cons_ne_nil a rest) hcondition ?_)
    rintro ⟨-, f, hf, hblank⟩
    have hsolid := isSolid_conditionText hvalid hbound hf
    exact hsolid.ne_nil (hsolid.trim_eq.symm.trans hblank)

theorem faithful_insert {columns : List String} {values : List Value}
    (hvalid : (Statement.insert table columns values).validate = .ok ()) :
    Faithful (.insert table columns values) := by
  cases columns with
  | nil =>
    obtain rfl : values = [] := List.length_eq_zero_iff.mp (insert_parts hvalid).1.symm
    exact faithful_of_unread hvalid (read_insert_bare (Statement.isName_of_validate hvalid rfl))
  | cons column rest =>
    exact faithful_of_followsReference trivial
      (followsReference_insert hvalid (List.cons_ne_nil column rest))

/-- A checked statement whose condition is a conjunction of equalities is prepared as its reference
query or refused as malformed, whatever its tables and columns are called, exactly when it is not
one that strays; and one that strays is prepared as other SQL. -/
theorem faithful_iff (statement : Statement) (hvalid : statement.validate = .ok ())
    (hbound : ∀ p, statement.filter? = some p → p.isBound = true) :
    (Faithful statement ↔ statement.strayedSql? = none) ∧
      ∀ sql, statement.strayedSql? = some sql →
        prepare .strict statement = .ok ⟨sql, statement.params⟩ := by
  refine ⟨⟨?_, ?_⟩, fun sql h => (prepare_of_strayed hvalid hbound h).1⟩
  · intro hfaithful
    by_contra hstrayed
    obtain ⟨sql, hsql⟩ := Option.ne_none_iff_exists'.mp hstrayed
    exact (prepare_of_strayed hvalid hbound hsql).2 hfaithful
  · intro h
    cases statement with
    | createTable name columns =>
      exact faithful_of_followsReference trivial (followsReference_createTable hvalid)
    | insert table columns values => exact faithful_insert hvalid
    | select table columns filter => exact faithful_select hvalid hbound h
    | update table assignments filter => exact faithful_update hvalid hbound h
    | delete table filter =>
      exact faithful_of_followsReference trivial
        (followsReference_delete hvalid (conditionText?_ne hvalid hbound))
    | dropTable name => exact faithful_of_followsReference trivial (followsReference_dropTable hvalid)
    | listTables => exact faithful_of_followsReference trivial followsReference_listTables
    | count table filter =>
      exact faithful_of_followsReference trivial
        (followsReference_count hvalid (conditionText?_ne hvalid hbound))

/-- A select from columns that end in the word behind them, and one in which the word is harmless. -/
theorem faithful_selects :
    let strayed : Statement := .select "DIMANA" "id, DARI" (some (.eq "id" (.text "T1")))
    let harmless : Statement := .select "DIMANA" "DARI" (some (.eq "id" (.text "T1")))
    strayed.validate = .ok () ∧ harmless.validate = .ok () ∧
      prepare .strict strayed = .ok ⟨"SELECT id, FROM DARI WHERE DIMANA id=$1", [.text "T1"]⟩ ∧
      ¬ Faithful strayed ∧ Faithful harmless := by
  intro strayed harmless
  have hsql : strayed.strayedSql? = some "SELECT id, FROM DARI WHERE DIMANA id=$1" := by
    decide +kernel
  have hstrays := faithful_iff strayed (by decide) (by decide +kernel)
  have hfollows := faithful_iff harmless (by decide) (by decide +kernel)
  refine ⟨by decide, by decide, hstrays.2 _ hsql, ?_, hfollows.1.mpr (by decide +kernel)⟩
  rw [hstrays.1, hsql]
  simp

/-- An update without assignments sets its condition. -/
theorem strayed_update :
    let statement : Statement := .update "trees" [] (some (.eq "id" (.text "T1")))
    statement.validate = .ok () ∧
      prepare .strict statement = .ok ⟨"UPDATE trees SET DIMANA id=$1", [.text "T1"]⟩ ∧
      ¬ Faithful statement := by
  intro statement
  have hprepare : prepare .strict statement
      = .ok ⟨"UPDATE trees SET DIMANA id=$1", [.text "T1"]⟩ := by decide +kernel
  exact ⟨by decide, hprepare,
    not_faithful_of_prepare hprepare fun hassigned => absurd rfl hassigned⟩

end AqlGateway.Aql
