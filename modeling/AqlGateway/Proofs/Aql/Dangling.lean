import AqlGateway.Proofs.Aql.Reference

/-!
# Updates and their conditions

The text of an update is trimmed before its condition is looked for, and what is left of a blank
condition is a keyword without the space behind it.

* `Statement.Dangling` — the updates with such a condition;
* `followsReference_update` — all other updates follow their reference;
* `prepare_dangling` — these are prepared without a condition;
* `followsReference_iff` — the statements that follow their reference.
-/

namespace AqlGateway.Aql

open Text

namespace Statement

/-- An update with a condition that is blank: it has no characters but blanks, or none at all. -/
def Dangling (statement : Statement) : Prop :=
  statement.kind = .update ∧ ∃ f, statement.conditionText? = some f ∧ trim f.toList = []

/-- The SQL of such an update: the keyword of the condition stands in the set clause. -/
def danglingSql : Statement → String
  | update table assignments _ =>
    "UPDATE " ++ table ++ " SET " ++ joinWith ", " (assignmentTexts 0 assignments) ++ " DIMANA"
  | statement => statement.referenceSql

end Statement

/-! ### Updates -/

section Updates

variable {table : String} {assignments : List Assignment} {filter : Option Predicate}

def setText (assignments : List Assignment) : List Char :=
  (joinWith ", " (assignmentTexts 0 assignments)).toList

variable (hvalid : (Statement.update table assignments filter).validate = .ok ())

include hvalid

/-- The columns of a checked update are identifiers. -/
theorem isIdentifier_of_update : ∀ a ∈ assignments, isIdentifier a.column = true := fun a ha =>
  (Statement.validate_eq_ok_iff.mp hvalid).2.2 a.column
    (List.mem_append_left _ (List.mem_map_of_mem ha))

theorem isToken_of_update : ∀ t ∈ assignmentTexts 0 assignments, IsToken t := fun _ ht =>
  isToken_of_mem_assignmentTexts (isIdentifier_of_update hvalid) ht

theorem isSolid_setText (hparts : assignments ≠ []) : IsSolid (setText assignments) :=
  isSolid_tokens (isToken_of_update hvalid) (assignmentTexts_ne_nil hparts)

/-- An update follows its reference unless its condition dangles. -/
theorem followsReference_update (hparts : assignments ≠ [])
    (hcondition : (Statement.update table assignments filter).conditionText? ≠ some "")
    (hblank : ¬ (Statement.update table assignments filter).Dangling) :
    FollowsReference (.update table assignments filter) := by
  have hclause : IsClause (setText assignments) :=
    isClause_tokens (isToken_of_update hvalid) (assignmentTexts_ne_nil hparts)
  refine followsReference_of_condition hvalid rfl
    (read_update_clause (Statement.isName_of_validate hvalid rfl) (isSolid_setText hvalid hparts)
      hclause hcondition (notBefore_dimana (isIdentifier_of_update hvalid) 0) ?_)
  intro f hf hall
  exact hblank ⟨rfl, f, hf, (isAllBlank_iff f).mp hall⟩

/-- The keyword of a blank condition ends up in the SQL of an update. -/
theorem prepare_dangling (hparts : assignments ≠ [])
    (hdangling : (Statement.update table assignments filter).Dangling)
    (hcondition : (Statement.update table assignments filter).conditionText? ≠ some "") :
    prepare .strict (.update table assignments filter)
      = .ok ⟨(Statement.update table assignments filter).danglingSql,
          (Statement.update table assignments filter).params⟩ := by
  have htokens := isToken_of_update hvalid
  obtain ⟨-, f, hf, hblank⟩ := hdangling
  have hsplit : setText assignments
        ++ conditionTail (Statement.update table assignments filter).conditionText?
      = (setText assignments ++ " DIMANA".toList) ++ [] := by
    rw [hf, conditionTail_blank ((isAllBlank_iff f).mpr hblank), List.append_nil]
  have hsolid := isSolid_setText hvalid hparts
  have hword : " DIMANA".toList = [' '] ++ "DIMANA".toList := by decide
  have htrim : trim (setText assignments ++ " DIMANA".toList)
      = setText assignments ++ " DIMANA".toList := by
    rw [hword]
    exact trim_between hsolid.ne_nil hsolid.first (by decide) (by decide)
  have hplain : ∀ c, isTokenChar c = false → c ∉ ", ".toList → c ∉ " DIMANA".toList →
      c ∉ setText assignments ++ " DIMANA".toList := by
    intro c hc hcomma hkeyword hmem
    rcases List.mem_append.mp hmem with hmem | hmem
    · exact notMem_tokens htokens hc hcomma hmem
    · exact hkeyword hmem
  have hset : IsClause (setText assignments ++ " DIMANA".toList) :=
    isClause_of_plain (by rw [htrim]; simp [hsolid.ne_nil])
      (hplain '\'' (by decide) (by decide) (by decide))
      (hplain ';' (by decide) (by decide) (by decide))
  have hread := read_update_text (Statement.isName_of_validate hvalid rfl) hsolid hcondition hsplit
    (setEnd_dangling (notBefore_dimana (isIdentifier_of_update hvalid) 0))
  rw [clause?_of_isClause hset, htrim] at hread
  refine prepare_of_read hvalid hread ?_
  show "UPDATE ".toList ++ table.toList ++ " SET ".toList
      ++ (setText assignments ++ " DIMANA".toList) ++ whereSql none
    = ("UPDATE " ++ table ++ " SET " ++ joinWith ", " (assignmentTexts 0 assignments)
      ++ " DIMANA").toList
  simp only [String.toList_append, List.append_assoc, setText]
  rfl

end Updates

/-! ### All statements -/

variable {statement : Statement}

/-- The blank condition of an update is no clause, so the reference has the update refused. -/
theorem not_followsReference_of_dangling {q : BoundQuery} (hdangling : statement.Dangling)
    (hprepare : prepare .strict statement = .ok q) : ¬ FollowsReference statement := by
  intro h
  obtain ⟨hkind, f, hf, hblank⟩ := hdangling
  have hfree : f ∈ statement.freeTexts := by
    cases statement with
    | update table assignments filter =>
      show f ∈ (Statement.update table assignments filter).conditionText?.toList
      rw [hf]
      exact List.mem_singleton_self f
    | _ => exact absurd hkind (by simp [Statement.kind])
  have hrefused := h.refused fun hall => (hall f hfree).ne_nil hblank
  rw [hprepare] at hrefused
  exact absurd hrefused (by simp)

/-- A checked statement with all its parts follows its reference query, unless it is an update with a
blank condition. -/
theorem followsReference_of_not_dangling (hvalid : statement.validate = .ok ())
    (hparts : statement.HasParts) (hcondition : statement.conditionText? ≠ some "")
    (hdangling : ¬ statement.Dangling) : FollowsReference statement := by
  cases statement with
  | createTable name columns => exact followsReference_createTable hvalid
  | insert table columns values => exact followsReference_insert hvalid hparts
  | select table columns filter => exact followsReference_select hvalid hparts hcondition
  | update table assignments filter =>
    exact followsReference_update hvalid hparts hcondition hdangling
  | delete table filter => exact followsReference_delete hvalid hcondition
  | dropTable name => exact followsReference_dropTable hvalid
  | listTables => exact followsReference_listTables
  | count table filter => exact followsReference_count hvalid hcondition

/-- A checked statement with all its parts follows its reference query exactly when it is no update
with a blank condition. In such an update the keyword of the condition is taken for a part of the
set clause, and the condition is gone. -/
theorem followsReference_iff (statement : Statement) (hvalid : statement.validate = .ok ())
    (hparts : statement.HasParts) (hcondition : statement.conditionText? ≠ some "") :
    (FollowsReference statement ↔ ¬ statement.Dangling) ∧
      (statement.Dangling →
        prepare .strict statement = .ok ⟨statement.danglingSql, statement.params⟩) := by
  have dangles : statement.Dangling →
      prepare .strict statement = .ok ⟨statement.danglingSql, statement.params⟩ := by
    intro hdangling
    cases statement with
    | update table assignments filter =>
      exact prepare_dangling hvalid hparts hdangling hcondition
    | _ => exact absurd hdangling.1 (by simp [Statement.kind])
  refine ⟨⟨?_, followsReference_of_not_dangling hvalid hparts hcondition⟩, dangles⟩
  intro h hdangling
  exact not_followsReference_of_dangling hdangling (dangles hdangling) h

/-- A select whose condition has a value and free text. -/
theorem select_followsReference :
    let statement : Statement :=
      .select "trees" " id , age " (some (.and (.eq "status" (.text "MATI")) (.raw "age > 3 ")))
    prepare .strict statement
      = .ok ⟨"SELECT id , age FROM trees WHERE status=$1 AND age > 3", [.text "MATI"]⟩ := by
  intro statement
  have hfollows : FollowsReference statement :=
    (followsReference_iff statement (by decide) (by decide) (by decide)).1.mpr
      fun hdangling => absurd hdangling.1 (by decide)
  have hfree : statement.freeTexts = ["status=$1 AND age > 3 "] := by decide +kernel
  have hclause : IsClause "status=$1 AND age > 3 ".toList :=
    isClause_of_plain (by decide) (by decide) (by decide)
  have hsql : statement.referenceSql
      = "SELECT id , age FROM trees WHERE status=$1 AND age > 3" := by decide +kernel
  rw [hfollows.accepted (by simpa [hfree] using hclause), hsql]
  rfl

/-- An update whose condition is one blank: it has every part, and its SQL is not the reference. -/
theorem dangling_update :
    let statement : Statement := .update "trees" [⟨"status", .text "MATI"⟩] (some (.raw " "))
    statement.validate = .ok () ∧ statement.HasParts ∧ statement.conditionText? ≠ some "" ∧
      prepare .strict statement = .ok ⟨"UPDATE trees SET status=$1 DIMANA", [.text "MATI"]⟩ ∧
      ¬ FollowsReference statement := by
  intro statement
  have hprepare : prepare .strict statement
      = .ok ⟨"UPDATE trees SET status=$1 DIMANA", [.text "MATI"]⟩ := by decide +kernel
  exact ⟨by decide, by decide, by decide, hprepare,
    not_followsReference_of_dangling ⟨rfl, " ", rfl, by decide⟩ hprepare⟩

end AqlGateway.Aql
