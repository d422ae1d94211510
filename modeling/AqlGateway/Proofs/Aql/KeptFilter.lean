import AqlGateway.Proofs.Aql.Dangling

/-!
# Conditions that are kept

A condition is rendered to text, written behind a keyword, found again and trimmed.

* `Statement.withoutFilter` — a statement without its condition;
* `Statement.filterText` — a condition as it is rendered behind the values of a statement;
* `KeepsFilter` — the statement is refused, or its SQL ends in the condition;
* `prepare_of_empty_filter` — the empty text counts as no condition;
* `prepare_of_clause`, `prepare_of_not_clause` — all others are kept or refused;
* `prepare_filter` — the three together.
-/

namespace AqlGateway.Aql

open Text

namespace Statement

def withoutFilter : Statement → Statement
  | select table columns _ => select table columns none
  | update table assignments _ => update table assignments none
  | delete table _ => delete table none
  | count table _ => count table none
  | statement => statement

/-- A condition as it is rendered with placeholders, behind the values of a statement. -/
def filterText (statement : Statement) (p : Predicate) : String :=
  ((p.render .placeholders).run statement.boundValues).1

end Statement

/-- A condition is kept: the statement is refused, or its SQL is that of the statement without the
condition, with the trimmed condition in a WHERE part behind it. -/
def KeepsFilter (statement : Statement) (p : Predicate) : Prop :=
  (∃ e, prepare .strict statement = .error e) ∨
    ∃ bare q, prepare .strict statement.withoutFilter = .ok bare ∧
      prepare .strict statement = .ok q ∧
      q.sql = bare.sql ++ " WHERE " ++ trimText (statement.filterText p)

namespace Statement

variable {statement : Statement} {p : Predicate}

/-! ### Statements without their conditions -/

@[simp]
theorem filter?_withoutFilter (statement : Statement) : statement.withoutFilter.filter? = none := by
  cases statement <;> rfl

@[simp]
theorem conditionText?_withoutFilter (statement : Statement) :
    statement.withoutFilter.conditionText? = none := by
  rw [conditionText?, filter?_withoutFilter]
  rfl

theorem hasParts_withoutFilter (h : statement.HasParts) : statement.withoutFilter.HasParts := by
  cases statement <;> exact h

/-- The names of a statement without its condition are among those that were checked. -/
theorem validate_withoutFilter (h : statement.validate = .ok ()) :
    statement.withoutFilter.validate = .ok () := by
  obtain ⟨htable, hshape, hcolumns⟩ := validate_eq_ok_iff.mp h
  refine validate_eq_ok_iff.mpr ?_
  cases statement with
  | select table columns filter => exact ⟨htable, hshape, fun t ht => absurd ht List.not_mem_nil⟩
  | update table assignments filter =>
    refine ⟨htable, hshape, fun t ht => hcolumns t ?_⟩
    rcases List.mem_append.mp ht with ht | ht
    · exact List.mem_append_left _ ht
    · exact absurd ht List.not_mem_nil
  | delete table filter => exact ⟨htable, hshape, fun t ht => absurd ht List.not_mem_nil⟩
  | count table filter => exact ⟨htable, hshape, fun t ht => absurd ht List.not_mem_nil⟩
  | _ => exact ⟨htable, hshape, hcolumns⟩

/-- Without its condition a statement is always prepared. -/
theorem prepare_withoutFilter (hvalid : statement.validate = .ok ()) (hparts : statement.HasParts)
    (hfilter : statement.filter? = some p) :
    prepare .strict statement.withoutFilter
      = .ok ⟨statement.withoutFilter.referenceSql, statement.boundValues⟩ := by
  have hcondition := conditionText?_withoutFilter statement
  have hfollows : FollowsReference statement.withoutFilter := by
    refine followsReference_of_not_dangling (validate_withoutFilter hvalid)
      (hasParts_withoutFilter hparts) (by simp [hcondition]) ?_
    rintro ⟨-, f, hf, -⟩
    exact absurd (hcondition.symm.trans hf) (by simp)
  have hfree : statement.withoutFilter.freeTexts = [] := by
    cases statement with
    | createTable name columns => exact absurd hfilter (by simp [filter?])
    | _ => rfl
  have hparams : statement.withoutFilter.params = statement.boundValues := by
    rw [params, filter?_withoutFilter]
    cases statement <;> exact List.append_nil _
  rw [hfollows.accepted (by simp [hfree]), hparams]

/-! ### Their texts -/

theorem conditionText?_of_filter (hfilter : statement.filter? = some p) :
    statement.conditionText? = some (statement.filterText p) := by
  rw [conditionText?, hfilter, filterText, p.render_run]
  rfl

/-- The only free text of a statement with a condition is that condition. -/
theorem freeTexts_of_filter (hfilter : statement.filter? = some p) :
    statement.freeTexts = [statement.filterText p] := by
  have hcondition := conditionText?_of_filter hfilter
  cases statement with
  | createTable name columns => exact absurd hfilter (by simp [filter?])
  | _ => exact congrArg Option.toList hcondition

theorem params_of_filter (hfilter : statement.filter? = some p) :
    statement.params = statement.boundValues ++ p.values := by
  rw [params, hfilter]
  rfl

/-- The reference query of a statement is that of the statement without its condition, and a WHERE
part behind it. -/
theorem referenceSql_withoutFilter (hfilter : statement.filter? = some p) :
    statement.referenceSql
      = statement.withoutFilter.referenceSql ++ " WHERE " ++ trimText (statement.filterText p) := by
  have hcondition := conditionText?_of_filter hfilter
  have hwhere (front : String) : front ++ whereText (some (statement.filterText p))
      = front ++ "" ++ " WHERE " ++ trimText (statement.filterText p) := by
    rw [whereText, String.append_empty, String.append_assoc]
  rw [referenceSql_eq, hcondition, referenceSql_eq, conditionText?_withoutFilter]
  cases statement with
  | select table columns filter => exact hwhere _
  | update table assignments filter => exact hwhere _
  | delete table filter => exact hwhere _
  | count table filter => exact hwhere _
  | _ => exact absurd hfilter (by simp [filter?])

/-- Only the empty free text is rendered as the empty text. -/
theorem filterText_eq_empty_iff : statement.filterText p = "" ↔ p = .raw "" := by
  rw [filterText, p.render_run]
  cases p with
  | eq column value =>
    have hne : column ++ "=" ++ placeholder (statement.boundValues.length + 1) ≠ "" := by
      simp [String.append_eq_empty_iff]
    exact ⟨fun h => absurd h hne, fun h => absurd h (by simp)⟩
  | and left right =>
    have hjoin : (left.and right).numberedText statement.boundValues.length
        = left.numberedText statement.boundValues.length ++ " AND "
          ++ right.numberedText (statement.boundValues.length + left.values.length) :=
      joinWith_append (left.leafTexts_ne_nil _) (right.leafTexts_ne_nil _)
    rw [hjoin]
    simp [String.append_eq_empty_iff]
  | raw text =>
    show text = "" ↔ _
    rw [Predicate.raw.injEq]

end Statement

/-! ### Kept, refused, or none at all -/

section

variable {statement : Statement} {p : Predicate} (hvalid : statement.validate = .ok ())
  (hparts : statement.HasParts)

include hvalid

/-- The empty text is left out of a statement, which is then prepared like one without condition. -/
theorem prepare_of_empty_filter {bare : BoundQuery} (hfilter : statement.filter? = some (.raw ""))
    (hbare : prepare .strict statement.withoutFilter = .ok bare) :
    prepare .strict statement = .ok bare := by
  obtain ⟨-, sql, hsql, rfl⟩ := prepare_eq_ok_iff.mp hbare
  have htext : statement.numberedText = statement.withoutFilter.numberedText := by
    have hcondition : statement.conditionText? = some "" := by
      rw [Statement.conditionText?_of_filter hfilter, Statement.filterText_eq_empty_iff.mpr rfl]
    rw [Statement.numberedText_eq, Statement.numberedText_eq, hcondition,
      Statement.conditionText?_withoutFilter]
    cases statement <;> rfl
  have hparams : statement.params = statement.withoutFilter.params := by
    rw [Statement.params_of_filter hfilter, Statement.params, Statement.filter?_withoutFilter]
    cases statement <;> rfl
  exact prepare_eq_ok_iff.mpr ⟨hvalid, sql, htext ▸ hsql, hparams ▸ rfl⟩

include hparts

variable (hfilter : statement.filter? = some p) (hne : p ≠ .raw "")
  (hdangling : ¬ statement.Dangling)

include hfilter hne hdangling

/-- A statement with a condition follows its reference. -/
theorem followsReference_of_filter : FollowsReference statement := by
  refine followsReference_of_not_dangling hvalid hparts ?_ hdangling
  rw [Statement.conditionText?_of_filter hfilter]
  exact fun h => hne (Statement.filterText_eq_empty_iff.mp (Option.some.inj h))

/-- A condition that is a clause stands at the end of the SQL, and its values behind the others. -/
theorem prepare_of_clause (hclause : IsClause (statement.filterText p).toList) :
    prepare .strict statement = .ok
      ⟨statement.withoutFilter.referenceSql ++ " WHERE " ++ trimText (statement.filterText p),
        statement.boundValues ++ p.values⟩ := by
  have hfollows := followsReference_of_filter hvalid hparts hfilter hne hdangling
  rw [hfollows.accepted (by simpa [Statement.freeTexts_of_filter hfilter] using hclause),
    Statement.referenceSql_withoutFilter hfilter, Statement.params_of_filter hfilter]

/-- A statement with any other condition is refused. -/
theorem prepare_of_not_clause (hclause : ¬ IsClause (statement.filterText p).toList) :
    prepare .strict statement
      = .error (.malformedStatement statement.kind (trimText statement.template.1)) :=
  (followsReference_of_filter hvalid hparts hfilter hne hdangling).refused
    (by simpa [Statement.freeTexts_of_filter hfilter] using hclause)

end

/-- A checked statement with a condition and all its parts: when the condition is the empty text, it
counts as none; every other condition is kept, and the statement is refused exactly when the
condition is no clause. Updates with a blank condition stand apart (see `Statement.Dangling`). -/
theorem prepare_filter (statement : Statement) (p : Predicate) (hvalid : statement.validate = .ok ())
    (hparts : statement.HasParts) (hfilter : statement.filter? = some p) :
    ∃ bare, prepare .strict statement.withoutFilter = .ok bare ∧
      (p = .raw "" → prepare .strict statement = .ok bare) ∧
      (p ≠ .raw "" → ¬ statement.Dangling → KeepsFilter statement p ∧
        (IsClause (statement.filterText p).toList → ∃ q, prepare .strict statement = .ok q ∧
          q.params = bare.params ++ p.values) ∧
        (¬ IsClause (statement.filterText p).toList → prepare .strict statement
          = .error (.malformedStatement statement.kind (trimText statement.template.1)))) := by
  have hbare := Statement.prepare_withoutFilter hvalid hparts hfilter
  refine ⟨_, hbare, ?_, ?_⟩
  · rintro rfl
    exact prepare_of_empty_filter hvalid hfilter hbare
  · intro hne hdangling
    have hkept := prepare_of_clause hvalid hparts hfilter hne hdangling
    have hrefused := prepare_of_not_clause hvalid hparts hfilter hne hdangling
    refine ⟨?_, fun hclause => ⟨_, hkept hclause, rfl⟩, hrefused⟩
    by_cases hclause : IsClause (statement.filterText p).toList
    · exact .inr ⟨_, _, hbare, hkept hclause, rfl⟩
    · exact .inl ⟨_, hrefused hclause⟩

/-- The condition of an update, with a value of its own and free text. -/
theorem update_filter_kept :
    let p : Predicate := .and (.eq "id" (.text "T1")) (.raw " age > 3 ")
    let statement : Statement := .update "trees" [⟨"status", .text "MATI"⟩] (some p)
    KeepsFilter statement p ∧
      ∃ q, prepare .strict statement = .ok q ∧ q.params = [.text "MATI", .text "T1"] := by
  intro p statement
  have hne : p ≠ .raw "" := by decide
  have htext : statement.filterText p = "id=$2 AND  age > 3 " := by decide +kernel
  have hdangling : ¬ statement.Dangling := by
    rintro ⟨-, f, hf, hblank⟩
    have hcondition : statement.conditionText? = some "id=$2 AND  age > 3 " := by decide +kernel
    obtain rfl := Option.some.inj (hcondition.symm.trans hf)
    exact absurd hblank (by decide)
  have hclause : IsClause (statement.filterText p).toList := by
    rw [htext]
    exact isClause_of_plain (by decide) (by decide) (by decide)
  obtain ⟨bare, hbare, -, hkept⟩ :=
    prepare_filter statement p (by decide) (by decide) rfl
  obtain ⟨hkeeps, hclauses, -⟩ := hkept hne hdangling
  obtain ⟨q, hq, hparams⟩ := hclauses hclause
  have hfront : prepare .strict statement.withoutFilter
      = .ok ⟨"UPDATE trees SET status=$1", [.text "MATI"]⟩ := by decide +kernel
  obtain rfl := Except.ok.inj (hfront.symm.trans hbare)
  exact ⟨hkeeps, q, hq, hparams⟩

/-- A delete whose condition is the empty text: it has every part, and its SQL has no condition. -/
theorem empty_filter_lost :
    let statement : Statement := .delete "trees" (some (.raw ""))
    statement.validate = .ok () ∧ statement.HasParts ∧ statement.filter? = some (.raw "") ∧
      prepare .strict statement = .ok ⟨"DELETE FROM trees", []⟩ ∧
      ¬ KeepsFilter statement (.raw "") := by
  intro statement
  have hprepare : prepare .strict statement = .ok ⟨"DELETE FROM trees", []⟩ := by decide +kernel
  have hbare : prepare .strict statement.withoutFilter = .ok ⟨"DELETE FROM trees", []⟩ := by
    decide +kernel
  refine ⟨by decide, trivial, rfl, hprepare, ?_⟩
  rintro (⟨e, he⟩ | ⟨bare, q, hb, hq, hsql⟩)
  · exact absurd (hprepare.symm.trans he) (by simp)
  · obtain rfl := Except.ok.inj (hbare.symm.trans hb)
    obtain rfl := Except.ok.inj (hprepare.symm.trans hq)
    exact absurd hsql (by decide)

end AqlGateway.Aql
