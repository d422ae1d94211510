import AqlGateway.Proofs.Aql.ColumnList
import AqlGateway.Proofs.Aql.Condition
import AqlGateway.Proofs.Aql.Preparation
import AqlGateway.Proofs.Aql.SetClause

/-!
# Statements read back

A typed statement is written as text, and the text is read again. Here each shape that goes on behind
a checked name is read from such a text.

* `read_createTable` — with the definitions of the columns, and `read_createTable_bare` without;
* `read_from` — selects and counts;
* `read_delete`, `read_update_text` — the rest, up to the condition;
* `setEnd_condition`, `setEnd_dangling` — where the set clause of an update ends.
-/

namespace AqlGateway.Aql

open Text

variable {name columns : List Char} {filter : Option String}

/-! ### The shapes -/

theorem read_createTable (hname : IsName name) (columns : List Char) :
    readCreateTable? ("LAHAN".toList ++ ([' '] ++ (name ++ ([' '] ++ '(' :: (columns ++ [')'])))))
      = (clause? columns).map (.createTable name) := by
  have hskip : skipGap ([' '] ++ '(' :: (columns ++ [')'])) = '(' :: (columns ++ [')']) :=
    skipGap_append (gapBefore_space (stops_cons.mpr (by decide)))
  have hread : identifier? (name ++ ([' '] ++ '(' :: (columns ++ [')'])))
      = some (name, [' '] ++ '(' :: (columns ++ [')'])) :=
    identifier?_append hname (stops_cons.mpr (by decide))
  have hopen : ∀ r, expect? ['('] ('(' :: r) = some r := expect?_append ['(']
  have htail : enclosedTail? (columns ++ [')']) = clause? columns := by
    rw [enclosedTail?, List.reverse_append]
    show clause? columns.reverse.reverse = _
    rw [List.reverse_reverse]
  simp only [readCreateTable?, expect?_append, gap?_space_name hname, hread, hskip, hopen, htail,
    Option.bind_eq_bind, Option.bind_some, Option.pure_def]
  cases clause? columns <;> rfl

/-- A new table without columns is no statement. -/
theorem read_createTable_bare (hname : IsName name) :
    readCreateTable? ("LAHAN".toList ++ ([' '] ++ name)) = none := by
  simp only [readCreateTable?, expect?_append, gap?_space hname.stops_gap, identifier?_self hname,
    Option.bind_eq_bind, Option.bind_some]
  rfl

/-- The gap in front of a clause does not reach into what stands behind the clause. -/
theorem gap?_clause (hclause : IsClause columns) (r : List Char) :
    gap? ([' '] ++ (columns ++ r)) = some (skipGap columns ++ r) := by
  have hne : skipGap columns ≠ [] := by
    intro hnil
    have htrim := trim_skipGap columns
    rw [hnil] at htrim
    exact hclause.ne_nil htrim.symm
  show some (skipGap (columns ++ r)) = _
  rw [skipGap, List.dropWhile_append, if_neg (by simpa [skipGap] using hne)]
  rfl

/-- A select and a count are read up to their condition. -/
theorem read_from {keyword : List Char} (hname : IsName name) (hclause : IsClause columns)
    (hdari : ∀ rest, NotBefore " DARI ".toList (skipGap columns) (" DARI ".toList ++ rest)) :
    readFrom? keyword
        (keyword ++ ([' '] ++ (columns ++ (" DARI ".toList ++ (name ++ conditionTail filter)))))
      = (readCondition filter).map fun condition => (trim columns, name, condition) := by
  have hskip := gap?_clause hclause
  have hbreak : ∀ r, breakAt? " DARI ".toList (skipGap columns ++ (" DARI ".toList ++ r))
      = some (skipGap columns, " DARI ".toList ++ r) := fun r =>
    breakAt?_eq_some_iff.mpr ⟨rfl, List.prefix_append _ _, hdari r⟩
  have hread : clause? (skipGap columns) = some (trim columns) := by
    rw [clause?_congr (trim_skipGap columns), clause?_of_isClause hclause]
  have hspace : " DARI ".toList = " DARI".toList ++ [' '] := by decide
  have hexpect : ∀ r, expect? " DARI".toList (" DARI ".toList ++ r) = some ([' '] ++ r) := by
    intro r
    rw [hspace, List.append_assoc, expect?_append]
  simp only [readFrom?, expect?_append, hskip, hbreak, hread, hexpect, gap?_space_name hname,
    identifier?_append hname stops_conditionTail, filterTail?_conditionTail, Option.bind_eq_bind,
    Option.bind_some, Option.pure_def]
  cases readCondition filter <;> rfl

theorem read_delete (hname : IsName name) (filter : Option String) :
    readDelete? ("GUSUR DARI".toList ++ ([' '] ++ (name ++ conditionTail filter)))
      = (readCondition filter).map (.delete name) := by
  simp only [readDelete?, expect?_append, gap?_space_name hname,
    identifier?_append hname stops_conditionTail, filterTail?_conditionTail, Option.bind_eq_bind,
    Option.bind_some, Option.pure_def]
  cases readCondition filter <;> rfl

/-! ### Updates -/

/-- An update is read at the end of its set clause, wherever that may be. -/
theorem read_update (hname : IsName name) {gap set tail : List Char} (hne : gap ≠ [])
    (hgap : GapBefore gap (set ++ tail)) (hend : SetEnd set tail) :
    readUpdate? ("PUPUK".toList ++ ([' '] ++ (name ++ ([' '] ++ ("DENGAN".toList ++
        (gap ++ (set ++ tail)))))))
      = (clause? set).bind fun x => (filterTail? tail).map (.update name x) := by
  have hword : Stops isGap ("DENGAN".toList ++ (gap ++ (set ++ tail))) :=
    stops_append (by decide) (by decide)
  have hread : identifier? (name ++ ([' '] ++ ("DENGAN".toList ++ (gap ++ (set ++ tail)))))
      = some (name, [' '] ++ ("DENGAN".toList ++ (gap ++ (set ++ tail)))) :=
    identifier?_append hname (stops_cons.mpr (by decide))
  simp only [readUpdate?, expect?_append, gap?_space_name hname, hread, gap?_space hword,
    gap?_append hne hgap, breakSet_eq_iff.mpr ⟨rfl, hend⟩, Option.bind_eq_bind, Option.bind_some,
    Option.pure_def]
  cases clause? set with
  | none => rfl
  | some x => cases filterTail? tail <;> rfl

/-- The text of an update is read at the end of its set clause. -/
theorem read_update_text {table sets : String} {set tail : List Char} (hname : IsName table.toList)
    (hsets : IsSolid sets.toList) (hcondition : filter ≠ some "")
    (hsplit : sets.toList ++ conditionTail filter = set ++ tail) (hend : SetEnd set tail) :
    readUpdate? (trim (Template.update table sets filter).toList)
      = (clause? set).bind fun x => (filterTail? tail).map (.update table.toList x) := by
  have hstop : Stops isGap (set ++ tail) := by
    rw [← hsplit]
    exact stops_gap_of_stops_blank (stops_append hsets.first hsets.ne_nil)
  have hlead : "PUPUK ".toList = "PUPUK".toList ++ [' '] := by decide
  have hword : " DENGAN ".toList = [' '] ++ ("DENGAN".toList ++ [' ']) := by decide
  have hbase : ("PUPUK " ++ table ++ " DENGAN " ++ sets).toList
      = "PUPUK ".toList ++ ((table.toList ++ " DENGAN ".toList) ++ sets.toList) := by
    simp only [String.toList_append, List.append_assoc]
  rw [Template.update, trim_withFilter hbase (by decide) (by decide) hsets.last hsets.ne_nil
    hcondition, hsplit, hlead, hword,
    ← read_update hname (List.cons_ne_nil _ _) (gapBefore_space hstop) hend]
  simp only [List.append_assoc]

variable {sets : List Char}

/-- A set clause ends in front of its condition, when the condition is not blank. -/
theorem setEnd_condition (hsets : ∀ tail, NotBefore " DIMANA ".toList sets tail)
    (hfilter : ∀ f, filter = some f → ¬ isAllBlank f = true) :
    SetEnd sets (conditionTail filter) := by
  cases filter with
  | none => exact .textEnd (not_infix_of_notBefore (by decide) (hsets []))
  | some f =>
    rw [conditionTail_of_not_blank (hfilter f rfl)]
    exact .condition (List.prefix_append _ _) (hsets _)

/-- An update is read up to its condition, when the word in front of the condition is the first one. -/
theorem read_update_clause {table sets : String} (hname : IsName table.toList)
    (hsolid : IsSolid sets.toList) (hclause : IsClause sets.toList) (hcondition : filter ≠ some "")
    (hsets : ∀ tail, NotBefore " DIMANA ".toList sets.toList tail)
    (hblank : ∀ f, filter = some f → ¬ isAllBlank f = true) :
    readUpdate? (trim (Template.update table sets filter).toList)
      = (readCondition filter).map (.update table.toList sets.toList) := by
  rw [read_update_text hname hsolid hcondition rfl (setEnd_condition hsets hblank),
    filterTail?_conditionTail, clause?_of_isClause hclause, hsolid.trim_eq]
  rfl

/-- The keyword that a blank condition leaves behind is taken for a part of the set clause. -/
theorem setEnd_dangling (hsets : ∀ tail, NotBefore " DIMANA ".toList sets tail) :
    SetEnd (sets ++ " DIMANA".toList) [] := by
  have hshort : ¬ " DIMANA ".toList <:+: " DIMANA".toList :=
    breakAt?_eq_none_iff.mp (by decide)
  have hword : NotBefore " DIMANA ".toList " DIMANA".toList [] :=
    notBefore_of_absent (by rwa [List.append_nil])
  exact .textEnd (not_infix_of_notBefore (by decide) ((hsets _).append hword))

end AqlGateway.Aql
