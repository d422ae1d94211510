import AqlGateway.Proofs.Tree.Row

/-!
# Updates of stored trees

An update writes values into columns of a tree's row. What is read from the row behind the update is the
tree that the update stands for.

* `Row.write`, `Row.writeAll` — the row behind assignments; `overwritten` — the value of a column;
* `get?_writeAll` — assignments change the columns that they name;
* `ofRow_writeAll_twice` — an update that is made again changes nothing;
* `Row.Holds.writeAll` — the row of a tree holds another tree behind an update;
* `columns_updateAssignments`, `columns_statusAssignments` — the columns that the two updates write,
  all of them columns of the table (`sublist_updateAssignments`, `sublist_statusAssignments`);
* `Rewrites`, `rewrites_updates` — what they make of the row of a tree.
-/

namespace AqlGateway

open Aql

/-! ### Writing columns -/

/-- What assignments make of the value of a column; the last one that names the column counts. -/
def overwritten (column : String) (assignments : List Assignment) (value : Value) : Value :=
  assignments.foldl (fun value a => if a.column = column then a.value else value) value

namespace Row

variable {row : Row} {assignments : List Assignment} {column : String}

def write (row : Row) (a : Assignment) : Row where
  columns := row.columns
  values := List.zipWith (fun column value => if a.column = column then a.value else value)
    row.columns row.values

/-- The row with the values of assignments in their columns. -/
def writeAll (row : Row) (assignments : List Assignment) : Row := assignments.foldl write row

/-- An assignment changes its own column only. -/
theorem get?_write (row : Row) (a : Assignment) (column : String) :
    (row.write a).get? column
      = (row.get? column).map fun value => if a.column = column then a.value else value := by
  rw [get?, get?, write]
  cases hfind : row.columns.findIdx? (· == column) with
  | none => rfl
  | some i =>
    obtain ⟨hlt, hcolumn, -⟩ := List.findIdx?_eq_some_iff_getElem.mp hfind
    have hname : row.columns[i]? = some column := by
      rw [List.getElem?_eq_getElem hlt, beq_iff_eq.mp hcolumn]
    rw [Option.bind_some, Option.bind_some, List.getElem?_zipWith, hname]
    cases row.values[i]? <;> rfl

/-- Assignments change the columns that they name. -/
theorem get?_writeAll (row : Row) (assignments : List Assignment) (column : String) :
    (row.writeAll assignments).get? column
      = (row.get? column).map (overwritten column assignments) := by
  induction assignments generalizing row with
  | nil =>
    show row.get? column = (row.get? column).map id
    rw [Option.map_id, id]
  | cons a rest ih =>
    show ((row.write a).writeAll rest).get? column = _
    rw [ih, get?_write, Option.map_map]
    rfl

end Row

theorem overwritten_of_notMem {column : String} {assignments : List Assignment}
    (h : column ∉ assignments.map Assignment.column) (value : Value) :
    overwritten column assignments value = value := by
  induction assignments generalizing value with
  | nil => rfl
  | cons a rest ih =>
    rw [List.map_cons, List.mem_cons, not_or] at h
    show overwritten column rest (if a.column = column then a.value else value) = value
    rw [if_neg (Ne.symm h.1), ih h.2]

/-- A column that is named has its value from the assignments alone. -/
theorem overwritten_of_mem {column : String} {assignments : List Assignment}
    (h : column ∈ assignments.map Assignment.column) (v w : Value) :
    overwritten column assignments v = overwritten column assignments w := by
  induction assignments generalizing v w with
  | nil => exact absurd h List.not_mem_nil
  | cons a rest ih =>
    show overwritten column rest (if a.column = column then a.value else v)
      = overwritten column rest (if a.column = column then a.value else w)
    by_cases hrest : column ∈ rest.map Assignment.column
    · exact ih hrest _ _
    · have hname : a.column = column := by
        rw [List.map_cons, List.mem_cons] at h
        exact (h.resolve_right hrest).symm
      rw [if_pos hname, if_pos hname]

/-- The same assignments made twice do what they do once. -/
theorem overwritten_twice (column : String) (assignments : List Assignment) (value : Value) :
    overwritten column assignments (overwritten column assignments value)
      = overwritten column assignments value := by
  by_cases h : column ∈ assignments.map Assignment.column
  · exact overwritten_of_mem h _ _
  · exact overwritten_of_notMem h _

namespace Row

variable {row : Row} {tree other : Tree} {assignments : List Assignment}

/-- The row of a tree holds another tree behind an update, if the update makes the values of the other
tree out of those of the first one and the row has a place for each of them. -/
theorem Holds.writeAll (h : row.Holds tree)
    (hplaces : ∀ column ∈ Tree.columns, (row.get? column).isSome = true)
    (hvalues : Tree.columns.zip other.values
      = (Tree.columns.zip tree.values).map fun p => (p.1, overwritten p.1 assignments p.2)) :
    (row.writeAll assignments).Holds other := by
  intro p hp
  rw [hvalues] at hp
  obtain ⟨⟨column, value⟩, hmem, rfl⟩ := List.mem_map.mp hp
  have hsaid : row.said column = value := h _ hmem
  obtain ⟨found, hget⟩ := Option.isSome_iff_exists.mp (hplaces column (List.of_mem_zip hmem).1)
  rw [said, hget, Option.getD_some] at hsaid
  rw [said, get?_writeAll, hget, hsaid]
  rfl

end Row

namespace Tree

open Row

variable {row : Row} {tree stored : Tree} {assignments : List Assignment}
  {pairs extra : List (String × Value)}

/-- A row with all columns of the table has a place for each of them. -/
theorem isSome_get? (hperm : pairs.Perm (columns.zip tree.values ++ extra)) :
    ∀ column ∈ columns, ((ofPairs pairs).get? column).isSome = true := by
  intro column hcolumn
  have hnames : (columns.zip tree.values).map Prod.fst = columns :=
    List.map_fst_zip (by simp [columns, values])
  rw [← hnames] at hcolumn
  obtain ⟨p, hp, rfl⟩ := List.mem_map.mp hcolumn
  have hmem : p ∈ pairs := hperm.mem_iff.mpr (List.mem_append_left extra hp)
  rw [get?_ofPairs]
  cases hlookup : pairs.lookup p.1 with
  | some value => rfl
  | none =>
    have hmissing := List.lookup_eq_none_iff.mp hlookup p hmem
    simp at hmissing

/-! ### What is read behind an update -/

/-- Nothing but what a row says about columns makes up its tree. -/
theorem ofRow_congr {row₁ row₂ : Row} (h : ∀ column, row₁.get? column = row₂.get? column) :
    ofRow row₁ = ofRow row₂ := by
  simp only [ofRow, rowText, rowDate?, rowInstant?, rowInteger, rowReal, h]

/-- An update that is made again changes nothing. -/
theorem ofRow_writeAll_twice (row : Row) (assignments : List Assignment) :
    ofRow ((row.writeAll assignments).writeAll assignments) = ofRow (row.writeAll assignments) := by
  refine ofRow_congr fun column => ?_
  rw [get?_writeAll, get?_writeAll, Option.map_map]
  refine congrArg (fun f => (row.get? column).map f) (funext fun value => ?_)
  exact overwritten_twice column assignments value

/-- Assignments to different columns of the table, which make the row of a tree that of `tree`, also
when they are made twice, and leave every other column alone. -/
structure Rewrites (row : Row) (assignments : List Assignment) (tree : Tree) : Prop where
  distinct : (assignments.map Assignment.column).Nodup
  known : ∀ a ∈ assignments, a.column ∈ columns
  read : ofRow (row.writeAll assignments) = tree
  again : ofRow ((row.writeAll assignments).writeAll assignments) = tree
  others : ∀ column ∉ columns, (row.writeAll assignments).get? column = row.get? column

/-- Assignments rewrite a row when they turn the values of one tree into those of another. -/
theorem rewrites_of_values (hextra : ∀ p ∈ extra, p.1 ∉ columns)
    (hperm : pairs.Perm (columns.zip stored.values ++ extra))
    (hnames : (assignments.map Assignment.column).Sublist columns)
    (hvalues : columns.zip tree.values
      = (columns.zip stored.values).map fun p => (p.1, overwritten p.1 assignments p.2)) :
    Rewrites (ofPairs pairs) assignments tree := by
  have hholds : (ofPairs pairs).Holds stored := ((stores_zip stored).perm hextra hperm).holds
  have hread : ofRow ((ofPairs pairs).writeAll assignments) = tree :=
    ofRow_of_holds (hholds.writeAll (isSome_get? hperm) hvalues)
  refine ⟨hnames.nodup (by decide), fun a ha => hnames.subset (List.mem_map_of_mem ha), hread,
    (ofRow_writeAll_twice _ _).trans hread, fun column hcolumn => ?_⟩
  have hunnamed : column ∉ assignments.map Assignment.column := fun h => hcolumn (hnames.subset h)
  rw [get?_writeAll, funext (overwritten_of_notMem hunnamed)]
  exact congrFun Option.map_id _

/-! ### The two updates -/

/-- A full update writes all columns but those that identify a tree and say who registered it when, and
the planting date if there is one. -/
theorem columns_updateAssignments (tree : Tree) (now : Instant) :
    (tree.updateAssignments now).map Assignment.column
      = columns.filter fun column =>
          !(["id", "code", "registered_by", "created_at"].contains column)
            && (tree.plantingDate.isSome || column != "planting_date") := by
  rw [updateAssignments]
  cases tree.plantingDate with
  | none => rfl
  | some date => rfl

theorem sublist_updateAssignments (tree : Tree) (now : Instant) :
    ((tree.updateAssignments now).map Assignment.column).Sublist columns := by
  rw [columns_updateAssignments]
  exact List.filter_sublist

theorem columns_statusAssignments (status : Status) (healthScore : Int64) (now : Instant) :
    (statusAssignments status healthScore now).map Assignment.column
      = columns.filter ["status", "health_score", "updated_at"].contains := rfl

theorem sublist_statusAssignments (status : Status) (healthScore : Int64) (now : Instant) :
    ((statusAssignments status healthScore now).map Assignment.column).Sublist columns := by
  rw [columns_statusAssignments]
  exact List.filter_sublist

/-- A full update of a stored tree writes what is set of another tree. What identifies the stored tree,
who registered it when, and its planting date if the other tree has none, are left alone. An update of
the status writes the status, the health and the time of the update. -/
theorem rewrites_updates (stored tree : Tree) (status : Status) (healthScore : Int64) (now : Instant)
    {pairs extra : List (String × Value)} (hextra : ∀ p ∈ extra, p.1 ∉ columns)
    (hperm : pairs.Perm (columns.zip stored.values ++ extra)) :
    Rewrites (ofPairs pairs) (tree.updateAssignments now)
        { tree with
          id := stored.id
          code := stored.code
          registeredBy := stored.registeredBy
          createdAt := stored.createdAt
          plantingDate := tree.plantingDate.or stored.plantingDate
          updatedAt := some now } ∧
      Rewrites (ofPairs pairs) (statusAssignments status healthScore now)
        { stored with status := some status, healthScore := healthScore, updatedAt := some now } := by
  constructor
  · refine rewrites_of_values hextra hperm (sublist_updateAssignments tree now) ?_
    rw [updateAssignments]
    cases tree.plantingDate with
    | none => simp [columns, values, overwritten, optionalValue]
    | some date => simp [columns, values, overwritten, optionalValue]
  · refine rewrites_of_values hextra hperm (sublist_statusAssignments status healthScore now) ?_
    simp [statusAssignments, columns, values, overwritten, optionalValue]

/-- A stored tree, its columns in the reverse order behind another one, is updated with a tree that has
no planting date and no status. -/
theorem rewrites_updates_reversed :
    let planted : Date := ⟨2019, 7, 12, by decide⟩
    let now : Instant := ⟨⟨2024, 2, 29, by decide⟩, 3600, 0, by decide⟩
    let stored : Tree := {
      id := "T1"
      code := "C007"
      plantingDate := some planted
      status := some .sick
      healthScore := 40
      registeredBy := "ani" }
    let tree : Tree := { id := "T2", code := "C008", notes := "pruned", healthScore := 75 }
    let extra := [("note", Value.integer 1)]
    let pairs := extra ++ (columns.zip stored.values).reverse
    (∀ p ∈ extra, p.1 ∉ columns) ∧ pairs.Perm (columns.zip stored.values ++ extra) ∧
      ofRow ((ofPairs pairs).writeAll (tree.updateAssignments now))
        = { stored with
            status := none
            healthScore := 75
            notes := "pruned"
            updatedAt := some now } ∧
      ofRow ((ofPairs pairs).writeAll (statusAssignments .healthy 90 now))
        = { stored with status := some .healthy, healthScore := 90, updatedAt := some now } := by
  intro planted now stored tree extra pairs
  have hextra : ∀ p ∈ extra, p.1 ∉ columns := by decide
  have hperm : pairs.Perm (columns.zip stored.values ++ extra) :=
    List.perm_append_comm.trans ((List.reverse_perm (columns.zip stored.values)).append_right extra)
  obtain ⟨hfull, hstatus⟩ := rewrites_updates stored tree .healthy 90 now hextra hperm
  exact ⟨hextra, hperm, hfull.read, hstatus.read⟩

end Tree

end AqlGateway
