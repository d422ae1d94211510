import Mathlib.Data.List.Nodup
import AqlGateway.Tree.Row

/-!
# Trees stored in rows

A row is read by the names of its columns. Where the columns stand, and what other columns there are,
is of no consequence.

* `Row.ofPairs` — the row of columns with their values; `Row.said` — what a row says about a column;
* `Row.Holds` — a row that says of each column of the table what a tree has there;
* `ofRow_of_holds` — from such a row the tree is read;
* `Stores` — pairs of columns and values that store a tree, and `Stores.holds` — their row holds it;
* `ofRow_of_perm` — what an insert writes is read back, in any order and among other columns.
-/

namespace AqlGateway

/-! ### Looking up columns -/

namespace Row

def ofPairs (pairs : List (String × Value)) : Row := ⟨pairs.map Prod.fst, pairs.map Prod.snd⟩

/-- What a row says about a column. A column that is missing is as good as a null. -/
def said (row : Row) (column : String) : Value := (row.get? column).getD .null

variable {pairs : List (String × Value)} {column : String} {value : Value}

/-- A row has the first value that is given for a column. -/
theorem get?_ofPairs (pairs : List (String × Value)) (column : String) :
    (ofPairs pairs).get? column = pairs.lookup column := by
  induction pairs with
  | nil => rfl
  | cons p rest ih =>
    obtain ⟨name, v⟩ := p
    rw [get?, ofPairs] at ih
    rw [get?, ofPairs, List.map_cons, List.findIdx?_cons, List.lookup_cons]
    by_cases h : name = column
    · rw [h, if_pos (by simp)]
      simp
    · have hne : (column == name) = false := by simpa using Ne.symm h
      rw [hne, if_neg (by simpa using h), ← ih, Option.bind_map]
      rfl

/-- A column that is there with one value only is found with this value. -/
theorem said_of_mem (hmem : (column, value) ∈ pairs)
    (hunique : ∀ v, (column, v) ∈ pairs → v = value) : (ofPairs pairs).said column = value := by
  rw [said, get?_ofPairs]
  cases hlookup : pairs.lookup column with
  | none =>
    have hmissing := List.lookup_eq_none_iff.mp hlookup (column, value) hmem
    simp at hmissing
  | some v =>
    obtain ⟨front, behind, rfl, -⟩ := List.lookup_eq_some_iff.mp hlookup
    exact hunique v (by simp)

theorem said_of_notMem (h : column ∉ pairs.map Prod.fst) : (ofPairs pairs).said column = .null := by
  have hlookup : pairs.lookup column = none := by
    refine List.lookup_eq_none_iff.mpr fun p hp => ?_
    have hne : column ≠ p.1 := fun heq => h (heq ▸ List.mem_map_of_mem hp)
    simpa using hne
  rw [said, get?_ofPairs, hlookup]
  rfl

/-- A row says of each column of the table what the tree has there. -/
def Holds (row : Row) (tree : Tree) : Prop :=
  ∀ p ∈ Tree.columns.zip tree.values, row.said p.1 = p.2

end Row

namespace Tree

open Row

/-! ### Reading fields -/

section Fields

variable {row : Row} {column : String}

theorem rowText_of_said {s : String} (h : row.said column = .text s) : rowText row column = s := by
  rw [said] at h
  rw [rowText]
  cases hget : row.get? column with
  | none => simp [hget] at h
  | some value =>
    obtain rfl : value = .text s := by simpa [hget] using h
    rfl

theorem rowText_of_null (h : row.said column = .null) : rowText row column = "" := by
  rw [said] at h
  rw [rowText]
  cases hget : row.get? column with
  | none => rfl
  | some value =>
    obtain rfl : value = .null := by simpa [hget] using h
    rfl

/-- A null and a missing column are both an unset date. -/
theorem rowDate_of_said {d : Option Date} (h : row.said column = optionalValue .date d) :
    rowDate? row column = d := by
  rw [said] at h
  rw [rowDate?]
  cases hget : row.get? column with
  | none => cases d <;> simp_all [optionalValue]
  | some value =>
    obtain rfl : value = optionalValue .date d := by simpa [hget] using h
    cases d <;> rfl

theorem rowInstant_of_said {t : Option Instant} (h : row.said column = optionalValue .timestamp t) :
    rowInstant? row column = t := by
  rw [said] at h
  rw [rowInstant?]
  cases hget : row.get? column with
  | none => cases t <;> simp_all [optionalValue]
  | some value =>
    obtain rfl : value = optionalValue .timestamp t := by simpa [hget] using h
    cases t <;> rfl

theorem rowInteger_of_said {n : Int64} (h : row.said column = .integer n) :
    rowInteger row column = n := by
  rw [said] at h
  rw [rowInteger]
  cases hget : row.get? column with
  | none => simp [hget] at h
  | some value =>
    obtain rfl : value = .integer n := by simpa [hget] using h
    rfl

theorem rowReal_of_said {x : Binary64} (h : row.said column = .real x) : rowReal row column = x := by
  rw [said] at h
  rw [rowReal]
  cases hget : row.get? column with
  | none => simp [hget] at h
  | some value =>
    obtain rfl : value = .real x := by simpa [hget] using h
    rfl

/-- The word for a status is read as the status. -/
theorem ofField_name (status : Status) : Status.ofField? status.name = some status := by
  cases status <;> decide

theorem rowStatus_of_said {status : Option Status}
    (h : row.said column = optionalValue statusValue status) :
    Status.ofField? (rowText row column) = status := by
  cases status with
  | none =>
    rw [rowText_of_null h]
    rfl
  | some status =>
    rw [rowText_of_said h]
    exact ofField_name status

end Fields

/-! ### Reading trees -/

variable {row : Row} {tree : Tree}

/-- A tree is read from every row that holds it. -/
theorem ofRow_of_holds (h : row.Holds tree) : ofRow row = tree := by
  simp only [Holds, columns, values, List.zip_cons_cons, List.zip_nil_right, List.forall_mem_cons]
    at h
  obtain ⟨hid, hcode, hspecies, hlocation, hplanting, hage, hheight, hdiameter, hstatus, hhealth,
    hnotes, hregistered, hcreated, hupdated, -⟩ := h
  rw [ofRow, rowText_of_said hid, rowText_of_said hcode, rowText_of_said hspecies,
    rowText_of_said hlocation, rowDate_of_said hplanting, rowInteger_of_said hage,
    rowReal_of_said hheight, rowReal_of_said hdiameter, rowStatus_of_said hstatus,
    rowInteger_of_said hhealth, rowText_of_said hnotes, rowText_of_said hregistered,
    rowInstant_of_said hcreated, rowInstant_of_said hupdated]

/-- Each column of the table is there with the tree's value, or left out because the value is a null,
and no column of the table is there with another value. -/
structure Stores (pairs : List (String × Value)) (tree : Tree) : Prop where
  kept : ∀ p ∈ columns.zip tree.values, p ∈ pairs ∨ p.2 = .null ∧ p.1 ∉ pairs.map Prod.fst
  only : ∀ p ∈ pairs, p.1 ∈ columns → p ∈ columns.zip tree.values

/-- No column of the table has two values. -/
theorem eq_of_mem_zip {column : String} {v w : Value} (hv : (column, v) ∈ columns.zip tree.values)
    (hw : (column, w) ∈ columns.zip tree.values) : v = w := by
  have hnodup : ((columns.zip tree.values).map Prod.fst).Nodup := by
    rw [List.map_fst_zip (by simp [columns, values])]
    decide
  exact (Prod.mk.inj (List.inj_on_of_nodup_map hnodup hv hw rfl)).2

variable {pairs extra : List (String × Value)}

/-- A row that stores a tree says what the tree has, in whatever order. -/
theorem Stores.holds (h : Stores pairs tree) : (ofPairs pairs).Holds tree := by
  rintro ⟨column, value⟩ hmem
  rcases h.kept _ hmem with hkept | ⟨hnull, hmissing⟩
  · refine said_of_mem hkept fun v hv => ?_
    exact eq_of_mem_zip (h.only _ hv (List.of_mem_zip hmem).1) hmem
  · rw [said_of_notMem hmissing]
    exact hnull.symm

theorem stores_zip (tree : Tree) : Stores (columns.zip tree.values) tree where
  kept _ hp := .inl hp
  only _ hp _ := hp

/-- An insert leaves out nulls alone. -/
theorem stores_insertPairs (tree : Tree) : Stores tree.insertPairs tree where
  kept p hp := by
    obtain ⟨column, value⟩ := p
    by_cases hmem : (column, value) ∈ tree.insertPairs
    · exact .inl hmem
    · have hnull : value.isNull = true := by
        rw [insertPairs, List.mem_filter] at hmem
        have hleft : ¬ (!(value.isNull && dateColumns.contains column)) = true :=
          fun hkeep => hmem ⟨hp, hkeep⟩
        simp at hleft
        exact hleft.1
      have hvalue : value = .null := by
        cases value <;> simp_all [Value.isNull]
      refine .inr ⟨hvalue, fun hcolumn => ?_⟩
      obtain ⟨⟨name, other⟩, hother, rfl⟩ := List.mem_map.mp hcolumn
      have heq := eq_of_mem_zip (List.mem_filter.mp hother).1 hp
      exact hmem (heq ▸ hother)
  only _ hp _ := (List.mem_filter.mp hp).1

/-- Neither the order of the pairs nor other columns make a difference. -/
theorem Stores.perm {stored : List (String × Value)} (h : Stores stored tree)
    (hextra : ∀ p ∈ extra, p.1 ∉ columns) (hperm : pairs.Perm (stored ++ extra)) :
    Stores pairs tree where
  kept p hp := by
    rcases h.kept p hp with hkept | ⟨hnull, hmissing⟩
    · exact .inl (hperm.mem_iff.mpr (List.mem_append_left extra hkept))
    · refine .inr ⟨hnull, fun hcolumn => ?_⟩
      obtain ⟨q, hq, hname⟩ := List.mem_map.mp hcolumn
      rcases List.mem_append.mp (hperm.mem_iff.mp hq) with hstored | hother
      · exact hmissing (hname ▸ List.mem_map_of_mem hstored)
      · exact hextra q hother (hname ▸ (List.of_mem_zip hp).1)
  only p hp hcolumn := by
    rcases List.mem_append.mp (hperm.mem_iff.mp hp) with hstored | hother
    · exact h.only p hstored hcolumn
    · exact absurd hcolumn (hextra p hother)

/-- What an insert writes of a tree, or all its columns with their values, is read back as this tree,
in any order and with any other columns among them. -/
theorem ofRow_of_perm (tree : Tree) {stored extra pairs : List (String × Value)}
    (hstored : stored ∈ [tree.insertPairs, columns.zip tree.values])
    (hextra : ∀ p ∈ extra, p.1 ∉ columns) (hperm : pairs.Perm (stored ++ extra)) :
    ofRow (ofPairs pairs) = tree := by
  have hstores : Stores stored tree := by
    rcases List.mem_cons.mp hstored with rfl | hzip
    · exact stores_insertPairs tree
    · rw [List.mem_singleton.mp hzip]
      exact stores_zip tree
  exact ofRow_of_holds (hstores.perm hextra hperm).holds

/-- A tree without dates and status, its columns in the reverse order behind another one that is there
twice. -/
theorem ofRow_of_perm_reversed :
    let tree : Tree := { id := "T1", code := "C007", heightMeters := .nan }
    let notes := [("note", Value.integer 1), ("note", .null)]
    let pairs := notes ++ tree.insertPairs.reverse
    pairs.map Prod.fst = ["note", "note", "registered_by", "notes", "health_score", "status",
        "diameter_cm", "height_meters", "age_years", "location_id", "species_id", "code", "id"] ∧
      (∀ p ∈ notes, p.1 ∉ columns) ∧ pairs.Perm (tree.insertPairs ++ notes) ∧
      ofRow (ofPairs pairs) = tree := by
  intro tree notes pairs
  have hnotes : ∀ p ∈ notes, p.1 ∉ columns := by decide
  have hperm : pairs.Perm (tree.insertPairs ++ notes) :=
    List.perm_append_comm.trans ((List.reverse_perm tree.insertPairs).append_right notes)
  have hstored : tree.insertPairs ∈ [tree.insertPairs, columns.zip tree.values] := List.mem_cons_self
  exact ⟨by decide +kernel, hnotes, hperm, ofRow_of_perm tree hstored hnotes hperm⟩

end Tree

end AqlGateway
