import AqlGateway.Proofs.Binary64.Whole
import AqlGateway.Proofs.Tree.Row
import AqlGateway.Tree.Record

/-!
# Integers in records and rows

A row keeps an integer as it is. The integer of a record is read like every other number, as the whole part
of a double, and comes through as far as a double keeps it.

* `HoldsInteger` — a record has an integer under a key;
* `KeptByDouble` — the integers that a double keeps;
* `getInteger_of_holds` — what is read of an integer is the whole part of the double next to it;
* `integers_agree_iff` — a record and a row that hold the same integer are read alike exactly if a double
  keeps it.
-/

namespace AqlGateway

/-- A record has the integer `n` under a key. -/
def HoldsInteger (record : Record) (key : String) (n : Int64) : Prop :=
  ∃ i : JsonInteger, i.value = n.toInt ∧ Json.lookup? key record = some (.integer i)

/-- Integers with 53 bits and zeros alone behind them, and the largest of all: its double lies beyond the
range, and is read back as the end of the range. -/
def KeptByDouble (n : Int64) : Prop := Binary64.Representable n.toInt.natAbs ∨ n = Int64.maxValue

variable {record : Record} {row : Row} {key column : String} {n : Int64}

/-- What is read of an integer is the whole part of the double next to it. -/
theorem getInteger_of_holds (h : HoldsInteger record key n) :
    getInteger record key = (Binary64.ofInt n.toInt).truncate := by
  obtain ⟨i, hvalue, hlookup⟩ := h
  rw [getInteger, hlookup, ← hvalue]
  rfl

/-- An integer of a record is read as it is exactly when a double keeps it. -/
theorem getInteger_eq_iff (h : HoldsInteger record key n) : getInteger record key = n ↔ KeptByDouble n := by
  rw [getInteger_of_holds h, Binary64.truncate_ofInt_eq_iff, KeptByDouble]

theorem rowInteger_of_get (h : row.get? column = some (.integer n)) : Tree.rowInteger row column = n := by
  rw [Tree.rowInteger, h]
  rfl

/-- An integer of a record is read as it is exactly if a double keeps it, and never more than 512 off. So
the age and the health of a tree are the same, read from a record and from a row that hold the same
integers, exactly if doubles keep these. -/
theorem integers_agree_iff (record : Record) (row : Row) (n : Int64) :
    (∀ key, HoldsInteger record key n → (getInteger record key = n ↔ KeptByDouble n) ∧
      ((getInteger record key).toInt - n.toInt).natAbs ≤ 512) ∧
    (HoldsInteger record "age_years" n → row.get? "age_years" = some (.integer n) →
      ((Tree.ofRecord record).ageYears = (Tree.ofRow row).ageYears ↔ KeptByDouble n)) ∧
    (HoldsInteger record "health_score" n → row.get? "health_score" = some (.integer n) →
      ((Tree.ofRecord record).healthScore = (Tree.ofRow row).healthScore ↔ KeptByDouble n)) := by
  refine ⟨fun key hrecord => ⟨getInteger_eq_iff hrecord, ?_⟩, fun hrecord hrow => ?_, fun hrecord hrow => ?_⟩
  · rw [getInteger_of_holds hrecord]
    exact Binary64.truncate_ofInt_near n
  · show getInteger record "age_years" = Tree.rowInteger row "age_years" ↔ _
    rw [rowInteger_of_get hrow]
    exact getInteger_eq_iff hrecord
  · show getInteger record "health_score" = Tree.rowInteger row "health_score" ↔ _
    rw [rowInteger_of_get hrow]
    exact getInteger_eq_iff hrecord

/-- Beyond `2⁵³` every other integer is kept at first, and at the end of the range the largest one. -/
theorem integers_agree_even :
    let record : Record := [("age_years", .integer ⟨9007199254740994, by decide⟩),
      ("health_score", .integer ⟨9223372036854775807, by decide⟩)]
    let row : Row := .ofPairs [("age_years", .integer 9007199254740994),
      ("health_score", .integer 9223372036854775807)]
    HoldsInteger record "age_years" 9007199254740994 ∧
      row.get? "age_years" = some (.integer 9007199254740994) ∧
      getInteger record "age_years" = 9007199254740994 ∧
      (Tree.ofRecord record).ageYears = (Tree.ofRow row).ageYears ∧
      (Tree.ofRecord record).healthScore = (Tree.ofRow row).healthScore := by
  intro record row
  have hage : HoldsInteger record "age_years" 9007199254740994 := ⟨_, by decide, rfl⟩
  have hhealth : HoldsInteger record "health_score" 9223372036854775807 := ⟨_, by decide, rfl⟩
  have hrow : row.get? "age_years" = some (.integer 9007199254740994) := rfl
  have heven : KeptByDouble 9007199254740994 := .inl ⟨4503599627370497, 1, by decide, by decide⟩
  have hread := integers_agree_iff record row 9007199254740994
  have hlargest := integers_agree_iff record row 9223372036854775807
  exact ⟨hage, hrow, (hread.1 _ hage).1.mpr heven, (hread.2.1 hage hrow).mpr heven,
    (hlargest.2.2 hhealth rfl).mpr (.inr (by decide))⟩

/-- The first integer that a double does not keep is read from a record as the one before it. -/
theorem integer_lost :
    let record : Record := [("age_years", .integer ⟨9007199254740993, by decide⟩)]
    let row : Row := .ofPairs [("age_years", .integer 9007199254740993)]
    HoldsInteger record "age_years" 9007199254740993 ∧
      row.get? "age_years" = some (.integer 9007199254740993) ∧
      getInteger record "age_years" = 9007199254740992 ∧
      (Tree.ofRecord record).ageYears = 9007199254740992 ∧
      (Tree.ofRow row).ageYears = 9007199254740993 := by
  intro record row
  have hread : getInteger record "age_years" = 9007199254740992 := by decide +kernel
  have htree : (Tree.ofRecord record).ageYears = 9007199254740992 := by decide +kernel
  exact ⟨⟨_, by decide, rfl⟩, rfl, hread, htree, rfl⟩

end AqlGateway
