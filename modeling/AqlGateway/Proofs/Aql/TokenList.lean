import AqlGateway.Proofs.Aql.Rendering
import AqlGateway.Proofs.Aql.Sheltered

/-!
# Lists of tokens

Column names, placeholders and assignments are written into a statement one behind the other, with
commas between them.

* `IsToken` — the texts that stand in such a list;
* `isSolid_tokens`, `isClause_tokens`, `notMem_tokens` — such a list is trimmed already, it is a
  clause, and it has no other characters.
-/

namespace AqlGateway.Aql

open Text

/-- Letters, digits, underscores, and the signs of an assignment. -/
def isTokenChar (c : Char) : Bool := isWordChar c || c == '=' || c == '$'

/-- A text that stands in a list. -/
structure IsToken (t : String) : Prop where
  ne_nil : t.toList ≠ []
  chars : ∀ c ∈ t.toList, isTokenChar c = true

instance {t : String} : Decidable (IsToken t) :=
  decidable_of_iff (t.toList ≠ [] ∧ t.toList.all isTokenChar = true)
    ⟨fun h => ⟨h.1, List.all_eq_true.mp h.2⟩, fun h => ⟨h.ne_nil, List.all_eq_true.mpr h.chars⟩⟩

theorem isBlank_of_isTokenChar {c : Char} (h : isTokenChar c = true) : isBlank c = false := by
  rw [isTokenChar, Bool.or_eq_true, Bool.or_eq_true, beq_iff_eq, beq_iff_eq] at h
  rcases h with (h | rfl) | rfl
  · exact isBlank_of_isWordChar h
  · decide
  · decide

theorem IsToken.notMem {t : String} (h : IsToken t) {c : Char} (hc : isTokenChar c = false) :
    c ∉ t.toList := by
  intro hmem
  rw [h.chars c hmem] at hc
  exact absurd hc (by simp)

/-! ### Names, placeholders and assignments -/

theorem isTokenChar_of_isWordChar {c : Char} (h : isWordChar c = true) :
    isTokenChar c = true := by
  simp [isTokenChar, h]

theorem isTokenChar_of_mem_toDigits {n : Nat} {c : Char} (h : c ∈ Nat.toDigits 10 n) :
    isTokenChar c = true := by
  have hdigit := Nat.isDigit_of_mem_toDigits (by decide) (by decide) h
  exact isTokenChar_of_isWordChar (by simp [isWordChar, Char.isAlphanum, hdigit])

theorem isToken_of_isIdentifier {t : String} (h : isIdentifier t = true) : IsToken t :=
  ⟨(isIdentifier_iff.mp h).ne_nil,
    fun c hc => isTokenChar_of_isWordChar ((isIdentifier_iff.mp h).wordChar c hc)⟩

theorem isToken_placeholder (n : Nat) : IsToken (placeholder n) := by
  constructor
  · rw [toList_placeholder]
    exact List.cons_ne_nil _ _
  · intro c hc
    rw [toList_placeholder, List.mem_cons] at hc
    rcases hc with rfl | hc
    · decide
    · exact isTokenChar_of_mem_toDigits hc

theorem isToken_of_mem_placeholders {n count : Nat} {t : String} (h : t ∈ placeholders n count) :
    IsToken t := by
  induction count generalizing n with
  | zero => exact absurd h (by simp [placeholders])
  | succ count ih =>
    rw [placeholders, List.mem_cons] at h
    rcases h with rfl | h
    · exact isToken_placeholder (n + 1)
    · exact ih h

theorem isToken_assignment {column : String} (h : isIdentifier column = true) (n : Nat) :
    IsToken (column ++ "=" ++ placeholder n) := by
  constructor
  · simp
  · intro c hc
    rw [String.toList_append, String.toList_append, List.mem_append, List.mem_append] at hc
    rcases hc with (hc | hc) | hc
    · exact (isToken_of_isIdentifier h).chars c hc
    · rw [List.mem_singleton.mp hc]
      decide
    · exact (isToken_placeholder n).chars c hc

theorem mem_assignmentTexts {n : Nat} {assignments : List Assignment} {t : String}
    (h : t ∈ assignmentTexts n assignments) :
    ∃ a ∈ assignments, ∃ m, t = a.column ++ "=" ++ placeholder m := by
  induction assignments generalizing n with
  | nil => exact absurd h (by simp [assignmentTexts])
  | cons a rest ih =>
    rw [assignmentTexts, List.mem_cons] at h
    rcases h with rfl | h
    · exact ⟨a, by simp, n + 1, rfl⟩
    · obtain ⟨b, hb, m, ht⟩ := ih h
      exact ⟨b, by simp [hb], m, ht⟩

theorem isToken_of_mem_assignmentTexts {n : Nat} {assignments : List Assignment} {t : String}
    (hcolumns : ∀ a ∈ assignments, isIdentifier a.column = true)
    (h : t ∈ assignmentTexts n assignments) : IsToken t := by
  obtain ⟨a, ha, m, rfl⟩ := mem_assignmentTexts h
  exact isToken_assignment (hcolumns a ha) m

theorem assignmentTexts_ne_nil {n : Nat} {assignments : List Assignment} (h : assignments ≠ []) :
    assignmentTexts n assignments ≠ [] := by
  cases assignments with
  | nil => exact absurd rfl h
  | cons a rest => exact List.cons_ne_nil _ _

/-! ### Lists -/

section Lists

variable {l : List String}

theorem IsToken.isSolid {t : String} (h : IsToken t) : IsSolid t.toList :=
  isSolid_of_not_blank h.ne_nil fun c hc => isBlank_of_isTokenChar (h.chars c hc)

theorem isSolid_tokens (h : ∀ t ∈ l, IsToken t) (hl : l ≠ []) :
    IsSolid (joinWith ", " l).toList :=
  isSolid_joinWith hl fun t ht => (h t ht).isSolid

theorem IsToken.sheltered {t : String} (h : IsToken t) : Sheltered t.toList :=
  sheltered_plain (h.notMem (by decide)) (h.notMem (by decide))

/-- A list of tokens has nothing to trim. -/
theorem trim_tokens (h : ∀ t ∈ l, IsToken t) :
    trim (joinWith ", " l).toList = (joinWith ", " l).toList := by
  cases l with
  | nil => decide
  | cons t rest => exact (isSolid_tokens h (List.cons_ne_nil t rest)).trim_eq

/-- A list of tokens has no characters but theirs and those that join them. -/
theorem notMem_tokens (h : ∀ t ∈ l, IsToken t) {c : Char} (hc : isTokenChar c = false)
    (hcomma : c ∉ ", ".toList) : c ∉ (joinWith ", " l).toList := by
  intro hmem
  rcases mem_joinWith hmem with ⟨t, ht, hct⟩ | hsep
  · exact (h t ht).notMem hc hct
  · exact hcomma hsep

/-- A list of tokens is a clause. -/
theorem isClause_tokens (h : ∀ t ∈ l, IsToken t) (hl : l ≠ []) :
    IsClause (joinWith ", " l).toList :=
  isClause_joinWith hl (sheltered_plain (by decide) (by decide)) (fun t ht => (h t ht).isSolid)
    fun t ht => (h t ht).sheltered

end Lists

end AqlGateway.Aql
