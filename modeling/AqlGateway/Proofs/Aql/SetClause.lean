import AqlGateway.Proofs.Aql.TokenList
import AqlGateway.Proofs.Text.Occurrence

/-!
# The word behind a set clause

The set clause of an update reaches up to the first ` DIMANA `, wherever that stands.

* `BeginsAssignment` — the texts of assignments, by their beginning;
* `notBefore_joined` — assignments without the word are joined to a text without it;
* `cutInside_assignments` — the first assignment with the word cuts the set clause inside a literal;
* `notBefore_dimana`, `notBefore_literal`, `cutInside_literal` — placeholders and most literals are
  without the word, and the other literals are cut by it.
-/

namespace AqlGateway.Aql

open Text

/-- A text that begins with a column and the sign behind it. -/
def BeginsAssignment (t : String) : Prop :=
  ∃ column r, isIdentifier column = true ∧ t.toList = column.toList ++ '=' :: r

/-! ### Between assignments -/

/-- No column with an equals sign behind it reads as the word and a space. -/
theorem not_begins_dimana {column : String} (h : isIdentifier column = true) (r : List Char) :
    ¬ "DIMANA ".toList <+: column.toList ++ '=' :: r := by
  rintro ⟨y, hy⟩
  have hword : "DIMANA ".toList ++ y = "DIMANA".toList ++ ' ' :: y := by
    rw [show "DIMANA ".toList = "DIMANA".toList ++ [' '] by decide, List.append_assoc]
    rfl
  rw [hword] at hy
  have hdimana : IsName "DIMANA".toList := isIdentifier_iff.mp (by decide)
  have hrest := (run_unique hdimana.wordChar (stops_cons.mpr (by decide))
    (isIdentifier_iff.mp h).wordChar (stops_cons.mpr (by decide)) hy).2
  exact absurd (List.cons.inj hrest).1 (by decide)

theorem dimana_eq_cons : " DIMANA ".toList = ' ' :: "DIMANA ".toList := by decide

/-- A separator that has the word begin in it only when the word goes on behind it. -/
def Separates (separator : String) : Prop :=
  ∀ s, ¬ "DIMANA ".toList <+: s → NotBefore " DIMANA ".toList separator.toList s

theorem separates_comma : Separates ", " := by
  intro s hs
  have hcomma : ", ".toList = [','] ++ [' '] := by decide
  rw [hcomma, dimana_eq_cons]
  exact (notBefore_of_notMem (by decide)).append
    (notBefore_cons.mpr ⟨fun h => hs (List.cons_prefix_cons.mp h).2, notBefore_nil⟩)

theorem separates_and : Separates " AND " := by
  intro s hs
  have hand : " AND ".toList = [' '] ++ (['A', 'N', 'D'] ++ [' ']) := by decide
  rw [hand, dimana_eq_cons]
  refine NotBefore.append (notBefore_cons.mpr ⟨fun h => ?_, notBefore_nil⟩)
    ((notBefore_of_notMem (by decide)).append
      (notBefore_cons.mpr ⟨fun h => hs (List.cons_prefix_cons.mp h).2, notBefore_nil⟩))
  exact absurd (List.cons_prefix_cons.mp (List.cons_prefix_cons.mp h).2).1 (by decide)

variable {l : List String} {t separator : String}

/-- No list of assignments begins with the word of a condition. -/
theorem not_dimana_joined (separator : String) (h : BeginsAssignment t) (l : List String)
    (tail : List Char) :
    ¬ "DIMANA ".toList <+: (joinWith separator (t :: l)).toList ++ tail := by
  obtain ⟨column, r, hcolumn, ht⟩ := h
  obtain ⟨more, hmore⟩ := joinWith_begins separator t l
  have hbegins : (joinWith separator (t :: l)).toList ++ tail
      = column.toList ++ '=' :: (r ++ (more ++ tail)) := by
    rw [hmore, ht]
    simp only [List.append_assoc, List.cons_append]
  rw [hbegins]
  exact not_begins_dimana hcolumn _

/-! ### Joined assignments -/

/-- When no assignment holds the word of a condition, their list does not, nor does what joins
them. -/
theorem notBefore_joined (hseparator : Separates separator) (hbegins : ∀ t ∈ l, BeginsAssignment t)
    (hnot : ∀ t ∈ l, ∀ r, NotBefore " DIMANA ".toList t.toList r) (tail : List Char) :
    NotBefore " DIMANA ".toList (joinWith separator l).toList tail := by
  induction l with
  | nil => exact notBefore_nil
  | cons t rest ih =>
    have htail := ih (fun u hu => hbegins u (by simp [hu])) fun u hu => hnot u (by simp [hu])
    cases rest with
    | nil => exact hnot t (by simp) tail
    | cons u rest =>
      have hbetween := hseparator _ (not_dimana_joined separator (hbegins u (by simp)) rest tail)
      rw [joinWith_cons (by simp), String.toList_append, String.toList_append]
      exact ((hnot t (by simp) _).append hbetween).append htail

/-- The assignments in front of the first one with the word have closed all their literals. -/
theorem cutInside_assignments (hbegins : ∀ t ∈ l, BeginsAssignment t)
    (hsheltered : ∀ t ∈ l, Sheltered t.toList)
    (heach : ∀ t ∈ l, CutInside " DIMANA ".toList t.toList ∨
      ∀ r, NotBefore " DIMANA ".toList t.toList r)
    (hsome : ∃ t ∈ l, CutInside " DIMANA ".toList t.toList) :
    CutInside " DIMANA ".toList (joinWith ", " l).toList := by
  induction l with
  | nil =>
    obtain ⟨t, ht, -⟩ := hsome
    exact absurd ht (by simp)
  | cons t rest ih =>
    -- The first text that holds the word decides. What is in front of it has closed its quotes,
    -- and no word begins where two texts are joined.
    by_cases hcut : CutInside " DIMANA ".toList t.toList
    · obtain ⟨more, hmore⟩ := joinWith_begins ", " t rest
      rw [hmore]
      exact hcut.append_right more
    · have hnot := (heach t (by simp)).resolve_left hcut
      have hlater : ∃ u ∈ rest, CutInside " DIMANA ".toList u.toList := by
        obtain ⟨u, hu, hucut⟩ := hsome
        rcases List.mem_cons.mp hu with rfl | hu
        · exact absurd hucut hcut
        · exact ⟨u, hu, hucut⟩
      have htail := ih (fun u hu => hbegins u (by simp [hu])) (fun u hu => hsheltered u (by simp [hu]))
        (fun u hu => heach u (by simp [hu])) hlater
      have hclosed : Sheltered (t.toList ++ ", ".toList) :=
        (hsheltered t (by simp)).append (sheltered_plain (by decide) (by decide))
      cases rest with
      | nil =>
        obtain ⟨u, hu, -⟩ := hlater
        exact absurd hu (by simp)
      | cons u rest =>
        rw [joinWith_cons (by simp), String.toList_append, String.toList_append]
        refine htail.append_left (fun r => ?_) hclosed.even_quotes
        have hnext := not_dimana_joined ", " (hbegins u (by simp)) rest r
        exact (hnot _).append (separates_comma _ hnext)

/-! ### Assignments of placeholders and of literals -/

theorem beginsAssignment_append {column : String} (h : isIdentifier column = true) (value : String) :
    BeginsAssignment (column ++ "=" ++ value) := by
  refine ⟨column, value.toList, h, ?_⟩
  rw [String.toList_append, String.toList_append, List.append_assoc]
  rfl

/-- The word begins nowhere in assignments of placeholders. -/
theorem notBefore_dimana {assignments : List Assignment}
    (hcolumns : ∀ a ∈ assignments, isIdentifier a.column = true) (n : Nat) (tail : List Char) :
    NotBefore " DIMANA ".toList (joinWith ", " (assignmentTexts n assignments)).toList tail := by
  refine notBefore_joined separates_comma ?_ ?_ tail
  · intro t ht
    obtain ⟨a, ha, m, rfl⟩ := mem_assignmentTexts ht
    exact beginsAssignment_append (hcolumns a ha) (placeholder m)
  · intro t ht r
    rw [dimana_eq_cons]
    exact notBefore_of_notMem ((isToken_of_mem_assignmentTexts hcolumns ht).notMem (by decide))

def HoldsDimana : Value → Prop
  | .text s => " DIMANA ".toList <:+: s.toList
  | _ => False

instance : (v : Value) → Decidable (HoldsDimana v)
  | .text s => inferInstanceAs (Decidable (" DIMANA ".toList <:+: s.toList))
  | .null | .integer _ | .real _ | .boolean _ | .date _ | .timestamp _ => isFalse id

theorem notMem_literal {v : Value} (h : ∀ s, v ≠ .text s) : ' ' ∉ v.literal.toList := by
  have hspace : ' ' ∉ v.shown.toList := (isBare_shown h).notMem (by decide)
  rcases literal_of_not_text h with hbare | hquoted
  · rwa [hbare]
  · rw [hquoted]
    simp [hspace]

/-- A literal holds the word of a condition only if its text does. -/
theorem notBefore_literal {v : Value} (h : ¬ HoldsDimana v) (r : List Char) :
    NotBefore " DIMANA ".toList v.literal.toList r := by
  cases v with
  | text s => exact notBefore_quoteText (by decide) (by decide) h
  | _ =>
    rw [dimana_eq_cons]
    exact notBefore_of_notMem (notMem_literal (by simp))

theorem cutInside_literal {v : Value} (h : HoldsDimana v) :
    CutInside " DIMANA ".toList v.literal.toList := by
  cases v with
  | text s => exact cutInside_quoteText (by decide) (by decide) h
  | _ => exact absurd h id

end AqlGateway.Aql
