import AqlGateway.Proofs.Aql.Clause
import AqlGateway.Proofs.Aql.Identifier
import AqlGateway.Proofs.Text.Join
import AqlGateway.Proofs.Text.Occurrence
import AqlGateway.Proofs.Text.Pieces

/-!
# Checked column lists

* `validateColumns_eq_ok_iff` — the column lists that pass the check;
* `validateColumns_eq_error_iff` — the others fail with their first item that is no identifier;
* `mem_columns` — the characters of those that pass;
* `isClause_columns` — they are clauses;
* `notBefore_dari` — the word ` DARI ` does not occur in them, unless an item is that word.
-/

namespace AqlGateway.Aql

open Text

variable {columns : String} {s : List Char}

theorem validateColumns_eq_ok_iff :
    validateColumns columns = .ok () ↔
      isWholeRow (trim columns.toList) = true ∨
        ∀ item ∈ listItems (trim columns.toList), isIdentifier item = true := by
  rw [validateColumns]
  by_cases h : isWholeRow (trim columns.toList) = true
  · simp [h]
  · simp [h, validateIdentifiers_eq_ok_iff]

/-- A list fails with its first item that is no identifier. -/
theorem validateColumns_eq_error_iff {e : Error} :
    validateColumns columns = .error e ↔ isWholeRow (trim columns.toList) = false ∧
      ∃ before item after, listItems (trim columns.toList) = before ++ item :: after ∧
        (∀ t ∈ before, isIdentifier t = true) ∧ isIdentifier item = false ∧
        e = .invalidIdentifier item := by
  rw [validateColumns]
  by_cases h : isWholeRow (trim columns.toList) = true
  · simp [h]
  · simp [h, validateIdentifiers_eq_error_iff]

theorem isWholeRow_iff :
    isWholeRow s = true ↔ s = ['*'] ∨ s.map Char.toUpper = "COUNT(*)".toList := by
  rw [isWholeRow, Bool.or_eq_true, beq_iff_eq, beq_iff_eq]
  exact Iff.rfl

/-! ### The characters of a list -/

/-- A list that asks for everything has no character but those of `COUNT(*)`, in any case. -/
theorem toUpper_of_isWholeRow (h : isWholeRow s = true) {c : Char} (hc : c ∈ s) :
    c.toUpper ∈ "COUNT(*)".toList := by
  rcases isWholeRow_iff.mp h with rfl | h
  · rw [List.mem_singleton.mp hc]
    decide
  · have hmap : c.toUpper ∈ s.map Char.toUpper := List.mem_map_of_mem hc
    rwa [h] at hmap

/-- The pieces of a list of names are names between blanks. -/
theorem isName_of_piece (h : ∀ item ∈ listItems s, isIdentifier item = true) {piece : List Char}
    (hpiece : piece ∈ splitOn ',' s) : IsName (trim piece) := by
  have hitem := h (String.ofList (trim piece)) (List.mem_map_of_mem hpiece)
  rw [isIdentifier_iff, String.toList_ofList] at hitem
  exact hitem

/-- A checked list has words, blanks and commas only, unless it asks for everything. -/
theorem mem_columns (h : validateColumns columns = .ok ()) {c : Char} (hc : c ∈ columns.toList)
    (hblank : isBlank c = false) :
    isWholeRow (trim columns.toList) = true ∧ c ∈ trim columns.toList ∨
      isWordChar c = true ∨ c = ',' := by
  have htrim : c ∈ trim columns.toList := (mem_trim_of_not_blank hblank).mpr hc
  rcases validateColumns_eq_ok_iff.mp h with hrow | hitems
  · exact .inl ⟨hrow, htrim⟩
  · rcases mem_splitOn htrim with hcomma | ⟨piece, hpiece, hmem⟩
    · exact .inr (.inr hcomma)
    · have hname := isName_of_piece hitems hpiece
      exact .inr (.inl (hname.wordChar c ((mem_trim_of_not_blank hblank).mpr hmem)))

/-- A character with no place in names, blanks, commas and `COUNT(*)` is in no checked list. -/
theorem notMem_columns (h : validateColumns columns = .ok ()) {c : Char}
    (hblank : isBlank c = false) (hword : isWordChar c = false) (hcomma : c ≠ ',')
    (hcount : c.toUpper ∉ "COUNT(*)".toList) : c ∉ columns.toList := by
  intro hmem
  rcases mem_columns h hmem hblank with ⟨hrow, htrim⟩ | hc | hc
  · exact hcount (toUpper_of_isWholeRow hrow htrim)
  · rw [hword] at hc
    exact absurd hc (by simp)
  · exact hcomma hc

theorem trim_columns_ne_nil (h : validateColumns columns = .ok ()) :
    trim columns.toList ≠ [] := by
  intro hnil
  rw [validateColumns, hnil] at h
  exact absurd h (by decide)

/-- A checked list can stand in a statement as a clause. -/
theorem isClause_columns (h : validateColumns columns = .ok ()) : IsClause columns.toList :=
  isClause_of_plain (trim_columns_ne_nil h)
    (notMem_columns h (by decide) (by decide) (by decide) (by decide))
    (notMem_columns h (by decide) (by decide) (by decide) (by decide))

/-! ### The word behind a list -/

/-- Where ` DARI ` begins in a text in front of another ` DARI `, the word stands in that text. -/
theorem dari_of_begins {v rest : List Char} (hne : v ≠ [])
    (h : " DARI ".toList <+: v ++ (" DARI ".toList ++ rest)) :
    ∃ v', v = " DARI".toList ++ v' ∧ ∀ c ∈ v'.head?, c = ' ' := by
  have hlong : " DARI ".toList = [' ', 'D', 'A', 'R', 'I', ' '] := by decide
  have hshort : " DARI".toList = [' ', 'D', 'A', 'R', 'I'] := by decide
  rw [hlong] at h
  rw [hshort]
  rcases v with _ | ⟨a, _ | ⟨b, _ | ⟨c, _ | ⟨d, _ | ⟨e, _ | ⟨f, v⟩⟩⟩⟩⟩⟩
  · exact absurd rfl hne
  all_goals
    simp only [List.cons_append, List.nil_append, List.cons_prefix_cons] at h
  · simp at h
  · simp at h
  · simp at h
  · simp at h
  · obtain ⟨rfl, rfl, rfl, rfl, rfl, -⟩ := h
    exact ⟨[], rfl, by simp⟩
  · obtain ⟨rfl, rfl, rfl, rfl, rfl, rfl, -⟩ := h
    exact ⟨' ' :: v, rfl, by simp⟩

/-- A part of a checked list lies within one of its items, unless there is a comma in it. -/
theorem exists_item (h : validateColumns columns = .ok ()) {u w v : List Char}
    (htext : trim columns.toList = trim (u ++ (w ++ v))) (hw : IsSolid w) (hcomma : ',' ∉ w)
    {c : Char} (hc : c ∈ w) (hcount : c.toUpper ∉ "COUNT(*)".toList) :
    ∃ p₁ p₂, String.ofList (trim (p₁ ++ (w ++ p₂))) ∈ listItems (trim columns.toList) ∧
      IsName (trim (p₁ ++ (w ++ p₂))) ∧ p₁ <:+ trimStart u ∧ p₂ <+: trimEnd v := by
  rw [trim_around hw.ne_nil hw.first hw.last] at htext
  rcases validateColumns_eq_ok_iff.mp h with hrow | hitems
  · -- No list that asks for everything has the character.
    have hmem : c ∈ trim columns.toList := by
      rw [htext]
      simp [hc]
    exact absurd (toUpper_of_isWholeRow hrow hmem) hcount
  · obtain ⟨p₁, p₂, hpiece, hp₁, hp₂⟩ := exists_piece hcomma (trimStart u) (trimEnd v)
    rw [← htext] at hpiece
    exact ⟨p₁, p₂, List.mem_map_of_mem hpiece, isName_of_piece hitems hpiece, hp₁, hp₂⟩

/-- A checked list in which the word `DARI` stands between blanks has it as an item. -/
theorem dari_mem_listItems (h : validateColumns columns = .ok ()) {u v : List Char}
    (htext : trim columns.toList = trim (u ++ [' '] ++ ("DARI".toList ++ v)))
    (hv : ∀ c ∈ v.head?, isBlank c = true) : "DARI" ∈ listItems (trim columns.toList) := by
  have hdari : IsName "DARI".toList := isIdentifier_iff.mp (by decide)
  have hword : ∀ c ∈ "DARI".toList, isBlank c = false := fun c hc =>
    isBlank_of_isWordChar (hdari.wordChar c hc)
  have hu : ∀ c ∈ (u ++ [' ']).getLast?, isBlank c = true := by
    simp
    decide
  obtain ⟨p₁, p₂, hitem, hname, hp₁, hp₂⟩ := exists_item h htext
    (isSolid_of_not_blank hdari.ne_nil hword) (by decide) (show 'D' ∈ "DARI".toList by decide)
    (by decide)
  have hblank : ∀ c ∈ trim (p₁ ++ ("DARI".toList ++ p₂)), isBlank c = false := fun c hc =>
    isBlank_of_isWordChar (hname.wordChar c hc)
  have hfront : ∀ c ∈ p₁.getLast?, isBlank c = true := by
    obtain ⟨x, hx⟩ := hp₁.trans (List.dropWhile_suffix isBlank)
    intro c hc
    rw [← hx, List.getLast?_append, hc] at hu
    exact hu c rfl
  have hback : ∀ c ∈ p₂.head?, isBlank c = true := by
    obtain ⟨b, hb, -⟩ := trimEnd_spec v
    obtain ⟨y, hy⟩ := hp₂
    intro c hc
    rw [hb, ← hy, List.append_assoc, List.head?_append, hc] at hv
    exact hv c rfl
  rwa [trim_eq_word hdari.ne_nil hword hfront hback hblank, String.ofList_toList] at hitem

/-- The word behind a checked list is the first of its kind. -/
theorem notBefore_dari (h : validateColumns columns = .ok ())
    (hitem : "DARI" ∉ listItems (trim columns.toList)) {w c : List Char}
    (hcolumns : columns.toList = w ++ c) (hw : ∀ d ∈ w, isBlank d = true) (rest : List Char) :
    NotBefore " DARI ".toList c (" DARI ".toList ++ rest) := by
  intro u v hc hne hprefix
  obtain ⟨v', rfl, hv'⟩ := dari_of_begins hne hprefix
  have hblank : ∀ c ∈ v'.head?, isBlank c = true := by
    intro c hc
    rw [hv' c hc]
    decide
  refine hitem (dari_mem_listItems h (u := u) (v := v') ?_ hblank)
  have hspace : " DARI".toList = [' '] ++ "DARI".toList := by decide
  rw [hcolumns, trim_blanks_append hw, hc, hspace]
  simp only [List.append_assoc]

end AqlGateway.Aql
