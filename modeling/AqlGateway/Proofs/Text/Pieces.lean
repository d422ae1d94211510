import AqlGateway.Text.Split

/-!
# Pieces between separators

* `splitOn_of_notMem`, `splitOn_append_separator` — where a text is split;
* `exists_piece` — a part without separators lies within one piece;
* `mem_splitOn` — every other character is in a piece;
* `SplitsInto`, `splitOn_eq_iff` — the pieces are the texts without separators that make up the text.
-/

namespace AqlGateway.Text

variable {separator : Char} {s w : List Char}

theorem splitOn_of_notMem (h : separator ∉ s) : splitOn separator s = [s] := by
  induction s with
  | nil => rfl
  | cons c s ih =>
    have hc : c ≠ separator := fun hc => h (by simp [hc])
    rw [splitOn, if_neg hc, ih fun hmem => h (by simp [hmem])]

/-- A separator ends the pieces in front of it. -/
theorem splitOn_append_separator (u s : List Char) :
    splitOn separator (u ++ separator :: s) = splitOn separator u ++ splitOn separator s := by
  induction u with
  | nil =>
    show splitOn separator (separator :: s) = [] :: splitOn separator s
    rw [splitOn, if_pos rfl]
  | cons c u ih =>
    rw [List.cons_append, splitOn, splitOn, ih]
    split
    · rfl
    · cases hu : splitOn separator u with
      | nil => exact absurd hu (splitOn_ne_nil separator u)
      | cons piece pieces => rfl

/-- The piece that a text goes on with behind a part without separators. -/
theorem splitOn_part (hw : separator ∉ w) (v : List Char) :
    ∃ p later, splitOn separator (w ++ v) = (w ++ p) :: later ∧ p <+: v := by
  by_cases hv : separator ∈ v
  · obtain ⟨p, later, rfl, hp⟩ := List.eq_append_cons_of_mem hv
    have hpart : separator ∉ w ++ p := by simp [hw, hp]
    refine ⟨p, splitOn separator later, ?_, List.prefix_append _ _⟩
    rw [← List.append_assoc, splitOn_append_separator, splitOn_of_notMem hpart]
    rfl
  · have hpart : separator ∉ w ++ v := by simp [hw, hv]
    exact ⟨v, [], splitOn_of_notMem hpart, List.prefix_rfl⟩

/-- A part without separators lies within one piece. -/
theorem exists_piece (hw : separator ∉ w) (u v : List Char) :
    ∃ p₁ p₂, p₁ ++ (w ++ p₂) ∈ splitOn separator (u ++ (w ++ v)) ∧ p₁ <:+ u ∧ p₂ <+: v := by
  by_cases hu : separator ∈ u
  · -- The piece begins behind the last separator of `u`.
    obtain ⟨p, earlier, hreverse, hp⟩ := List.eq_append_cons_of_mem (List.mem_reverse.mpr hu)
    have hsplit : u = earlier.reverse ++ separator :: p.reverse := by
      rw [← List.reverse_reverse u, hreverse]
      simp
    have hpart : separator ∉ p.reverse ++ w := by simp [hw, hp]
    obtain ⟨q, later, hq, hqv⟩ := splitOn_part hpart v
    refine ⟨p.reverse, q, ?_, ?_, hqv⟩
    · rw [hsplit, List.append_assoc, List.cons_append, splitOn_append_separator,
        ← List.append_assoc p.reverse, hq, ← List.append_assoc p.reverse]
      simp
    · rw [hsplit]
      exact ⟨earlier.reverse ++ [separator], by simp⟩
  · have hpart : separator ∉ u ++ w := by simp [hw, hu]
    obtain ⟨q, later, hq, hqv⟩ := splitOn_part hpart v
    refine ⟨u, q, ?_, List.suffix_rfl, hqv⟩
    rw [← List.append_assoc u, hq, ← List.append_assoc u]
    simp

/-- A character is a separator or stands in a piece. -/
theorem mem_splitOn {c : Char} (h : c ∈ s) :
    c = separator ∨ ∃ piece ∈ splitOn separator s, c ∈ piece := by
  by_cases hc : c = separator
  · exact .inl hc
  · obtain ⟨u, v, rfl⟩ := List.append_of_mem h
    have hw : separator ∉ [c] := by simp [Ne.symm hc]
    obtain ⟨p₁, p₂, hpiece, -, -⟩ := exists_piece hw u v
    exact .inr ⟨_, hpiece, by simp⟩

/-! ### What the pieces are -/

/-- A text is made of pieces, at least one, with a separator between them and none in them. -/
structure SplitsInto (separator : Char) (s : List Char) (pieces : List (List Char)) : Prop where
  ne_nil : pieces ≠ []
  apart : ∀ piece ∈ pieces, separator ∉ piece
  joined : s = [separator].intercalate pieces

theorem splitOn_eq (separator : Char) (s : List Char) :
    splitOn separator s = s.splitOn separator := by
  induction s with
  | nil => rfl
  | cons c s ih =>
    have hcons : (c :: s).splitOn separator
        = if (c == separator) = true then [] :: s.splitOn separator
          else (s.splitOn separator).modifyHead (c :: ·) :=
      List.splitOnP_cons_eq_if_modifyHead c s
    rw [splitOn, ih, hcons]
    simp only [beq_iff_eq]
    split
    · rfl
    · cases hs : s.splitOn separator with
      | nil => exact absurd (ih.trans hs) (splitOn_ne_nil separator s)
      | cons piece pieces => rfl

theorem notMem_of_mem_splitOn {piece : List Char} (h : piece ∈ splitOn separator s) :
    separator ∉ piece := by
  induction s generalizing piece with
  | nil =>
    rw [List.mem_singleton.mp h]
    exact List.not_mem_nil
  | cons c s ih =>
    rw [splitOn] at h
    split at h
    · rcases List.mem_cons.mp h with rfl | h
      · exact List.not_mem_nil
      · exact ih h
    · next hc =>
      cases hs : splitOn separator s with
      | nil => exact absurd hs (splitOn_ne_nil separator s)
      | cons first pieces =>
        rw [hs] at h ih
        rcases List.mem_cons.mp h with rfl | h
        · intro hmem
          rcases List.mem_cons.mp hmem with rfl | hmem
          · exact hc rfl
          · exact ih List.mem_cons_self hmem
        · exact ih (List.mem_cons_of_mem _ h)

/-- Splitting is the one way to take a text apart at all its separators. -/
theorem splitOn_eq_iff {pieces : List (List Char)} :
    splitOn separator s = pieces ↔ SplitsInto separator s pieces := by
  constructor
  · rintro rfl
    refine ⟨splitOn_ne_nil separator s, fun piece => notMem_of_mem_splitOn, ?_⟩
    rw [splitOn_eq, List.intercalate_splitOn]
  · rintro ⟨hne, hapart, rfl⟩
    rw [splitOn_eq, List.splitOn_intercalate separator hapart hne]

end AqlGateway.Text
