import AqlGateway.Proofs.Text.Trim
import AqlGateway.Text.Split

/-!
# Joined texts

* `joinWith_cons` — one more text in front of joined ones;
* `joinWith_append` — two lists are joined one after the other;
* `joinWith_begins` — a joined text begins with the first text;
* `mem_joinWith` — what characters a joined text has;
* `IsSolid`, `isSolid_joinWith` — texts with no blank at either end are joined to one.
-/

namespace AqlGateway.Text

variable {separator : String}

theorem joinWith_cons {s : String} {l : List String} (hl : l ≠ []) :
    joinWith separator (s :: l) = s ++ separator ++ joinWith separator l := by
  cases l with
  | nil => exact absurd rfl hl
  | cons t l => rfl

theorem joinWith_append {l m : List String} (hl : l ≠ []) (hm : m ≠ []) :
    joinWith separator (l ++ m) = joinWith separator l ++ separator ++ joinWith separator m := by
  induction l with
  | nil => exact absurd rfl hl
  | cons s l ih =>
    by_cases h : l = []
    · subst h
      exact joinWith_cons hm
    · rw [List.cons_append, joinWith_cons (by simp [h]), ih h, joinWith_cons h]
      simp only [String.append_assoc]

/-- A joined list begins with its first member. -/
theorem joinWith_begins (separator s : String) (l : List String) :
    ∃ r, (joinWith separator (s :: l)).toList = s.toList ++ r := by
  by_cases h : l = []
  · exact ⟨[], by rw [h, List.append_nil]; rfl⟩
  · refine ⟨separator.toList ++ (joinWith separator l).toList, ?_⟩
    rw [joinWith_cons h, String.toList_append, String.toList_append, List.append_assoc]

/-- Every character of a joined text comes from one of the texts or from the separator. -/
theorem mem_joinWith {l : List String} {c : Char} (hc : c ∈ (joinWith separator l).toList) :
    (∃ s ∈ l, c ∈ s.toList) ∨ c ∈ separator.toList := by
  induction l with
  | nil => exact absurd hc (by simp [joinWith])
  | cons s l ih =>
    by_cases h : l = []
    · subst h
      exact .inl ⟨s, by simp, hc⟩
    · rw [joinWith_cons h, String.toList_append, String.toList_append, List.mem_append,
        List.mem_append] at hc
      rcases hc with (hc | hc) | hc
      · exact .inl ⟨s, by simp, hc⟩
      · exact .inr hc
      · rcases ih hc with ⟨t, ht, hct⟩ | hsep
        · exact .inl ⟨t, by simp [ht], hct⟩
        · exact .inr hsep

/-! ### Texts without blanks at their ends -/

/-- A text that has something to show at either end. -/
structure IsSolid (s : List Char) : Prop where
  ne_nil : s ≠ []
  first : Stops isBlank s
  last : Stops isBlank s.reverse

variable {s t : List Char}

theorem IsSolid.trim_eq (h : IsSolid s) : trim s = s := trim_eq_self h.first h.last

/-- What is left of a text that is not blank has no blanks at its ends. -/
theorem isSolid_trim (h : trim s ≠ []) : IsSolid (trim s) where
  ne_nil := h
  first := by
    obtain ⟨b, hb, -⟩ := trimEnd_spec (trimStart s)
    have hstop : Stops isBlank (trimStart s) := stops_dropWhile
    intro c hc
    refine hstop c ?_
    rw [hb, List.head?_append, Option.mem_def, Option.or_eq_some_iff]
    exact .inl hc
  last := by
    rw [trim, trimEnd, List.reverse_reverse]
    exact stops_dropWhile

/-- Trimming once is enough. -/
theorem trim_trim (s : List Char) : trim (trim s) = trim s := by
  by_cases h : trim s = []
  · rw [h]
    rfl
  · exact (isSolid_trim h).trim_eq

/-- What ends in a text without blanks at its ends has none behind. -/
theorem IsSolid.behind {u : List Char} (hs : IsSolid s) (hu : u ≠ []) (hfirst : Stops isBlank u) :
    IsSolid (u ++ s) where
  ne_nil := by simp [hs.ne_nil]
  first := stops_append hfirst hu
  last := stops_reverse_append hs.last hs.ne_nil

theorem IsSolid.around (hs : IsSolid s) (ht : IsSolid t) (m : List Char) :
    IsSolid (s ++ (m ++ t)) where
  ne_nil := by simp [hs.ne_nil]
  first := stops_append hs.first hs.ne_nil
  last := by
    rw [← List.append_assoc]
    exact stops_reverse_append ht.last ht.ne_nil

theorem isSolid_of_not_blank (hne : s ≠ []) (h : ∀ c ∈ s, isBlank c = false) : IsSolid s where
  ne_nil := hne
  first := fun c hc => h c (List.mem_of_mem_head? hc)
  last := fun c hc => h c (List.mem_reverse.mp (List.mem_of_mem_head? hc))

/-- What is joined of solid texts is solid. -/
theorem isSolid_joinWith {l : List String} (hl : l ≠ []) (h : ∀ s ∈ l, IsSolid s.toList) :
    IsSolid (joinWith separator l).toList := by
  induction l with
  | nil => exact absurd rfl hl
  | cons s l ih =>
    by_cases hrest : l = []
    · rw [hrest]
      exact h s (by simp)
    · rw [joinWith_cons hrest, String.toList_append, String.toList_append, List.append_assoc]
      exact (h s (by simp)).around (ih hrest fun t ht => h t (by simp [ht])) _

end AqlGateway.Text
