import AqlGateway.Text.Split

/-!
# First occurrences

* `NotBefore` — a pattern that begins nowhere inside the first part of a text;
* `breakAt?_eq_some_iff` — a text is cut in front of the first occurrence of the pattern;
* `breakAt?_eq_none_iff` — a text is not cut when the pattern does not occur in it;
* `NotBefore.append`, `notBefore_of_notMem` — how the first part is put together.
-/

namespace AqlGateway.Text

/-- The pattern begins nowhere in the part `a` of the text `a ++ s`. -/
def NotBefore (pattern a s : List Char) : Prop :=
  ∀ u v, a = u ++ v → v ≠ [] → ¬ pattern <+: v ++ s

variable {pattern a b s : List Char}

theorem notBefore_nil : NotBefore pattern [] s := by
  intro u v h hv
  have := (List.nil_eq_append_iff.mp h).2
  exact absurd this hv

/-- A pattern begins nowhere if it does not begin here, nor further on. -/
theorem notBefore_cons {c : Char} :
    NotBefore pattern (c :: a) s ↔ ¬ pattern <+: c :: (a ++ s) ∧ NotBefore pattern a s := by
  constructor
  · intro h
    refine ⟨h [] (c :: a) rfl (by simp), ?_⟩
    intro u v huv hv
    exact h (c :: u) v (by simp [huv]) hv
  · rintro ⟨hhead, htail⟩ u v huv hv
    cases u with
    | nil =>
      rw [List.nil_append] at huv
      subst huv
      exact hhead
    | cons d u =>
      rw [List.cons_append, List.cons.injEq] at huv
      exact htail u v huv.2 hv

/-- What occurs in neither part occurs nowhere before the end of the second one. -/
theorem NotBefore.append (ha : NotBefore pattern a (b ++ s)) (hb : NotBefore pattern b s) :
    NotBefore pattern (a ++ b) s := by
  induction a with
  | nil => exact hb
  | cons c a ih =>
    obtain ⟨hhead, htail⟩ := notBefore_cons.mp ha
    rw [List.cons_append, notBefore_cons, List.append_assoc]
    exact ⟨hhead, ih htail⟩

/-- A pattern begins nowhere in a text that lacks its first character. -/
theorem notBefore_of_notMem {c : Char} (h : c ∉ a) : NotBefore (c :: pattern) a s := by
  intro u v huv hv hprefix
  cases v with
  | nil => exact hv rfl
  | cons d v =>
    have hcd : c = d := (List.cons_prefix_cons.mp hprefix).1
    exact h (by simp [huv, hcd])

theorem notMem_of_notBefore {c : Char} (h : NotBefore [c] a s) : c ∉ a := by
  intro hmem
  obtain ⟨u, v, rfl⟩ := List.append_of_mem hmem
  exact h u (c :: v) rfl (by simp) ⟨v ++ s, rfl⟩

theorem not_infix_of_notBefore (hne : pattern ≠ []) (h : NotBefore pattern a []) :
    ¬ pattern <:+: a := by
  rintro ⟨u, v, rfl⟩
  exact h u (pattern ++ v) (List.append_assoc u pattern v) (by simp [hne]) ⟨v, by simp⟩

theorem notBefore_of_absent (h : ¬ pattern <:+: a ++ s) : NotBefore pattern a s := by
  rintro u v rfl - ⟨r, hr⟩
  exact h ⟨u, r, by rw [List.append_assoc, hr, List.append_assoc]⟩

/-- What stands behind the first occurrence does not matter. -/
theorem NotBefore.of_prefix (h : NotBefore pattern a (pattern ++ s)) (r : List Char) :
    NotBefore pattern a (pattern ++ r) := by
  rintro u v rfl hne hprefix
  refine h u v rfl hne ?_
  have hlength : pattern.length ≤ (v ++ pattern).length := by simp
  rw [← List.append_assoc] at hprefix ⊢
  exact (List.prefix_of_prefix_length_le hprefix (List.prefix_append _ _) hlength).trans
    (List.prefix_append _ _)

/-- A text is cut in front of the first occurrence of the pattern. -/
theorem breakAt?_eq_some_iff {r : List Char} :
    breakAt? pattern s = some (a, r) ↔ s = a ++ r ∧ pattern <+: r ∧ NotBefore pattern a r := by
  induction s generalizing a with
  | nil =>
    rw [breakAt?]
    constructor
    · intro h
      split at h
      · next hp =>
        obtain ⟨rfl, rfl⟩ := Prod.mk.inj (Option.some.inj h)
        exact ⟨rfl, by simpa using hp, notBefore_nil⟩
      · exact absurd h (by simp)
    · rintro ⟨h, hp, -⟩
      obtain ⟨rfl, rfl⟩ := List.nil_eq_append_iff.mp h
      rw [if_pos (by simpa using hp)]
  | cons c s ih =>
    rw [breakAt?]
    -- The pattern begins here, or the first character goes in front of what is cut further on.
    by_cases hp : pattern <+: c :: s
    · rw [if_pos (List.isPrefixOf_iff_prefix.mpr hp)]
      constructor
      · intro h
        obtain ⟨rfl, rfl⟩ := Prod.mk.inj (Option.some.inj h)
        exact ⟨rfl, hp, notBefore_nil⟩
      · rintro ⟨h, -, hnot⟩
        cases a with
        | nil => rw [h, List.nil_append]
        | cons d a =>
          rw [List.cons_append] at h
          exact absurd (h ▸ hp) (notBefore_cons.mp hnot).1
    · rw [if_neg (fun h => hp (List.isPrefixOf_iff_prefix.mp h))]
      constructor
      · intro h
        obtain ⟨⟨before, rest⟩, hbreak, heq⟩ := Option.map_eq_some_iff.mp h
        obtain ⟨rfl, rfl⟩ := Prod.mk.inj heq
        obtain ⟨hs, hrest, hnot⟩ := ih.mp hbreak
        refine ⟨by rw [List.cons_append, ← hs], hrest, notBefore_cons.mpr ⟨?_, hnot⟩⟩
        rw [← hs]
        exact hp
      · rintro ⟨h, hrest, hnot⟩
        cases a with
        | nil =>
          rw [List.nil_append] at h
          exact absurd (h ▸ hrest) hp
        | cons d a =>
          rw [List.cons_append, List.cons.injEq] at h
          obtain ⟨rfl, hs⟩ := h
          rw [ih.mpr ⟨hs, hrest, (notBefore_cons.mp hnot).2⟩]
          rfl

/-- A text is not cut when the pattern does not occur in it. -/
theorem breakAt?_eq_none_iff : breakAt? pattern s = none ↔ ¬ pattern <:+: s := by
  induction s with
  | nil =>
    rw [breakAt?]
    by_cases hp : pattern = []
    · simp [hp]
    · simp [hp]
  | cons c s ih =>
    rw [breakAt?, List.infix_cons_iff, ← List.isPrefixOf_iff_prefix]
    by_cases hp : pattern.isPrefixOf (c :: s) = true
    · simp [hp]
    · simp [hp, ih]

end AqlGateway.Text
