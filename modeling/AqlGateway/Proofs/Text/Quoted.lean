import Mathlib.Algebra.Ring.Parity
import AqlGateway.Proofs.Text.Occurrence
import AqlGateway.Text.Quoted

/-!
# Searching in quoted literals

A pattern without quotes is found in a literal where it is found in the text of the literal.

* `doubled_append`, `even_count_doubled` — literals of joined texts, and their quotes;
* `prefix_doubled_iff` — a pattern begins a literal's inside exactly when it begins the text;
* `notBefore_doubled` — it begins nowhere earlier than in the text;
* `notBefore_quoteText` — the literal of a text without the pattern has it nowhere;
* `CutInside`, `cutInside_quoteText` — that of a text with the pattern has it first behind an odd
  number of quotes.
-/

namespace AqlGateway.Text

variable {pattern s t r : List Char}

theorem doubled_append (s t : List Char) : doubled (s ++ t) = doubled s ++ doubled t := by
  induction s with
  | nil => rfl
  | cons c s ih =>
    rw [List.cons_append, doubled, doubled, ih]
    split <;> rfl

theorem doubled_of_notMem (h : '\'' ∉ s) : doubled s = s := by
  induction s with
  | nil => rfl
  | cons c s ih =>
    have hc : c ≠ '\'' := fun hc => h (by simp [hc])
    rw [doubled, if_neg hc, ih fun hmem => h (by simp [hmem])]

/-- Doubled quotes are even in number. -/
theorem even_count_doubled (s : List Char) : Even ((doubled s).count '\'') := by
  induction s with
  | nil => exact Even.zero
  | cons c s ih =>
    rw [doubled]
    split
    · rw [List.count_cons_self, List.count_cons_self]
      exact ih.add even_two
    · next hc => rwa [List.count_cons_of_ne hc]

theorem toList_quoteText (s : String) :
    (quoteText s).toList = '\'' :: (doubled s.toList ++ ['\'']) :=
  String.toList_ofList

/-- A pattern without quotes begins at no quote. -/
theorem not_begins_quote (hp : '\'' ∉ pattern) (hne : pattern ≠ []) (r : List Char) :
    ¬ pattern <+: '\'' :: r := by
  intro h
  cases pattern with
  | nil => exact hne rfl
  | cons p pattern => exact hp (by simp [(List.cons_prefix_cons.mp h).1])

/-- A pattern without quotes begins the inside of a literal exactly when it begins the text. -/
theorem prefix_doubled_iff (hp : '\'' ∉ pattern) :
    pattern <+: doubled s ++ '\'' :: r ↔ pattern <+: s := by
  induction pattern generalizing s with
  | nil => simp
  | cons p pattern ih =>
    have hpq : p ≠ '\'' := fun h => hp (by simp [h])
    have hrest : '\'' ∉ pattern := fun h => hp (by simp [h])
    cases s with
    | nil => simp [doubled, hpq]
    | cons c s =>
      rw [doubled]
      split
      · next hc => simp [hc, hpq]
      · simp only [List.cons_append, List.cons_prefix_cons, ih hrest]

/-- A pattern without quotes begins nowhere earlier in a literal than in its text. -/
theorem notBefore_doubled (hp : '\'' ∉ pattern) (hne : pattern ≠ []) (h : NotBefore pattern s t) :
    NotBefore pattern (doubled s) (doubled t ++ '\'' :: r) := by
  induction s with
  | nil => exact notBefore_nil
  | cons c s ih =>
    obtain ⟨hhead, htail⟩ := notBefore_cons.mp h
    rw [doubled]
    split
    · have hquote := not_begins_quote hp hne
      exact notBefore_cons.mpr ⟨hquote _, notBefore_cons.mpr ⟨hquote _, ih htail⟩⟩
    · next hc =>
      refine notBefore_cons.mpr ⟨fun hbegins => hhead ?_, ih htail⟩
      refine (prefix_doubled_iff (r := r) hp).mp ?_
      rw [doubled, if_neg hc, doubled_append, List.cons_append, List.append_assoc]
      exact hbegins

/-- A pattern that the text lacks is found nowhere in its literal. -/
theorem notBefore_quoteText {s : String} (hp : '\'' ∉ pattern) (hne : pattern ≠ [])
    (h : ¬ pattern <:+: s.toList) : NotBefore pattern (quoteText s).toList r := by
  have hinside : NotBefore pattern (doubled s.toList) (['\''] ++ r) :=
    notBefore_doubled hp hne (notBefore_of_absent (s := []) (by rwa [List.append_nil]))
  rw [toList_quoteText]
  refine notBefore_cons.mpr ⟨not_begins_quote hp hne _, hinside.append ?_⟩
  exact notBefore_cons.mpr ⟨not_begins_quote hp hne _, notBefore_nil⟩

/-! ### Cuts inside a literal -/

/-- The pattern occurs in `s`, and the first occurrence stands behind an odd number of quotes, whatever
follows `s`. -/
def CutInside (pattern s : List Char) : Prop :=
  ∃ before rest, s = before ++ rest ∧ (∀ r, pattern <+: rest ++ r) ∧
    (∀ r, NotBefore pattern before (rest ++ r)) ∧ Odd (before.count '\'')

theorem CutInside.append_right (h : CutInside pattern s) (t : List Char) :
    CutInside pattern (s ++ t) := by
  obtain ⟨before, rest, rfl, hrest, hbefore, hodd⟩ := h
  refine ⟨before, rest ++ t, List.append_assoc before rest t, ?_, ?_, hodd⟩
  · intro r
    rw [List.append_assoc]
    exact hrest (t ++ r)
  · intro r
    rw [List.append_assoc]
    exact hbefore (t ++ r)

/-- What stands in front keeps the cut, if it is without the pattern and its quotes come in pairs. -/
theorem CutInside.append_left (h : CutInside pattern t)
    (hs : ∀ r, NotBefore pattern s (t ++ r)) (heven : Even (s.count '\'')) :
    CutInside pattern (s ++ t) := by
  obtain ⟨before, rest, rfl, hrest, hbefore, hodd⟩ := h
  refine ⟨s ++ before, rest, (List.append_assoc s before rest).symm, hrest, ?_, ?_⟩
  · intro r
    have hfirst := hs r
    rw [List.append_assoc] at hfirst
    exact hfirst.append (hbefore r)
  · rw [List.count_append]
    exact heven.add_odd hodd

/-- The literal of a text with the pattern is cut inside. -/
theorem cutInside_quoteText {s : String} (hp : '\'' ∉ pattern) (hne : pattern ≠ [])
    (h : pattern <:+: s.toList) : CutInside pattern (quoteText s).toList := by
  cases hcut : breakAt? pattern s.toList with
  | none => exact absurd h (breakAt?_eq_none_iff.mp hcut)
  | some cut =>
    obtain ⟨u, w⟩ := cut
    obtain ⟨hs, hw, hnot⟩ := breakAt?_eq_some_iff.mp hcut
    have hrest : ∀ r, doubled w ++ ['\''] ++ r = doubled w ++ '\'' :: r := by simp
    refine ⟨'\'' :: doubled u, doubled w ++ ['\''], ?_, ?_, ?_, ?_⟩
    · rw [toList_quoteText, hs, doubled_append, List.append_assoc]
      rfl
    · intro r
      rw [hrest]
      exact (prefix_doubled_iff hp).mpr hw
    · intro r
      rw [hrest]
      exact notBefore_cons.mpr ⟨not_begins_quote hp hne _, notBefore_doubled hp hne hnot⟩
    · rw [List.count_cons_self]
      exact (even_count_doubled u).add_one

end AqlGateway.Text
