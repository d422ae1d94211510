import AqlGateway.Proofs.Aql.Clause
import AqlGateway.Proofs.Value.Literal

/-!
# Texts that close their literals

A reader who follows the quotes of a text stands outside a literal behind it, if the text closes every
literal that it opens and keeps its semicolons inside.

* `Sheltered` — such texts, put side by side by `Sheltered.append`;
* `sheltered_literal` — the literal of a value is one, whatever the value is;
* `isClause_joinWith` — joined, they are a clause.
-/

namespace AqlGateway.Aql

open Text

/-- A text that a reader outside of a literal passes without noticing. -/
def Sheltered (s : List Char) : Prop := ∀ r, outsideQuotes false (s ++ r) = outsideQuotes false r

variable {s t : List Char}

/-- Sheltered texts one behind the other are sheltered: each leaves the reader outside. -/
theorem Sheltered.append (hs : Sheltered s) (ht : Sheltered t) : Sheltered (s ++ t) := by
  intro r
  rw [List.append_assoc, hs, ht]

/-- A text without quotes and semicolons is passed on either side of a quote. -/
theorem outsideQuotes_plain {quoted : Bool} (hquote : '\'' ∉ s) (hsemi : ';' ∉ s) (r : List Char) :
    outsideQuotes quoted (s ++ r) = outsideQuotes quoted r := by
  induction s with
  | nil => rfl
  | cons c s ih =>
    have hc : c ≠ '\'' := fun h => hquote (by simp [h])
    have hd : c ≠ ';' := fun h => hsemi (by simp [h])
    rw [List.cons_append, outsideQuotes, if_neg hc, if_neg fun h => hd h.1]
    exact ih (fun h => hquote (by simp [h])) fun h => hsemi (by simp [h])

theorem sheltered_plain (hquote : '\'' ∉ s) (hsemi : ';' ∉ s) : Sheltered s :=
  outsideQuotes_plain hquote hsemi

/-! ### Literals -/

/-- The quotes inside a literal come in pairs, so a reader inside it stays inside. -/
theorem outsideQuotes_doubled (s r : List Char) :
    outsideQuotes true (doubled s ++ r) = outsideQuotes true r := by
  induction s with
  | nil => rfl
  | cons c s ih =>
    rw [doubled]
    split
    · exact ih
    · next hc =>
      rw [List.cons_append, outsideQuotes, if_neg hc, if_neg (by simp), ih]

theorem sheltered_quoteText (s : String) : Sheltered (quoteText s).toList := by
  intro r
  rw [toList_quoteText, List.cons_append, List.append_assoc]
  show outsideQuotes true (doubled s.toList ++ '\'' :: r) = _
  rw [outsideQuotes_doubled]
  rfl

/-- No value gets out of its literal. -/
theorem sheltered_literal (v : Value) : Sheltered v.literal.toList := by
  by_cases h : ∃ s, v = .text s
  · obtain ⟨s, rfl⟩ := h
    exact sheltered_quoteText s
  · have hv : ∀ s, v ≠ .text s := fun s hs => h ⟨s, hs⟩
    have hshown := isBare_shown hv
    rcases literal_of_not_text hv with hbare | hquoted
    · rw [hbare]
      exact sheltered_plain (hshown.notMem (by decide)) (hshown.notMem (by decide))
    · intro r
      rw [hquoted, List.cons_append, List.append_assoc]
      show outsideQuotes true (v.shown.toList ++ '\'' :: r) = _
      rw [outsideQuotes_plain (hshown.notMem (by decide)) (hshown.notMem (by decide))]
      rfl

/-! ### Clauses -/

theorem Sheltered.single (h : Sheltered s) : outsideQuotes false s = true := by
  have hnil := h []
  rwa [List.append_nil] at hnil

theorem Sheltered.even_quotes (h : Sheltered s) : Even (s.count '\'') :=
  (outsideQuotes_iff.mp h.single).1

/-- A sheltered text that shows something at either end is a clause. -/
theorem Sheltered.isClause (h : Sheltered s) (hsolid : IsSolid s) : IsClause s := by
  rw [isClause_iff, hsolid.trim_eq]
  exact ⟨hsolid.ne_nil, h.single⟩

theorem sheltered_joinWith {separator : String} {l : List String}
    (hseparator : Sheltered separator.toList) (h : ∀ t ∈ l, Sheltered t.toList) :
    Sheltered (joinWith separator l).toList := by
  induction l with
  | nil => exact fun r => rfl
  | cons t l ih =>
    by_cases hl : l = []
    · rw [hl]
      exact h t (by simp)
    · rw [joinWith_cons hl, String.toList_append, String.toList_append]
      exact ((h t (by simp)).append hseparator).append (ih fun u hu => h u (by simp [hu]))

theorem isClause_joinWith {separator : String} {l : List String} (hl : l ≠ [])
    (hseparator : Sheltered separator.toList) (hsolid : ∀ t ∈ l, IsSolid t.toList)
    (h : ∀ t ∈ l, Sheltered t.toList) : IsClause (joinWith separator l).toList :=
  (sheltered_joinWith hseparator h).isClause (isSolid_joinWith hl hsolid)

end AqlGateway.Aql
