import AqlGateway.Proofs.Aql.Identifier
import AqlGateway.Proofs.Text.Join
import AqlGateway.Proofs.Text.Quoted
import AqlGateway.Value.Basic

/-!
# The texts of values

Only text can bring quotes, blanks and semicolons into a literal.

* `isBareChar` — the characters of numbers, truth values, dates and instants;
* `isBare_shown` — the text of a value other than text has no others;
* `literal_of_not_text` — the literal of such a value is its text, between quotes or without;
* `isSolid_literal` — a literal is not empty and has no blank at either end.
-/

namespace AqlGateway

open Text

/-- Letters, digits, and the marks of numbers, dates and times. -/
def isBareChar (c : Char) : Bool := c.isAlphanum || c == '-' || c == '+' || c == '.' || c == ':'

variable {c : Char} {s t : List Char}

theorem isBareChar_of_isDigit (h : c.isDigit = true) : isBareChar c = true := by
  simp [isBareChar, Char.isAlphanum, h]

theorem isBlank_of_isBareChar (h : isBareChar c = true) : isBlank c = false := by
  simp only [isBareChar, Bool.or_eq_true, beq_iff_eq] at h
  rcases h with (((h | rfl) | rfl) | rfl) | rfl
  · exact Aql.isBlank_of_isWordChar (by simp [Aql.isWordChar, h])
  all_goals decide

/-! ### Runs of bare characters -/

/-- A text of bare characters only. -/
def IsBare (s : List Char) : Prop := ∀ c ∈ s, isBareChar c = true

instance : Decidable (IsBare s) := List.decidableBAll (fun c => isBareChar c = true) s

theorem IsBare.append (hs : IsBare s) (ht : IsBare t) : IsBare (s ++ t) := by
  intro c hc
  rcases List.mem_append.mp hc with hc | hc
  · exact hs c hc
  · exact ht c hc

theorem IsBare.cons (hc : isBareChar c = true) (hs : IsBare s) : IsBare (c :: s) :=
  List.forall_mem_cons.mpr ⟨hc, hs⟩

theorem IsBare.notMem (hs : IsBare s) (hc : isBareChar c = false) : c ∉ s := by
  intro hmem
  rw [hs c hmem] at hc
  exact absurd hc (by simp)

theorem isBare_digits (n : Nat) : IsBare (Nat.toDigits 10 n) := fun _ hc =>
  isBareChar_of_isDigit (Nat.isDigit_of_mem_toDigits (by decide) (by decide) hc)

theorem isBare_zeros (n : Nat) : IsBare (List.replicate n '0') := by
  intro c hc
  rw [List.eq_of_mem_replicate hc]
  decide

theorem isBare_padded (width n : Nat) : IsBare (Date.padded width n) :=
  (isBare_zeros _).append (isBare_digits n)

/-! ### Numbers, dates and times -/

theorem isBare_signText (negative : Bool) : IsBare (Binary64.signText negative).toList := by
  cases negative <;> decide

theorem isBare_positional (hs : IsBare s) (point : Int) : IsBare (Binary64.positional [] s point) := by
  have hzeros : ∀ n, IsBare (Binary64.zeros n) := isBare_zeros
  rw [Binary64.positional]
  split
  · exact .cons (by decide) (.cons (by decide) ((hzeros _).append hs))
  · split
    · exact (hs.append (hzeros _)).append (by decide)
    · refine IsBare.append ?_ (.cons (by decide) ?_)
      · exact fun c hc => hs c (List.mem_of_mem_take hc)
      · exact fun c hc => hs c (List.mem_of_mem_drop hc)

/-- The text of a number has neither blanks nor quotes. -/
theorem isBare_plainText (x : Binary64) : IsBare x.plainText.toList := by
  cases x with
  | nan => decide
  | infinite negative =>
    rw [Binary64.plainText, String.toList_append]
    exact (isBare_signText negative).append (by decide)
  | finite negative code =>
    rw [Binary64.plainText]
    split
    · rw [String.toList_append]
      exact (isBare_signText negative).append (by decide)
    · rw [String.toList_append, String.toList_ofList]
      exact (isBare_signText negative).append (isBare_positional (isBare_digits _) _)

theorem toList_toString_nat (n : Nat) : (toString n).toList = Nat.toDigits 10 n :=
  (Nat.toList_repr (n := n)).symm ▸ rfl

theorem isBare_integerText (n : Int) : IsBare (Value.integerText n).toList := by
  rw [Value.integerText]
  split
  · rw [String.toList_append, toList_toString_nat]
    exact IsBare.append (by decide) (isBare_digits _)
  · rw [toList_toString_nat]
    exact isBare_digits _

theorem isBare_date (d : Date) : IsBare d.chars := by
  have hyear : IsBare (Date.yearText d.year) := by
    rw [Date.yearText]
    split
    · exact isBare_padded 4 _
    · refine .cons ?_ (isBare_padded 4 _)
      split <;> decide
  exact (hyear.append (.cons (by decide) (isBare_padded 2 _))).append (.cons (by decide) (isBare_padded 2 _))

theorem isBare_instant (t : Instant) : IsBare t.text.toList := by
  have hclock : IsBare t.clock :=
    ((isBare_padded 2 _).append (.cons (by decide) (isBare_padded 2 _))).append
      (.cons (by decide) (isBare_padded 2 _))
  rw [Instant.text, String.toList_ofList]
  exact ((isBare_date t.date).append (.cons (by decide) hclock)).append (by decide)

theorem positional_ne_nil (hs : s ≠ []) (point : Int) : Binary64.positional [] s point ≠ [] := by
  rw [Binary64.positional]
  split
  · simp
  · split
    · simp [hs]
    · simp

theorem plainText_ne_nil (x : Binary64) : x.plainText.toList ≠ [] := by
  cases x with
  | nan => decide
  | infinite negative => cases negative <;> decide
  | finite negative code =>
    rw [Binary64.plainText]
    split
    · simp
    · rw [String.toList_append, String.toList_ofList]
      exact List.append_ne_nil_of_right_ne_nil _ (positional_ne_nil Nat.toDigits_ne_nil _)

/-! ### Literals -/

/-- The text of every value but a text has bare characters only. -/
theorem isBare_shown {v : Value} (h : ∀ s, v ≠ .text s) : IsBare v.shown.toList := by
  cases v with
  | null => decide
  | integer n => exact isBare_integerText _
  | real x => exact isBare_plainText x
  | text s => exact absurd rfl (h s)
  | boolean b => cases b <;> decide
  | date d =>
    show IsBare d.text.toList
    rw [Date.text, String.toList_ofList]
    exact isBare_date d
  | timestamp t => exact isBare_instant t

theorem shown_ne_nil {v : Value} (h : ∀ s, v ≠ .text s) : v.shown.toList ≠ [] := by
  cases v with
  | null => decide
  | integer n =>
    show (Value.integerText n.toInt).toList ≠ []
    rw [Value.integerText]
    split
    · simp
    · rw [toList_toString_nat]
      exact Nat.toDigits_ne_nil
  | real x => exact plainText_ne_nil x
  | text s => exact absurd rfl (h s)
  | boolean b => cases b <;> decide
  | date d =>
    show d.text.toList ≠ []
    rw [Date.text, String.toList_ofList, Date.chars]
    simp
  | timestamp t =>
    show t.text.toList ≠ []
    rw [Instant.text, String.toList_ofList]
    simp

/-- The literal of a value that is no text is the text of the value, or stands between quotes. -/
theorem literal_of_not_text {v : Value} (h : ∀ s, v ≠ .text s) :
    v.literal = v.shown ∨ v.literal.toList = '\'' :: (v.shown.toList ++ ['\'']) := by
  have quoted (s : String) (hs : IsBare s.toList) :
      (quoteText s).toList = '\'' :: (s.toList ++ ['\'']) := by
    rw [toList_quoteText, doubled_of_notMem (hs.notMem (by decide))]
  cases v with
  | text s => exact absurd rfl (h s)
  | date d => exact .inr (quoted d.text (isBare_shown (v := .date d) (by simp)))
  | timestamp t => exact .inr (quoted t.text (isBare_instant t))
  | null => exact .inl rfl
  | integer n => exact .inl rfl
  | real x => exact .inl rfl
  | boolean b => exact .inl rfl

theorem isSolid_quoted (s : List Char) : IsSolid ('\'' :: (s ++ ['\''])) where
  ne_nil := List.cons_ne_nil _ _
  first := stops_cons.mpr (by decide)
  last := by
    rw [← List.cons_append]
    exact stops_reverse_append (stops_cons.mpr (by decide)) (by simp)

/-- A literal shows something at either end. -/
theorem isSolid_literal (v : Value) : IsSolid v.literal.toList := by
  by_cases h : ∃ s, v = .text s
  · obtain ⟨s, rfl⟩ := h
    show IsSolid (quoteText s).toList
    rw [toList_quoteText]
    exact isSolid_quoted _
  · have hv : ∀ s, v ≠ .text s := fun s hs => h ⟨s, hs⟩
    rcases literal_of_not_text hv with hbare | hquoted
    · rw [hbare]
      exact isSolid_of_not_blank (shown_ne_nil hv) fun c hc =>
        isBlank_of_isBareChar (isBare_shown hv c hc)
    · rw [hquoted]
      exact isSolid_quoted _

end AqlGateway
