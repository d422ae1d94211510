import AqlGateway.Text.Blank

/-!
# Longest runs and trimmed texts

* `Stops` — a text at which a run of characters of a class cannot go on;
* `takeWhile_run`, `dropWhile_run` — a run in front of such a text is the longest one;
* `trim_append_blanks`, `trim_blanks_append` — blanks at the ends do not matter;
* `trim_spec` — a text is its trimmed text between two runs of blanks;
* `trim_eq_self` — a text without blanks at its ends is trimmed already;
* `append_prefix_trim` — the beginning of a text that trimming cannot take away.
-/

namespace AqlGateway.Text

/-- A text that does not begin with a character of the class `p`. -/
def Stops (p : Char → Bool) (s : List Char) : Prop := ∀ c ∈ s.head?, p c = false

/-! ### Runs -/

section Runs

variable {p : Char → Bool} {w s : List Char}

theorem stops_nil : Stops p [] := by
  intro c hc
  simp at hc

theorem stops_cons {c : Char} : Stops p (c :: s) ↔ p c = false := by
  simp [Stops]

instance : Decidable (Stops p s) :=
  match s with
  | [] => isTrue stops_nil
  | _ :: _ => decidable_of_iff _ stops_cons.symm

theorem stops_append (hs : Stops p s) (hne : s ≠ []) : Stops p (s ++ w) := by
  cases s with
  | nil => exact absurd rfl hne
  | cons c s => exact stops_cons.mpr (stops_cons.mp hs)

theorem stops_reverse_append (hs : Stops p s.reverse) (hne : s ≠ []) :
    Stops p (w ++ s).reverse := by
  rw [List.reverse_append]
  exact stops_append hs (by simpa using hne)

theorem stops_dropWhile : Stops p (s.dropWhile p) := by
  induction s with
  | nil => exact stops_nil
  | cons c s ih =>
    by_cases hc : p c = true
    · rw [List.dropWhile_cons_of_pos hc]
      exact ih
    · rw [List.dropWhile_cons_of_neg hc]
      exact stops_cons.mpr (by simpa using hc)

theorem dropWhile_of_stops (hs : Stops p s) : s.dropWhile p = s := by
  cases s with
  | nil => rfl
  | cons c s => exact List.dropWhile_cons_of_neg (by simp [stops_cons.mp hs])

theorem takeWhile_of_stops (hs : Stops p s) : s.takeWhile p = [] := by
  cases s with
  | nil => rfl
  | cons c s => exact List.takeWhile_cons_of_neg (by simp [stops_cons.mp hs])

/-- A run in front of a text at which it cannot go on is the longest one. -/
theorem takeWhile_run (hw : ∀ c ∈ w, p c = true) (hs : Stops p s) :
    (w ++ s).takeWhile p = w := by
  rw [List.takeWhile_append_of_pos hw, takeWhile_of_stops hs, List.append_nil]

/-- Exactly a run of the class in front of `s` is dropped. -/
theorem dropWhile_run (hw : ∀ c ∈ w, p c = true) (hs : Stops p s) :
    (w ++ s).dropWhile p = s := by
  rw [List.dropWhile_append_of_pos hw, dropWhile_of_stops hs]

theorem mem_takeWhile {c : Char} (hc : c ∈ s.takeWhile p) : p c = true :=
  List.all_eq_true.mp List.all_takeWhile c hc

/-- The longest run at the beginning of a text is determined by the text. -/
theorem run_unique {v t : List Char} (hw : ∀ c ∈ w, p c = true) (hs : Stops p s)
    (hv : ∀ c ∈ v, p c = true) (ht : Stops p t) (h : w ++ s = v ++ t) : w = v ∧ s = t := by
  have hwv : w = v := by
    rw [← takeWhile_run hw hs, h, takeWhile_run hv ht]
  subst hwv
  exact ⟨rfl, List.append_cancel_left h⟩

end Runs

/-! ### Trimming -/

section Trimming

variable {a b s : List Char}

/-- Separators between words are blanks. -/
theorem stops_gap_of_stops_blank (hs : Stops isBlank s) : Stops isGap s := by
  intro c hc
  cases hgap : isGap c with
  | false => rfl
  | true =>
    have hblank := hs c hc
    rw [isBlank_of_isGap hgap] at hblank
    exact absurd hblank (by simp)

theorem trimStart_blanks_append (ha : ∀ c ∈ a, isBlank c = true) :
    trimStart (a ++ s) = trimStart s :=
  List.dropWhile_append_of_pos ha

theorem trimEnd_append_blanks (hb : ∀ c ∈ b, isBlank c = true) :
    trimEnd (s ++ b) = trimEnd s := by
  unfold trimEnd
  rw [List.reverse_append,
    List.dropWhile_append_of_pos (fun c hc => hb c (List.mem_reverse.mp hc))]

theorem trimEnd_eq_self (hs : Stops isBlank s.reverse) : trimEnd s = s := by
  unfold trimEnd
  rw [dropWhile_of_stops hs, List.reverse_reverse]

theorem trimEnd_of_blanks (hs : ∀ c ∈ s, isBlank c = true) : trimEnd s = [] := by
  have h := trimEnd_append_blanks (s := []) hs
  simpa [trimEnd] using h

/-- Trimming the start keeps what stands behind a part that is not blank. -/
theorem trimStart_append (hs : trimStart s ≠ []) : trimStart (s ++ b) = trimStart s ++ b := by
  rw [trimStart, List.dropWhile_append, if_neg (by simpa [trimStart] using hs)]
  rfl

/-- Trimming the end keeps what stands in front of a part that is not blank. -/
theorem trimEnd_append (hs : trimEnd s ≠ []) : trimEnd (a ++ s) = a ++ trimEnd s := by
  have hne : s.reverse.dropWhile isBlank ≠ [] := by
    intro h
    exact hs (by rw [trimEnd, h, List.reverse_nil])
  unfold trimEnd
  rw [List.reverse_append, List.dropWhile_append, if_neg (by simpa using hne),
    List.reverse_append, List.reverse_reverse]

/-- A text is its beginning without trailing blanks, and trailing blanks. -/
theorem trimEnd_spec (s : List Char) :
    ∃ b, s = trimEnd s ++ b ∧ ∀ c ∈ b, isBlank c = true := by
  refine ⟨(s.reverse.takeWhile isBlank).reverse, ?_, ?_⟩
  · rw [trimEnd, ← List.reverse_append, List.takeWhile_append_dropWhile, List.reverse_reverse]
  · intro c hc
    exact mem_takeWhile (List.mem_reverse.mp hc)

theorem trimStart_spec (s : List Char) :
    ∃ a, s = a ++ trimStart s ∧ ∀ c ∈ a, isBlank c = true :=
  ⟨s.takeWhile isBlank, List.takeWhile_append_dropWhile.symm, fun _ hc => mem_takeWhile hc⟩

/-- A text is its trimmed text between two runs of blanks. -/
theorem trim_spec (s : List Char) :
    ∃ a b, s = a ++ trim s ++ b ∧ (∀ c ∈ a, isBlank c = true) ∧ ∀ c ∈ b, isBlank c = true := by
  obtain ⟨a, ha, hblank⟩ := trimStart_spec s
  obtain ⟨b, hb, hblank'⟩ := trimEnd_spec (trimStart s)
  refine ⟨a, b, ?_, hblank, hblank'⟩
  rw [List.append_assoc]
  calc s = a ++ trimStart s := ha
    _ = a ++ (trim s ++ b) := by rw [trim, ← hb]

theorem trim_blanks_append (ha : ∀ c ∈ a, isBlank c = true) : trim (a ++ s) = trim s := by
  rw [trim, trimStart_blanks_append ha, ← trim]

theorem trim_of_blanks (hs : ∀ c ∈ s, isBlank c = true) : trim s = [] := by
  have h := trim_blanks_append (s := []) hs
  simpa [trim, trimStart, trimEnd] using h

theorem isBlank_of_mem_space : ∀ c ∈ [' '], isBlank c = true := List.all_eq_true.mp rfl

/-- Blanks behind a text do not matter for what trimming leaves. -/
theorem trim_append_blanks (hb : ∀ c ∈ b, isBlank c = true) : trim (s ++ b) = trim s := by
  obtain ⟨a, ha, hblank⟩ := trimStart_spec s
  have hstop : Stops isBlank (trimStart s) := stops_dropWhile
  cases hs : trimStart s with
  | nil =>
    have hall : ∀ c ∈ s, isBlank c = true := by
      rw [hs, List.append_nil] at ha
      rw [ha]
      exact hblank
    rw [trim_of_blanks hall, trim_blanks_append hall, trim_of_blanks hb]
  | cons c r =>
    rw [hs] at ha hstop
    have hstart : trimStart (c :: r ++ b) = c :: r ++ b :=
      dropWhile_of_stops (stops_cons.mpr (stops_cons.mp hstop))
    rw [trim, trim, hs, ha, List.append_assoc, trimStart_blanks_append hblank, hstart,
      trimEnd_append_blanks hb]

/-- A text without blanks at its ends is trimmed already. -/
theorem trim_eq_self (hstart : Stops isBlank s) (hend : Stops isBlank s.reverse) :
    trim s = s := by
  rw [trim, trimStart, dropWhile_of_stops hstart, trimEnd_eq_self hend]

/-- A text between two parts that are not blank at its ends is trimmed already. -/
theorem trim_between (hane : a ≠ []) (ha : Stops isBlank a) (hbne : b ≠ [])
    (hb : Stops isBlank b.reverse) : trim (a ++ (s ++ b)) = a ++ (s ++ b) := by
  refine trim_eq_self (stops_append ha hane) ?_
  rw [← List.append_assoc]
  exact stops_reverse_append hb hbne

theorem trim_eq_trimEnd (hstart : Stops isBlank s) : trim s = trimEnd s := by
  rw [trim, trimStart, dropWhile_of_stops hstart]

/-- Nothing is left of blanks alone. -/
theorem trim_eq_nil_iff : trim s = [] ↔ ∀ c ∈ s, isBlank c = true := by
  constructor
  · intro h
    obtain ⟨a, b, hs, ha, hb⟩ := trim_spec s
    rw [h, List.append_nil] at hs
    intro c hc
    rw [hs, List.mem_append] at hc
    rcases hc with hc | hc
    · exact ha c hc
    · exact hb c hc
  · exact trim_of_blanks

theorem trimEnd_eq_nil_iff : trimEnd s = [] ↔ ∀ c ∈ s, isBlank c = true := by
  constructor
  · intro h
    obtain ⟨b, hs, hb⟩ := trimEnd_spec s
    rw [h, List.nil_append] at hs
    rw [hs]
    exact hb
  · exact trimEnd_of_blanks

theorem trim_trimEnd (s : List Char) : trim (trimEnd s) = trim s := by
  obtain ⟨b, hs, hb⟩ := trimEnd_spec s
  calc trim (trimEnd s) = trim (trimEnd s ++ b) := (trim_append_blanks hb).symm
    _ = trim s := by rw [← hs]

theorem trim_trimStart (s : List Char) : trim (trimStart s) = trim s := by
  obtain ⟨a, hs, ha⟩ := trimStart_spec s
  calc trim (trimStart s) = trim (a ++ trimStart s) := (trim_blanks_append ha).symm
    _ = trim s := by rw [← hs]

theorem length_trim_le (s : List Char) : (trim s).length ≤ s.length := by
  obtain ⟨a, b, hs, -, -⟩ := trim_spec s
  have hlength := congrArg List.length hs
  rw [List.length_append, List.length_append] at hlength
  omega

/-- Trimming keeps the characters that are no blanks, each as often as it stands in the text. -/
theorem count_trim {c : Char} (hc : isBlank c = false) : (trim s).count c = s.count c := by
  obtain ⟨a, b, hs, ha, hb⟩ := trim_spec s
  have blanks (w : List Char) (hw : ∀ d ∈ w, isBlank d = true) : w.count c = 0 := by
    refine List.count_eq_zero_of_not_mem fun h => ?_
    rw [hw c h] at hc
    exact absurd hc (by simp)
  have hcount : s.count c = (a ++ trim s ++ b).count c := congrArg (List.count c) hs
  rw [hcount, List.count_append, List.count_append, blanks a ha, blanks b hb, Nat.zero_add,
    Nat.add_zero]

/-- Trimming takes blanks only. -/
theorem mem_trim_of_not_blank {c : Char} (hc : isBlank c = false) : c ∈ trim s ↔ c ∈ s := by
  rw [← List.count_pos_iff, count_trim hc, List.count_pos_iff]

/-- Trimming does not take away a beginning without a blank in front, as long as something that is
not blank stands behind it. -/
theorem append_prefix_trim {c : Char} (ha : Stops isBlank (a ++ s)) (hc : c ∈ s)
    (hblank : isBlank c = false) : a <+: trim (a ++ s) := by
  have hs : trimEnd s ≠ [] := by
    intro h
    have := trimEnd_eq_nil_iff.mp h c hc
    simp [this] at hblank
  rw [trim_eq_trimEnd ha, trimEnd_append hs]
  exact List.prefix_append a (trimEnd s)

/-- What stands around a part without blanks at its ends is trimmed on its own. -/
theorem trim_around {w : List Char} (hne : w ≠ []) (hfirst : Stops isBlank w)
    (hlast : Stops isBlank w.reverse) : trim (a ++ (w ++ b)) = trimStart a ++ (w ++ trimEnd b) := by
  have hstart : trimStart (a ++ (w ++ b)) = trimStart a ++ (w ++ b) := by
    by_cases ha : trimStart a = []
    · obtain ⟨a', ha', hblank⟩ := trimStart_spec a
      rw [ha, List.append_nil] at ha'
      rw [ha, ha', trimStart_blanks_append hblank]
      exact dropWhile_of_stops (stops_append hfirst hne)
    · rw [trimStart, List.dropWhile_append, if_neg (by simpa [trimStart] using ha)]
      rfl
  have hend : trimEnd (w ++ b) = w ++ trimEnd b := by
    by_cases hb : trimEnd b = []
    · rw [trimEnd_append_blanks (trimEnd_eq_nil_iff.mp hb), trimEnd_eq_self hlast, hb,
        List.append_nil]
    · exact trimEnd_append hb
  rw [trim, hstart, trimEnd_append (by rw [hend]; simp [hne]), hend]

theorem stops_of_not_blank {w : List Char} (hw : ∀ c ∈ w, isBlank c = false) : Stops isBlank w :=
  fun c hc => hw c (List.mem_of_mem_head? hc)

/-- What stands around a word is trimmed on its own. -/
theorem trim_around_word {w : List Char} (hne : w ≠ []) (hw : ∀ c ∈ w, isBlank c = false) :
    trim (a ++ (w ++ b)) = trimStart a ++ (w ++ trimEnd b) :=
  trim_around hne (stops_of_not_blank hw)
    (stops_of_not_blank fun c hc => hw c (List.mem_reverse.mp hc))

/-- A word between blanks is what is left of a trimmed text that has no blanks inside. -/
theorem trim_eq_word {w : List Char} (hne : w ≠ []) (hw : ∀ c ∈ w, isBlank c = false)
    (ha : ∀ c ∈ a.getLast?, isBlank c = true) (hb : ∀ c ∈ b.head?, isBlank c = true)
    (htrim : ∀ c ∈ trim (a ++ (w ++ b)), isBlank c = false) : trim (a ++ (w ++ b)) = w := by
  rw [trim_around_word hne hw] at htrim ⊢
  have hstart : trimStart a = [] := by
    obtain ⟨a', ha', -⟩ := trimStart_spec a
    rcases List.eq_nil_or_concat (trimStart a) with h | ⟨r, c, h⟩
    · exact h
    · have hlast := ha c (by rw [ha', h]; simp)
      rw [htrim c (by simp [h])] at hlast
      exact absurd hlast (by simp)
  have hend : trimEnd b = [] := by
    obtain ⟨b', hb', -⟩ := trimEnd_spec b
    cases hcase : trimEnd b with
    | nil => rfl
    | cons c r =>
      have hfirst := hb c (by rw [hb', hcase]; rfl)
      rw [htrim c (by simp [hcase])] at hfirst
      exact absurd hfirst (by simp)
  rw [hstart, hend, List.nil_append, List.append_nil]

theorem toList_trimText (s : String) : (trimText s).toList = trim s.toList :=
  String.toList_ofList

theorem isAllBlank_iff (s : String) : isAllBlank s = true ↔ trim s.toList = [] := by
  rw [trim_eq_nil_iff, isAllBlank, List.all_eq_true]

end Trimming

end AqlGateway.Text
