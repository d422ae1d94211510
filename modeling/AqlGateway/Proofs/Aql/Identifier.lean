import AqlGateway.Aql.Identifier
import AqlGateway.Proofs.Text.Trim

/-!
# What an identifier is

* `IsName` — the rule: a letter or an underscore, then letters, digits and underscores;
* `identifier?_eq_some_iff`, `identifier?_eq` — the longest name at the beginning of a text is split off;
* `isIdentifier_iff` — the identifiers are the texts that follow the rule;
* `validateIdentifiers_eq` — a list fails with its first text that is no identifier;
* `validateIdentifiers_eq_ok_iff` — it passes when each of its texts is one.
-/

namespace AqlGateway.Aql

open Text

def IsName : List Char → Prop
  | [] => False
  | c :: r => (c.isAlpha = true ∨ c = '_') ∧ ∀ d ∈ r, isWordChar d = true

variable {c d : Char} {name s r : List Char}

/-! ### Word characters -/

theorem isWordChar_of_start (h : c.isAlpha = true ∨ c = '_') : isWordChar c = true := by
  rcases h with h | rfl
  · simp [isWordChar, Char.isAlphanum, h]
  · decide

/-- Letters, digits and underscores stand between `0` and `z`. -/
theorem toNat_of_isWordChar (h : isWordChar c = true) : 48 ≤ c.toNat ∧ c.toNat ≤ 122 := by
  have between {a b : Char} (ha : 48 ≤ a.toNat) (hb : b.toNat ≤ 122)
      (hc : c.val ≥ a.val ∧ c.val ≤ b.val) : 48 ≤ c.toNat ∧ c.toNat ≤ 122 :=
    ⟨Nat.le_trans ha (UInt32.le_iff_toNat_le.mp hc.1),
      Nat.le_trans (UInt32.le_iff_toNat_le.mp hc.2) hb⟩
  have both {a b : Char} (hc : (decide (c.val ≥ a.val) && decide (c.val ≤ b.val)) = true) :
      c.val ≥ a.val ∧ c.val ≤ b.val := by
    rw [Bool.and_eq_true, decide_eq_true_eq, decide_eq_true_eq] at hc
    exact hc
  have hchar : (((c.isUpper || c.isLower) || c.isDigit) || c == '_') = true := h
  rw [Bool.or_eq_true, Bool.or_eq_true, Bool.or_eq_true, beq_iff_eq] at hchar
  rcases hchar with ((hupper | hlower) | hdigit) | rfl
  · exact between (by decide) (by decide) (of_decide_eq_true hupper)
  · exact between (by decide) (by decide) (both hlower)
  · exact between (by decide) (by decide) (both hdigit)
  · decide

theorem isBlank_of_isWordChar (h : isWordChar c = true) : isBlank c = false := by
  have hc := toNat_of_isWordChar h
  simp only [isBlank, Bool.or_eq_false_iff, Bool.and_eq_false_iff, decide_eq_false_iff_not,
    beq_eq_false_iff_ne]
  omega

theorem isGap_of_isWordChar (h : isWordChar c = true) : isGap c = false := by
  cases hg : isGap c with
  | false => rfl
  | true => exact absurd (isBlank_of_isGap hg) (by simp [isBlank_of_isWordChar h])

/-! ### Names -/

/-- Names have word characters alone. -/
theorem IsName.wordChar (h : IsName name) : ∀ c ∈ name, isWordChar c = true := by
  cases name with
  | nil => exact absurd h id
  | cons c r =>
    intro d hd
    rcases List.mem_cons.mp hd with rfl | hd
    · exact isWordChar_of_start h.1
    · exact h.2 d hd

theorem IsName.ne_nil (h : IsName name) : name ≠ [] := by
  rintro rfl
  exact h

/-- A character that no word has is in no name. -/
theorem IsName.notMem (h : IsName name) (hd : isWordChar d = false) : d ∉ name := by
  intro hmem
  simp [h.wordChar d hmem] at hd

theorem IsName.append (h : IsName name) (hr : ∀ c ∈ r, isWordChar c = true) :
    IsName (name ++ r) := by
  cases name with
  | nil => exact absurd h id
  | cons c t =>
    refine ⟨h.1, fun d hd => ?_⟩
    rcases List.mem_append.mp hd with hd | hd
    · exact h.2 d hd
    · exact hr d hd

/-- A name stops every run of characters that no word has. -/
theorem IsName.stops {p : Char → Bool} (h : IsName name)
    (hp : ∀ c, isWordChar c = true → p c = false) : Stops p name := by
  cases name with
  | nil => exact absurd h id
  | cons c t => exact stops_cons.mpr (hp c (isWordChar_of_start h.1))

theorem IsName.stops_gap (h : IsName name) : Stops isGap name :=
  h.stops fun _ => isGap_of_isWordChar

theorem IsName.stops_reverse (h : IsName name) : Stops isBlank name.reverse := by
  intro c hc
  have hmem : c ∈ name := List.mem_reverse.mp (List.mem_of_mem_head? hc)
  exact isBlank_of_isWordChar (h.wordChar c hmem)

/-! ### Reading a name -/

/-- What an identifier begins with is a name. -/
theorem identifierHead?_sound (h : identifierHead? s = some (name, r)) :
    s = name ++ r ∧ IsName name := by
  unfold identifierHead? at h
  split at h
  · next c letters hletters =>
    obtain ⟨rfl, rfl⟩ := Prod.mk.inj (Option.some.inj h)
    have hall : ∀ d ∈ c :: letters, d.isAlpha = true := by
      rw [← hletters]
      exact fun d hd => mem_takeWhile hd
    refine ⟨by rw [← hletters, List.takeWhile_append_dropWhile], Or.inl (hall c (by simp)), ?_⟩
    intro d hd
    exact isWordChar_of_start (Or.inl (hall d (by simp [hd])))
  · split at h
    · obtain ⟨rfl, rfl⟩ := Prod.mk.inj (Option.some.inj h)
      exact ⟨rfl, Or.inr rfl, by simp⟩
    · exact absurd h (by simp)

theorem identifierHead?_isSome (h : c.isAlpha = true ∨ c = '_') :
    (identifierHead? (c :: s)).isSome = true := by
  unfold identifierHead?
  rcases h with h | rfl
  · rw [List.takeWhile_cons_of_pos h]
    rfl
  · rw [List.takeWhile_cons_of_neg (by decide)]
    rfl

/-- The longest name at the beginning of a text is split off. -/
theorem identifier?_eq_some_iff :
    identifier? s = some (name, r) ↔ s = name ++ r ∧ IsName name ∧ Stops isWordChar r := by
  have sound : ∀ {name r}, identifier? s = some (name, r) →
      s = name ++ r ∧ IsName name ∧ Stops isWordChar r := by
    intro name r h
    obtain ⟨⟨head, rest⟩, hhead, heq⟩ := Option.map_eq_some_iff.mp h
    obtain ⟨rfl, rfl⟩ := Prod.mk.inj heq
    obtain ⟨hs, hname⟩ := identifierHead?_sound hhead
    refine ⟨?_, hname.append fun c hc => mem_takeWhile hc, stops_dropWhile⟩
    rw [List.append_assoc, List.takeWhile_append_dropWhile]
    exact hs
  constructor
  · exact sound
  · rintro ⟨rfl, hname, hstop⟩
    -- Some name is read, and the longest run of word characters leaves no choice of it.
    have hread : (identifier? (name ++ r)).isSome = true := by
      cases name with
      | nil => exact absurd hname id
      | cons c t =>
        rw [identifier?, Option.isSome_map]
        exact identifierHead?_isSome hname.1
    obtain ⟨⟨name', r'⟩, hread⟩ := Option.isSome_iff_exists.mp hread
    obtain ⟨heq, hname', hstop'⟩ := sound hread
    obtain ⟨rfl, rfl⟩ := run_unique hname.wordChar hstop hname'.wordChar hstop' heq
    exact hread

def isNameStart (c : Char) : Bool := c.isAlpha || c == '_'

theorem isNameStart_iff : isNameStart c = true ↔ c.isAlpha = true ∨ c = '_' := by
  rw [isNameStart, Bool.or_eq_true, beq_iff_eq]

/-- A name is read where one begins, and it goes on as long as possible. -/
theorem identifier?_eq (s : List Char) :
    identifier? s = if s.head?.any isNameStart then
      some (s.takeWhile isWordChar, s.dropWhile isWordChar) else none := by
  cases s with
  | nil => rfl
  | cons c t =>
    show _ = if isNameStart c = true then _ else none
    split
    · next hc =>
      have hstart := isNameStart_iff.mp hc
      have hword := isWordChar_of_start hstart
      refine identifier?_eq_some_iff.mpr ⟨List.takeWhile_append_dropWhile.symm, ?_, stops_dropWhile⟩
      rw [List.takeWhile_cons_of_pos hword]
      exact ⟨hstart, fun d hd => mem_takeWhile hd⟩
    · next hc =>
      cases hread : identifier? (c :: t) with
      | none => rfl
      | some p =>
        obtain ⟨name, rest⟩ := p
        obtain ⟨heq, hname, -⟩ := identifier?_eq_some_iff.mp hread
        cases name with
        | nil => exact absurd hname id
        | cons d name =>
          obtain ⟨rfl, -⟩ := List.cons.inj heq
          exact absurd (isNameStart_iff.mpr hname.1) hc

/-- A name is read back in front of everything that cannot go on with it. -/
theorem identifier?_append (hname : IsName name) (hr : Stops isWordChar r) :
    identifier? (name ++ r) = some (name, r) :=
  identifier?_eq_some_iff.mpr ⟨rfl, hname, hr⟩

theorem identifier?_self (hname : IsName name) : identifier? name = some (name, []) := by
  have hread := identifier?_append hname stops_nil
  rwa [List.append_nil] at hread

/-- The identifiers are the texts that follow the rule. -/
theorem isIdentifier_iff {t : String} : isIdentifier t = true ↔ IsName t.toList := by
  rw [isIdentifier]
  constructor
  · intro h
    split at h
    · next name rest hread =>
      obtain ⟨heq, hname, -⟩ := identifier?_eq_some_iff.mp hread
      rw [List.isEmpty_iff.mp h, List.append_nil] at heq
      rw [heq]
      exact hname
    · exact absurd h (by simp)
  · intro h
    rw [identifier?_self h]
    rfl

/-! ### Checks -/

theorem validateIdentifier_eq_ok_iff {t : String} :
    validateIdentifier t = .ok () ↔ isIdentifier t = true := by
  rw [validateIdentifier]
  split
  · next h => simp [h]
  · next h => simp [h]

/-- A list fails with its first text that is no identifier. -/
theorem validateIdentifiers_eq (l : List String) :
    validateIdentifiers l = match l.find? fun t => !isIdentifier t with
      | none => .ok ()
      | some t => .error (.invalidIdentifier t) := by
  induction l with
  | nil => rfl
  | cons t l ih =>
    rw [validateIdentifiers, validateIdentifier, List.find?_cons]
    cases isIdentifier t with
    | true => exact ih
    | false => rfl

/-- A list passes when each of its texts is an identifier. -/
theorem validateIdentifiers_eq_ok_iff {l : List String} :
    validateIdentifiers l = .ok () ↔ ∀ t ∈ l, isIdentifier t = true := by
  have hnone : l.find? (fun t => !isIdentifier t) = none ↔ ∀ t ∈ l, isIdentifier t = true := by
    simp [List.find?_eq_none]
  rw [validateIdentifiers_eq, ← hnone]
  cases l.find? fun t => !isIdentifier t <;> simp

/-- The check of several names fails with the first that is none. -/
theorem validateIdentifiers_eq_error_iff {l : List String} {e : Error} :
    validateIdentifiers l = .error e ↔ ∃ before t after, l = before ++ t :: after ∧
      (∀ u ∈ before, isIdentifier u = true) ∧ isIdentifier t = false ∧ e = .invalidIdentifier t := by
  have hsome (t : String) : l.find? (fun t => !isIdentifier t) = some t ↔
      ∃ before after, l = before ++ t :: after ∧ (∀ u ∈ before, isIdentifier u = true) ∧
        isIdentifier t = false := by
    rw [List.find?_eq_some_iff_append]
    constructor
    · rintro ⟨ht, before, after, hl, hbefore⟩
      exact ⟨before, after, hl, by simpa using hbefore, by simpa using ht⟩
    · rintro ⟨before, after, hl, hbefore, ht⟩
      exact ⟨by simpa using ht, before, after, hl, by simpa using hbefore⟩
  rw [validateIdentifiers_eq]
  constructor
  · intro h
    cases hfind : l.find? fun t => !isIdentifier t with
    | none => rw [hfind] at h; exact absurd h (by simp)
    | some t =>
      rw [hfind] at h
      obtain ⟨before, after, hl, hbefore, ht⟩ := (hsome t).mp hfind
      exact ⟨before, t, after, hl, hbefore, ht, (Except.error.inj h).symm⟩
  · rintro ⟨before, t, after, hl, hbefore, ht, rfl⟩
    rw [(hsome t).mpr ⟨before, after, hl, hbefore, ht⟩]

end AqlGateway.Aql
