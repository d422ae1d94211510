import AqlGateway.Proofs.Json.Scalars

/-!
# JSON texts and their trees

* `Json.Spells` — the text of a value is read as a tree, whatever stands behind it;
* `spells_string`, `spells_integer` — so are strings and whole numbers;
* `spells_array`, `spells_object` — so are arrays and objects, if what they hold is.
-/

namespace AqlGateway

open Text JsonText

namespace Json

/-! ### Texts and trees -/

/-- The text of the value `j` is read as the tree `t`, whatever stands behind it. -/
structure Spells (j : Json) (t : JsonText) : Prop where
  begins : ∀ rest, ∃ c s, render j rest = c :: s ∧ isGap c = false ∧ c ≠ ']'
  longer : ∀ rest, rest.length < (render j rest).length
  visible : ∀ rest, IsVisible rest → IsVisible (render j rest)
  /-- Every step of the reader takes a character of the text. -/
  read : ∀ fuel rest, Stops continuesNumber rest →
    (render j rest).length ≤ fuel + rest.length → value? fuel (render j rest) = some (t, rest)

theorem skip_cons {c : Char} {s : List Char} (h : isGap c = false) : skip (c :: s) = c :: s :=
  dropWhile_of_stops (stops_cons.mpr h)

/-! ### Scalars -/

section Scalars

variable {j : Json} {t : JsonText}

/-- A text of its own in front of the rest. -/
theorem spells_scalar (c : Char) (w : List Char)
    (hrender : ∀ rest, render j rest = c :: (w ++ rest)) (hgap : isGap c = false)
    (hbracket : c ≠ ']') (hvisible : IsVisible (c :: w))
    (hread : ∀ fuel rest, Stops continuesNumber rest →
      value? (fuel + 1) (c :: (w ++ rest)) = some (t, rest)) : Spells j t where
  begins rest := ⟨c, w ++ rest, hrender rest, hgap, hbracket⟩
  longer rest := by
    rw [hrender, List.length_cons, List.length_append]
    omega
  visible rest hrest := by
    rw [hrender, ← List.cons_append]
    exact isVisible_append.mpr ⟨hvisible, hrest⟩
  read fuel rest hstop hfuel := by
    rw [hrender, List.length_cons, List.length_append] at hfuel
    obtain ⟨fuel, rfl⟩ := Nat.exists_eq_succ_of_ne_zero (show fuel ≠ 0 by omega)
    rw [hrender]
    exact hread fuel rest hstop

theorem behindWord?_append (w rest : List Char) : behindWord? w (w ++ rest) = some rest := by
  simp [behindWord?]

/-- A word whose first character tells it from everything else. -/
theorem spells_word (c : Char) (w : List Char) (hrender : ∀ rest, render j rest = c :: (w ++ rest))
    (hgap : isGap c = false) (hbracket : c ≠ ']') (hvisible : IsVisible (c :: w))
    (hread : ∀ fuel rest,
      value? (fuel + 1) (c :: rest) = (behindWord? w rest).map fun rest => (t, rest)) :
    Spells j t :=
  spells_scalar c w hrender hgap hbracket hvisible fun fuel rest _ => by
    rw [hread, behindWord?_append, Option.map_some]

theorem spells_null : Spells .null .null :=
  spells_word 'n' "ull".toList (fun _ => rfl) (by decide) (by decide) (by decide) fun _ _ => rfl

theorem spells_bool (b : Bool) : Spells (.bool b) (.bool b) :=
  match b with
  | true =>
    spells_word 't' "rue".toList (fun _ => rfl) (by decide) (by decide) (by decide) fun _ _ => rfl
  | false =>
    spells_word 'f' "alse".toList (fun _ => rfl) (by decide) (by decide) (by decide) fun _ _ => rfl

/-- The escapes of a string are read as written; what they mean comes later. -/
theorem spells_string (s : String) : Spells (.string s) (.string (escaped s.toList)) := by
  refine spells_scalar '"' (escaped s.toList ++ ['"']) ?_ (by decide) (by decide) ?_ ?_
  · intro rest
    show quoted s rest = _
    rw [quoted_eq, List.append_assoc]
    rfl
  · refine isVisible_cons.mpr ⟨by decide, isVisible_append.mpr ⟨?_, by decide⟩⟩
    exact isVisible_escaped s.toList
  · intro fuel rest _
    rw [value?, skip_cons (by decide), List.append_assoc]
    simp only [List.singleton_append, stringBody?_escaped, Option.map_some]

/-- The characters that a whole number begins with. -/
def BeginsInteger (c : Char) : Prop := c.isDigit = true ∨ c = '-'

instance {c : Char} : Decidable (BeginsInteger c) :=
  inferInstanceAs (Decidable (c.isDigit = true ∨ c = '-'))

namespace BeginsInteger

variable {c : Char}

theorem ne (h : BeginsInteger c) {d : Char} (hd : ¬ BeginsInteger d) : c ≠ d := by
  rintro rfl
  exact hd h

theorem not_gap (h : BeginsInteger c) : isGap c = false := by
  by_contra hgap
  rw [Bool.not_eq_false] at hgap
  simp only [isGap, Bool.or_eq_true, beq_iff_eq] at hgap
  rcases hgap with ((rfl | rfl) | rfl) | rfl
  all_goals exact absurd h (by decide)

theorem visible (h : BeginsInteger c) : 32 ≤ c.toNat := by
  rcases h with h | rfl
  · have hbounds := Utf8.digit_bounds h
    omega
  · decide

/-- What a whole number begins with, nothing else begins with. -/
theorem value? (h : BeginsInteger c) (fuel : Nat) (s : List Char) :
    JsonText.value? (fuel + 1) (c :: s)
      = (numeral? (c :: s)).map fun (numeral, rest) => (number numeral, rest) := by
  have hquote : c ≠ '"' := h.ne (by decide)
  have hbracket : c ≠ '[' := h.ne (by decide)
  have hbrace : c ≠ '\x7b' := h.ne (by decide)
  have hnull : c ≠ 'n' := h.ne (by decide)
  have htrue : c ≠ 't' := h.ne (by decide)
  have hfalse : c ≠ 'f' := h.ne (by decide)
  rw [JsonText.value?, skip_cons h.not_gap]
  simp [hquote, hbracket, hbrace, hnull, htrue, hfalse]

end BeginsInteger

theorem integerChars_cons (n : Int) :
    ∃ c w, integerChars n = c :: w ∧ BeginsInteger c ∧ ∀ d ∈ w, d.isDigit = true := by
  have hdigits := JsonNumeral.isDigit_toDigits n.natAbs
  rw [integerChars]
  split
  · exact ⟨'-', _, rfl, .inr rfl, hdigits⟩
  · have hne : Nat.toDigits 10 n.natAbs ≠ [] := Nat.toDigits_ne_nil
    obtain ⟨c, w, hcons⟩ := List.exists_cons_of_ne_nil hne
    rw [hcons] at hdigits ⊢
    obtain ⟨hc, hw⟩ := List.forall_mem_cons.mp hdigits
    exact ⟨c, w, rfl, .inl hc, hw⟩

/-- A whole number is read up to what cannot go on with it. -/
theorem spells_integer (n : JsonInteger) :
    Spells (.integer n) (.number (JsonNumeral.ofInt n.value)) := by
  obtain ⟨c, w, hchars, hfirst, hdigits⟩ := integerChars_cons n.value
  refine spells_scalar c w ?_ hfirst.not_gap (hfirst.ne (by decide)) ?_ ?_
  · intro rest
    show integerChars n.value ++ rest = _
    rw [hchars, List.cons_append]
  · refine isVisible_cons.mpr ⟨hfirst.visible, fun d hd => ?_⟩
    have hbounds := Utf8.digit_bounds (hdigits d hd)
    omega
  · intro fuel rest hstop
    have hnumeral := numeral?_integerChars n.value hstop
    rw [hchars, List.cons_append] at hnumeral
    rw [hfirst.value?, hnumeral, Option.map_some]

end Scalars

/-! ### Arrays -/

section Arrays

variable {items : List Json} {trees : List JsonText}

/-- The text of items is no shorter than what follows it; the fuel of a reader is counted by such
lengths. -/
theorem length_renderItems (h : List.Forall₂ Spells items trees) (first : Bool) (rest : List Char) :
    rest.length ≤ (renderItems first items rest).length := by
  induction h generalizing first with
  | nil => exact Nat.le_refl _
  | @cons item tree items trees hitem _ ih =>
    have hlonger := hitem.longer (renderItems false items rest)
    have hrest := ih false
    cases first with
    | true =>
      show rest.length ≤ (render item (renderItems false items rest)).length
      omega
    | false =>
      show rest.length ≤ (render item (renderItems false items rest)).length + 1
      omega

theorem isVisible_renderItems (h : List.Forall₂ Spells items trees) (first : Bool)
    {rest : List Char} (hrest : IsVisible rest) : IsVisible (renderItems first items rest) := by
  induction h generalizing first with
  | nil => exact hrest
  | @cons item tree items trees hitem _ ih =>
    have hvisible := hitem.visible _ (ih false)
    cases first with
    | true => exact hvisible
    | false => exact isVisible_cons.mpr ⟨by decide, hvisible⟩

/-- The items are read up to the closing bracket. -/
theorem items?_render (h : List.Forall₂ Spells items trees) (hne : items ≠ []) (fuel : Nat)
    (rest : List Char)
    (hfuel : (renderItems true items (']' :: rest)).length ≤ fuel + rest.length) :
    items? fuel (renderItems true items (']' :: rest)) = some (trees, rest) := by
  induction h generalizing fuel with
  | nil => exact absurd rfl hne
  | @cons item tree items trees hitem hitems ih =>
    let behind := renderItems false items (']' :: rest)
    have hfuel : (render item behind).length ≤ fuel + rest.length := hfuel
    have hbehind : rest.length + 1 ≤ behind.length :=
      length_renderItems hitems false (']' :: rest)
    have hlonger := hitem.longer behind
    obtain ⟨fuel, rfl⟩ := Nat.exists_eq_succ_of_ne_zero (show fuel ≠ 0 by omega)
    have hread (hstop : Stops continuesNumber behind) :
        value? fuel (render item behind) = some (tree, behind) :=
      hitem.read fuel behind hstop (by omega)
    show items? (fuel + 1) (render item behind) = _
    cases hitems with
    | nil =>
      rw [items?, hread (stops_cons.mpr (by decide))]
      rfl
    | @cons next nextTree more moreTrees hnext hmore =>
      -- The item takes a step of the reader, and with the comma at least two characters.
      have hmoreLength :
          (renderItems true (next :: more) (']' :: rest)).length + 1 = behind.length := rfl
      have hmore := ih (List.cons_ne_nil _ _) fuel (by omega)
      rw [items?, hread (stops_cons.mpr (by decide))]
      show (items? fuel (renderItems true (next :: more) (']' :: rest))).bind _ = _
      rw [hmore]
      rfl

/-- An array is spelled when its items are. -/
theorem spells_array (h : List.Forall₂ Spells items trees) :
    Spells (.array items) (.array trees) where
  begins rest := ⟨'[', renderItems true items (']' :: rest), rfl, by decide, by decide⟩
  longer rest := by
    have hlength := length_renderItems h true (']' :: rest)
    show rest.length < (renderItems true items (']' :: rest)).length + 1
    rw [List.length_cons] at hlength
    omega
  visible rest hrest := by
    have hclosing : IsVisible (']' :: rest) := isVisible_cons.mpr ⟨by decide, hrest⟩
    exact isVisible_cons.mpr ⟨by decide, isVisible_renderItems h true hclosing⟩
  read fuel rest _ hfuel := by
    have hfuel : (renderItems true items (']' :: rest)).length + 1 ≤ fuel + rest.length := hfuel
    have hlength := length_renderItems h true (']' :: rest)
    rw [List.length_cons] at hlength
    obtain ⟨fuel, rfl⟩ := Nat.exists_eq_succ_of_ne_zero (show fuel ≠ 0 by omega)
    show value? (fuel + 1) ('[' :: renderItems true items (']' :: rest)) = _
    cases h with
    | nil => rfl
    | @cons item tree items trees hitem hitems =>
      have hitems := items?_render (.cons hitem hitems) (List.cons_ne_nil _ _) fuel rest (by omega)
      obtain ⟨c, s, hbegins, hgap, hbracket⟩ := hitem.begins (renderItems false items (']' :: rest))
      have htext : renderItems true (item :: items) (']' :: rest) = c :: s := hbegins
      rw [htext] at hitems ⊢
      rw [value?, skip_cons (by decide)]
      simp only [skip_cons hgap]
      simp [hbracket, hitems]

end Arrays

/-! ### Objects -/

section Objects

variable {members : List (String × Json)} {trees : List (List Char × JsonText)}

/-- A member of an object is read as a member of a tree. -/
structure SpellsMember (member : String × Json) (tree : List Char × JsonText) : Prop where
  key : tree.1 = escaped member.1.toList
  value : Spells member.2 tree.2

theorem renderMembers_cons (key : String) (value : Json) (rest : List Char) :
    renderMembers true ((key, value) :: members) rest
      = '"' :: (escaped key.toList
        ++ '"' :: ':' :: render value (renderMembers false members rest)) :=
  quoted_eq key _

theorem length_renderMembers (h : List.Forall₂ SpellsMember members trees) (first : Bool)
    (rest : List Char) : rest.length ≤ (renderMembers first members rest).length := by
  induction h generalizing first with
  | nil => exact Nat.le_refl _
  | @cons member tree members trees hmember _ ih =>
    obtain ⟨key, value⟩ := member
    have hvalue : Spells value tree.2 := hmember.value
    have hlonger := hvalue.longer (renderMembers false members rest)
    have hrest := ih false
    have htrue : rest.length ≤ (renderMembers true ((key, value) :: members) rest).length := by
      rw [renderMembers_cons]
      simp only [List.length_cons, List.length_append]
      omega
    cases first with
    | true => exact htrue
    | false => exact Nat.le_succ_of_le htrue

theorem isVisible_renderMembers (h : List.Forall₂ SpellsMember members trees) (first : Bool)
    {rest : List Char} (hrest : IsVisible rest) : IsVisible (renderMembers first members rest) := by
  induction h generalizing first with
  | nil => exact hrest
  | @cons member tree members trees hmember _ ih =>
    obtain ⟨key, value⟩ := member
    have hvalue : IsVisible (render value (renderMembers false members rest)) :=
      hmember.value.visible _ (ih false)
    have htrue : IsVisible (renderMembers true ((key, value) :: members) rest) := by
      rw [renderMembers_cons]
      refine isVisible_cons.mpr ⟨by decide, isVisible_append.mpr ⟨isVisible_escaped _, ?_⟩⟩
      exact isVisible_cons.mpr ⟨by decide, isVisible_cons.mpr ⟨by decide, hvalue⟩⟩
    cases first with
    | true => exact htrue
    | false => exact isVisible_cons.mpr ⟨by decide, htrue⟩

/-- The members are read up to the closing brace. -/
theorem members?_render (h : List.Forall₂ SpellsMember members trees) (hne : members ≠ [])
    (fuel : Nat) (rest : List Char)
    (hfuel : (renderMembers true members ('\x7d' :: rest)).length ≤ fuel + rest.length) :
    members? fuel (renderMembers true members ('\x7d' :: rest)) = some (trees, rest) := by
  induction h generalizing fuel with
  | nil => exact absurd rfl hne
  | @cons member tree members trees hmember hmembers ih =>
    obtain ⟨key, value⟩ := member
    obtain ⟨raw, tree⟩ := tree
    obtain ⟨rfl, hvalue⟩ : raw = escaped key.toList ∧ Spells value tree :=
      ⟨hmember.key, hmember.value⟩
    let behind := renderMembers false members ('\x7d' :: rest)
    have htext : renderMembers true ((key, value) :: members) ('\x7d' :: rest)
        = '"' :: (escaped key.toList ++ '"' :: ':' :: render value behind) :=
      renderMembers_cons key value _
    have hbehind : rest.length + 1 ≤ behind.length :=
      length_renderMembers hmembers false ('\x7d' :: rest)
    have hlonger := hvalue.longer behind
    rw [htext] at hfuel ⊢
    simp only [List.length_cons, List.length_append] at hfuel
    -- The key takes the reader's step and at least three characters, so the fuel that is left is
    -- enough for the value and for the members behind it.
    obtain ⟨fuel, rfl⟩ := Nat.exists_eq_succ_of_ne_zero (show fuel ≠ 0 by omega)
    have hread (hstop : Stops continuesNumber behind) :
        value? fuel (render value behind) = some (tree, behind) :=
      hvalue.read fuel behind hstop (by omega)
    cases hmembers with
    | nil =>
      have hread := hread (stops_cons.mpr (by decide))
      rw [members?, skip_cons (by decide)]
      simp only [stringBody?_escaped]
      show (value? fuel (render value behind)).bind _ = _
      rw [hread]
      rfl
    | @cons next nextTree more moreTrees hnext hmore =>
      have hread := hread (stops_cons.mpr (by decide))
      have hmoreLength :
          (renderMembers true (next :: more) ('\x7d' :: rest)).length + 1 = behind.length := rfl
      have hmore := ih (List.cons_ne_nil _ _) fuel (by omega)
      rw [members?, skip_cons (by decide)]
      simp only [stringBody?_escaped]
      show (value? fuel (render value behind)).bind _ = _
      rw [hread]
      show (members? fuel (renderMembers true (next :: more) ('\x7d' :: rest))).bind _ = _
      rw [hmore]
      rfl

/-- An object is spelled when its members are. -/
theorem spells_object (h : List.Forall₂ SpellsMember members trees) :
    Spells (.object members) (.object trees) where
  begins rest := ⟨'\x7b', renderMembers true members ('\x7d' :: rest), rfl, by decide, by decide⟩
  longer rest := by
    have hlength := length_renderMembers h true ('\x7d' :: rest)
    show rest.length < (renderMembers true members ('\x7d' :: rest)).length + 1
    rw [List.length_cons] at hlength
    omega
  visible rest hrest := by
    have hclosing : IsVisible ('\x7d' :: rest) := isVisible_cons.mpr ⟨by decide, hrest⟩
    exact isVisible_cons.mpr ⟨by decide, isVisible_renderMembers h true hclosing⟩
  read fuel rest _ hfuel := by
    have hfuel : (renderMembers true members ('\x7d' :: rest)).length + 1 ≤ fuel + rest.length :=
      hfuel
    have hlength := length_renderMembers h true ('\x7d' :: rest)
    rw [List.length_cons] at hlength
    obtain ⟨fuel, rfl⟩ := Nat.exists_eq_succ_of_ne_zero (show fuel ≠ 0 by omega)
    show value? (fuel + 1) ('\x7b' :: renderMembers true members ('\x7d' :: rest)) = _
    cases h with
    | nil => rfl
    | @cons member tree members trees hmember hmembers =>
      have hmembers := members?_render (.cons hmember hmembers) (List.cons_ne_nil _ _) fuel rest
        (by omega)
      have htext : renderMembers true (member :: members) ('\x7d' :: rest) = '"' :: _ :=
        renderMembers_cons member.1 member.2 _
      rw [htext] at hmembers ⊢
      rw [value?, skip_cons (by decide)]
      simp only [skip_cons (show isGap '"' = false by decide)]
      simp [hmembers]

end Objects

end Json

end AqlGateway
