import Mathlib.Algebra.Ring.Parity
import AqlGateway.Proofs.Text.Trim

/-!
# Quoted stretches

The single quotes of a text are counted from its beginning. A quoted stretch stands between a quote
with an odd number and the next one.

* `stretches` — the quoted stretches of a text, in order;
* `StretchAt` — where a stretch stands; `mem_stretches_iff` ties the two;
* `stretches_append`, `stretches_plain_append`, `stretches_append_plain` — the stretches of texts put
  side by side;
* `stretches_trim` — the blanks around a text hold none;
* `apart_of_even` — what stands outside of all stretches.
-/

namespace AqlGateway.Text

/-- The quoted stretches of a text, for a reader who stands outside of them, or in one of which he has
read a part. -/
def stretchesFrom : Option (List Char) → List Char → List (List Char)
  | _, [] => []
  | none, c :: s => if c = '\'' then stretchesFrom (some []) s else stretchesFrom none s
  | some part, c :: s =>
    if c = '\'' then part :: stretchesFrom none s else stretchesFrom (some (part ++ [c])) s

def stretches (s : List Char) : List (List Char) := stretchesFrom none s

/-- A quoted stretch stands between what is in front of its first quote and what is behind its last
one. -/
structure StretchAt (s front body back : List Char) : Prop where
  split : s = front ++ '\'' :: (body ++ '\'' :: back)
  opens : Even (front.count '\'')
  plain : '\'' ∉ body

variable {s t front body back : List Char} {part : Option (List Char)}

/-! ### Reading along -/

theorem stretchesFrom_quote (s : List Char) :
    stretchesFrom none ('\'' :: s) = stretchesFrom (some []) s := by
  rw [stretchesFrom, if_pos rfl]

theorem stretchesFrom_close (part s : List Char) :
    stretchesFrom (some part) ('\'' :: s) = part :: stretchesFrom none s := by
  rw [stretchesFrom, if_pos rfl]

theorem stretchesFrom_outside {c : Char} (hc : c ≠ '\'') (s : List Char) :
    stretchesFrom none (c :: s) = stretchesFrom none s := by
  rw [stretchesFrom, if_neg hc]

theorem stretchesFrom_inside {c : Char} (hc : c ≠ '\'') (part s : List Char) :
    stretchesFrom (some part) (c :: s) = stretchesFrom (some (part ++ [c])) s := by
  rw [stretchesFrom, if_neg hc]

/-- No stretch ends in a text without quotes. -/
theorem stretchesFrom_plain (h : '\'' ∉ s) : stretchesFrom part s = [] := by
  induction s generalizing part with
  | nil => cases part <;> rfl
  | cons c s ih =>
    have hc : c ≠ '\'' := fun hc => h (by simp [hc])
    have hs : '\'' ∉ s := fun hs => h (by simp [hs])
    cases part with
    | none => rw [stretchesFrom_outside hc, ih hs]
    | some part => rw [stretchesFrom_inside hc, ih hs]

/-- A text without quotes adds no stretch to what stands in front of it. -/
theorem stretchesFrom_append_plain (h : '\'' ∉ t) :
    stretchesFrom part (s ++ t) = stretchesFrom part s := by
  induction s generalizing part with
  | nil => rw [List.nil_append, stretchesFrom_plain h, stretchesFrom_plain List.not_mem_nil]
  | cons c s ih =>
    by_cases hc : c = '\''
    · subst hc
      cases part with
      | none => rw [List.cons_append, stretchesFrom_quote, stretchesFrom_quote, ih]
      | some part => rw [List.cons_append, stretchesFrom_close, stretchesFrom_close, ih]
    · cases part with
      | none => rw [List.cons_append, stretchesFrom_outside hc, stretchesFrom_outside hc, ih]
      | some part => rw [List.cons_append, stretchesFrom_inside hc, stretchesFrom_inside hc, ih]

/-- A reader who has closed all stretches goes on as from the beginning. -/
theorem stretchesFrom_append (h : Even (s.count '\'' + part.isSome.toNat)) :
    stretchesFrom part (s ++ t) = stretchesFrom part s ++ stretches t := by
  induction s generalizing part with
  | nil =>
    cases part with
    | none => rfl
    | some part => exact absurd h (by simp)
  | cons c s ih =>
    by_cases hc : c = '\''
    · subst hc
      rw [List.count_cons_self] at h
      cases part with
      | none => rw [List.cons_append, stretchesFrom_quote, stretchesFrom_quote, ih (by simpa using h)]
      | some part =>
        have hs : Even (s.count '\'') := by simpa [Nat.even_add_one] using h
        rw [List.cons_append, stretchesFrom_close, stretchesFrom_close, ih (by simpa using hs)]
        rfl
    · rw [List.count_cons_of_ne hc] at h
      cases part with
      | none => rw [List.cons_append, stretchesFrom_outside hc, stretchesFrom_outside hc, ih h]
      | some part =>
        have hs : Even (s.count '\'' + (some (part ++ [c])).isSome.toNat) := h
        rw [List.cons_append, stretchesFrom_inside hc, stretchesFrom_inside hc, ih hs]

/-! ### Texts side by side -/

/-- Behind closed quotes the stretches of a text begin anew. -/
theorem stretches_append (h : Even (s.count '\'')) :
    stretches (s ++ t) = stretches s ++ stretches t :=
  stretchesFrom_append h

theorem stretches_plain (h : '\'' ∉ s) : stretches s = [] := stretchesFrom_plain h

theorem stretches_append_plain (h : '\'' ∉ t) : stretches (s ++ t) = stretches s :=
  stretchesFrom_append_plain h

theorem stretches_plain_append (h : '\'' ∉ s) : stretches (s ++ t) = stretches t := by
  rw [stretches_append (by rw [List.count_eq_zero_of_not_mem h]; exact Even.zero),
    stretches_plain h, List.nil_append]

theorem notMem_quote_of_blanks (h : ∀ c ∈ s, isBlank c = true) : '\'' ∉ s := fun hmem =>
  absurd (h _ hmem) (by decide)

/-- Blanks at either end are no part of a quoted stretch. -/
theorem stretches_trim (s : List Char) : stretches (trim s) = stretches s := by
  obtain ⟨a, b, hs, ha, hb⟩ := trim_spec s
  calc stretches (trim s) = stretches (a ++ trim s) :=
        (stretches_plain_append (notMem_quote_of_blanks ha)).symm
    _ = stretches (a ++ trim s ++ b) := (stretches_append_plain (notMem_quote_of_blanks hb)).symm
    _ = stretches s := by rw [← hs]

theorem stretches_quoted (h : '\'' ∉ body) :
    stretches ('\'' :: (body ++ '\'' :: t)) = body :: stretches t := by
  have hinside : ∀ part, stretchesFrom (some part) (body ++ '\'' :: t) = (part ++ body) :: stretches t := by
    induction body with
    | nil =>
      intro part
      rw [List.nil_append, stretchesFrom_close, List.append_nil]
      rfl
    | cons c body ih =>
      intro part
      have hc : c ≠ '\'' := fun hc => h (by simp [hc])
      rw [List.cons_append, stretchesFrom_inside hc, ih fun hmem => h (by simp [hmem])]
      simp
  rw [stretches, stretchesFrom_quote, hinside, List.nil_append]

/-! ### Where stretches stand -/

theorem StretchAt.mem (h : StretchAt s front body back) : body ∈ stretches s := by
  rw [h.split, stretches_append h.opens, stretches_quoted h.plain]
  simp

/-- Every stretch stands somewhere. -/
theorem exists_stretchAt (h : body ∈ stretches s) : ∃ front back, StretchAt s front body back := by
  induction hlength : s.length using Nat.strong_induction_on generalizing s with
  | _ n ih =>
    by_cases hs : '\'' ∈ s
    · obtain ⟨p, r, rfl, hp⟩ := List.eq_append_cons_of_mem hs
      rw [stretches_plain_append hp] at h
      by_cases hr : '\'' ∈ r
      · obtain ⟨b, t, rfl, hb⟩ := List.eq_append_cons_of_mem hr
        rw [stretches_quoted hb] at h
        rcases List.mem_cons.mp h with rfl | h
        · exact ⟨p, t, rfl, by rw [List.count_eq_zero_of_not_mem hp]; exact Even.zero, hb⟩
        · obtain ⟨front, back, hat⟩ := ih t.length (by simp at hlength; omega) h rfl
          refine ⟨p ++ '\'' :: (b ++ '\'' :: front), back, ?_, ?_, hat.plain⟩
          · rw [hat.split]
            simp only [List.append_assoc, List.cons_append]
          · have hquotes : (p ++ '\'' :: (b ++ '\'' :: front)).count '\'' = front.count '\'' + 2 := by
              simp [List.count_append, List.count_eq_zero_of_not_mem hp,
                List.count_eq_zero_of_not_mem hb]
            rw [hquotes]
            exact hat.opens.add even_two
      · rw [stretches, stretchesFrom_quote, stretchesFrom_plain hr] at h
        exact absurd h List.not_mem_nil
    · rw [stretches_plain hs] at h
      exact absurd h List.not_mem_nil

/-- The stretches of a text are the texts between a quote with an odd number and the next one. -/
theorem mem_stretches_iff : body ∈ stretches s ↔ ∃ front back, StretchAt s front body back :=
  ⟨exists_stretchAt, fun ⟨_, _, h⟩ => h.mem⟩

/-- A doubled quote ends a stretch and begins the next one; a quote without a partner begins none. -/
example : stretches "a='x''y' AND b='".toList = ["x".toList, "y".toList] := by decide

/-- A part without quotes behind an even number of them lies in front of a stretch or behind it, the
quotes of the stretch included. -/
theorem apart_of_even {before word rest : List Char} (hs : s = before ++ (word ++ rest))
    (heven : Even (before.count '\'')) (hne : word ≠ []) (hword : '\'' ∉ word)
    (h : StretchAt s front body back) :
    '\'' :: (body ++ '\'' :: back) <:+ rest ∨ word ++ rest <:+ back := by
  have hsplit := hs.symm.trans h.split
  rcases List.append_eq_append_iff.mp hsplit with ⟨a, hfront, ha⟩ | ⟨a, hbefore, ha⟩
  · -- The stretch begins behind the beginning of the part, and so behind its end.
    left
    rcases List.append_eq_append_iff.mp ha with ⟨a', -, hrest⟩ | ⟨a', hword', hrest⟩
    · exact ⟨a', hrest.symm⟩
    · cases a' with
      | nil => exact ⟨[], hrest⟩
      | cons c a' => exact absurd (List.cons.inj hrest).1 fun hc => hword (by simp [hword', ← hc])
  · -- It begins in front of the part, which does not begin inside of it.
    right
    have heven' : Even (a.count '\'') := by
      rw [hbefore, List.count_append] at heven
      exact (Nat.even_add.mp heven).mp h.opens
    have hnot : ∀ r r', word ++ r ≠ '\'' :: r' := by
      intro r r' h
      cases word with
      | nil => exact hne rfl
      | cons c word => exact hword (by simp [(List.cons.inj h).1])
    cases a with
    | nil => exact absurd ha.symm (hnot _ _)
    | cons c a =>
      rw [List.cons_append, List.cons.injEq] at ha
      obtain ⟨rfl, ha⟩ := ha
      rcases List.append_eq_append_iff.mp ha with ⟨a', -, hback⟩ | ⟨a', hbody, -⟩
      · cases a' with
        | nil => exact absurd hback.symm (hnot _ _)
        | cons d a' => exact ⟨a', (List.cons.inj hback).2.symm⟩
      · have ha : '\'' ∉ a := fun hmem => h.plain (by simp [hbody, hmem])
        rw [List.count_cons_self, List.count_eq_zero_of_not_mem ha] at heven'
        exact absurd heven' (by decide)

end AqlGateway.Text
