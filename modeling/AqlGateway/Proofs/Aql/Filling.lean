import AqlGateway.Proofs.Aql.Rendering
import AqlGateway.Proofs.Text.Pieces
import AqlGateway.Proofs.Text.Trim

/-!
# Placeholders filled with literals

* `fillPlaceholders` — a text with the literal of the `i`-th value in place of each `$i`;
* `Slot` — a value of a statement together with the text in front of it;
* `fill_notMem`, `fill_placeholder` — how a text is filled from left to right;
* `fill_slots` — joined slots with placeholders are filled to the joined slots with literals.
-/

namespace AqlGateway.Aql

open Text

/-- The value that a placeholder with these digits stands for. -/
def parameter? (params : List Value) (digits : List Char) : Option Value :=
  match Nat.ofDigitChars 10 digits 0 with
  | 0 => none
  | i + 1 => params[i]?

/-- A piece of text behind a dollar sign, its digits replaced by the literal that they stand for. -/
def filledPiece (params : List Value) (piece : List Char) : List Char :=
  match parameter? params (piece.takeWhile Char.isDigit) with
  | some value => value.literal.toList ++ piece.dropWhile Char.isDigit
  | none => '$' :: piece

/-- A text with the literal of the `i`-th value in place of each `$i`. Literals are not filled
themselves. -/
def fillPlaceholders (params : List Value) (s : List Char) : List Char :=
  match splitOn '$' s with
  | [] => []
  | first :: rest => first ++ rest.flatMap (filledPiece params)

/-- The SQL of a query with its values written into it. -/
def BoundQuery.filled (q : BoundQuery) : String :=
  String.ofList (fillPlaceholders q.params q.sql.toList)

/-! ### Filling from left to right -/

variable {params : List Value} {s r : List Char}

theorem fill_cons {c : Char} (hc : c ≠ '$') :
    fillPlaceholders params (c :: s) = c :: fillPlaceholders params s := by
  rw [fillPlaceholders, fillPlaceholders, splitOn, if_neg hc]
  cases hs : splitOn '$' s with
  | nil => exact absurd hs (splitOn_ne_nil '$' s)
  | cons piece pieces => rfl

theorem fill_notMem (hs : '$' ∉ s) :
    fillPlaceholders params (s ++ r) = s ++ fillPlaceholders params r := by
  induction s with
  | nil => rfl
  | cons c s ih =>
    have hc : c ≠ '$' := fun h => hs (by simp [h])
    rw [List.cons_append, fill_cons hc, ih fun h => hs (by simp [h]), List.cons_append]

theorem fill_of_notMem (hs : '$' ∉ s) : fillPlaceholders params s = s := by
  rw [fillPlaceholders, splitOn_of_notMem hs]
  exact List.append_nil s

/-- What stands in front of a text without dollar signs goes to the first piece. -/
theorem splitOn_behind (r : List Char) :
    ∃ first rest, splitOn '$' r = first :: rest ∧ first <+: r ∧
      ∀ w, '$' ∉ w → splitOn '$' (w ++ r) = (w ++ first) :: rest := by
  have hnil : '$' ∉ ([] : List Char) := List.not_mem_nil
  obtain ⟨first, rest, hr, hprefix⟩ := splitOn_part hnil r
  rw [List.nil_append, List.nil_append] at hr
  refine ⟨first, rest, hr, hprefix, ?_⟩
  intro w hw
  induction w with
  | nil => exact hr
  | cons c w ih =>
    have hc : c ≠ '$' := fun h => hw (by simp [h])
    rw [List.cons_append, splitOn, if_neg hc, ih fun h => hw (by simp [h])]
    rfl

/-- A placeholder is filled when the text does not go on with digits behind it. -/
theorem fill_digits {digits : List Char} {value : Value} (hdigits : ∀ c ∈ digits, c.isDigit = true)
    (hr : Stops Char.isDigit r) (hvalue : parameter? params digits = some value) :
    fillPlaceholders params ('$' :: (digits ++ r))
      = value.literal.toList ++ fillPlaceholders params r := by
  have hdollar : '$' ∉ digits := fun h => absurd (hdigits '$' h) (by decide)
  obtain ⟨first, rest, hsplit, hprefix, hbehind⟩ := splitOn_behind r
  have hfirst : Stops Char.isDigit first := by
    obtain ⟨y, rfl⟩ := hprefix
    cases first with
    | nil => exact stops_nil
    | cons c first => exact stops_cons.mpr (stops_cons.mp hr)
  have hpiece : filledPiece params (digits ++ first) = value.literal.toList ++ first := by
    rw [filledPiece, takeWhile_run hdigits hfirst, dropWhile_run hdigits hfirst, hvalue]
  rw [fillPlaceholders, splitOn, if_pos rfl, hbehind digits hdollar, fillPlaceholders, hsplit]
  show [] ++ (filledPiece params (digits ++ first) ++ rest.flatMap _) = _
  rw [hpiece, List.nil_append, List.append_assoc]

/-- A placeholder behind which no digit stands is filled with the value of its number. -/
theorem fill_placeholder {i : Nat} {value : Value} (hr : Stops Char.isDigit r)
    (hvalue : params[i]? = some value) :
    fillPlaceholders params ((placeholder (i + 1)).toList ++ r)
      = value.literal.toList ++ fillPlaceholders params r := by
  have hnumber : parameter? params (Nat.toDigits 10 (i + 1)) = some value := by
    rw [parameter?, Nat.ofDigitChars_toDigits (by decide) (by decide)]
    exact hvalue
  rw [toList_placeholder, List.cons_append]
  exact fill_digits (fun c hc => Nat.isDigit_of_mem_toDigits (by decide) (by decide) hc) hr hnumber

/-! ### Slots -/

/-- A value of a statement and the text in front of it. -/
structure Slot where
  lead : String
  value : Value

namespace Slot

def literalText (slot : Slot) : String := slot.lead ++ slot.value.literal

/-- Slots with placeholders behind the first `n`. -/
def numberedTexts (n : Nat) : List Slot → List String
  | [] => []
  | slot :: rest => (slot.lead ++ placeholder (n + 1)) :: numberedTexts (n + 1) rest

/-- Slots are numbered behind the slots in front of them. -/
theorem numberedTexts_append (n : Nat) (l m : List Slot) :
    numberedTexts n (l ++ m) = numberedTexts n l ++ numberedTexts (n + l.length) m := by
  induction l generalizing n with
  | nil => rfl
  | cons slot l ih =>
    have hcount : n + 1 + l.length = n + (l.length + 1) := by omega
    rw [List.cons_append, numberedTexts, numberedTexts, ih, hcount]
    rfl

theorem numberedTexts_ne_nil {n : Nat} {slots : List Slot} (h : slots ≠ []) :
    numberedTexts n slots ≠ [] := by
  cases slots with
  | nil => exact absurd rfl h
  | cons slot rest => exact List.cons_ne_nil _ _

/-- Joined slots with placeholders are filled to the joined slots with literals, when their values
are the parameters behind the first `n`. -/
theorem fill_slots {separator : String} {slots : List Slot} {n : Nat} {before after : List Value}
    (hparams : params = before ++ (slots.map Slot.value ++ after)) (hn : before.length = n)
    (hseparator : '$' ∉ separator.toList) (hstop : Stops Char.isDigit separator.toList)
    (hne : separator.toList ≠ []) (hleads : ∀ slot ∈ slots, '$' ∉ slot.lead.toList)
    (hr : Stops Char.isDigit r) :
    fillPlaceholders params ((joinWith separator (numberedTexts n slots)).toList ++ r)
      = (joinWith separator (slots.map literalText)).toList ++ fillPlaceholders params r := by
  induction slots generalizing n before with
  | nil => rfl
  | cons slot rest ih =>
    have hvalue : params[n]? = some slot.value := by simp [hparams, ← hn]
    have hslot : ∀ r, Stops Char.isDigit r →
        fillPlaceholders params (slot.lead.toList ++ ((placeholder (n + 1)).toList ++ r))
          = slot.literalText.toList ++ fillPlaceholders params r := by
      intro r hr
      rw [fill_notMem (hleads slot (by simp)), fill_placeholder hr hvalue, literalText,
        String.toList_append, List.append_assoc]
    -- The digits of a placeholder end at the separator, or at what stands behind all slots.
    by_cases hrest : rest = []
    · rw [hrest]
      show fillPlaceholders params ((slot.lead ++ placeholder (n + 1)).toList ++ r) = _
      rw [String.toList_append, List.append_assoc]
      exact hslot r hr
    · have hbehind : params = (before ++ [slot.value]) ++ (rest.map Slot.value ++ after) := by
        simp [hparams]
      have hcount : (before ++ [slot.value]).length = n + 1 := by simp [hn]
      have htail := ih hbehind hcount fun s hs => hleads s (by simp [hs])
      have hmap : rest.map literalText ≠ [] := by simpa using hrest
      rw [numberedTexts, List.map_cons, joinWith_cons (numberedTexts_ne_nil hrest),
        joinWith_cons hmap]
      simp only [String.toList_append, List.append_assoc]
      rw [hslot _ (stops_append hstop hne), fill_notMem hseparator, htail]

end Slot

end AqlGateway.Aql
