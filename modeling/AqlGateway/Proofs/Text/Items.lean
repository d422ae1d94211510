import AqlGateway.Proofs.Text.Join
import AqlGateway.Proofs.Text.Quoted

/-!
# Items of a list

A list is written with a comma between its items. A comma in a quoted stretch belongs to the item that
the stretch is in.

* `items` — the items of a list;
* `unquote?` — the text of an item that is a quoted literal;
* `IsItem` — a text that is read into one item, whatever is written behind it;
* `isItem_quoted`, `isItem_plain` — literals, and texts without quotes and commas, are such texts;
* `items_intercalate` — a list that was put together from such texts has these texts as its items.
-/

namespace AqlGateway.Text

/-- A text written in front of the first item. -/
def prepend (s : List Char) : List (List Char) → List (List Char)
  | [] => [s]
  | first :: rest => (s ++ first) :: rest

/-- The texts between the commas outside of quoted stretches, for a reader who is in such a stretch when
`quoted` holds. -/
def splitItems (quoted : Bool) : List Char → List (List Char)
  | [] => [[]]
  | c :: s =>
    if c = ',' ∧ quoted = false then [] :: splitItems false s
    else prepend [c] (splitItems (if c = '\'' then !quoted else quoted) s)

/-- A text without the space that it begins with, if there is one. -/
def withoutSpace : List Char → List Char
  | [] => []
  | c :: s => if c = ' ' then s else c :: s

theorem withoutSpace_space (s : List Char) : (withoutSpace ∘ (' ' :: ·)) s = id s := rfl

/-- The items of a list; a space behind a comma belongs to the comma. -/
def items (s : List Char) : List (List Char) :=
  match splitItems false s with
  | [] => []
  | first :: rest => first :: rest.map withoutSpace

/-- The text of a literal: the quotes around it are dropped, and a quote written twice is one. -/
def unquote? (s : List Char) : Option (List Char) :=
  if s.head? = some '\'' ∧ s.tail.getLast? = some '\'' then undoubled? s.tail.dropLast else none

theorem unquote?_quoted (s : List Char) : unquote? ('\'' :: (doubled s ++ ['\''])) = some s := by
  rw [unquote?, if_pos (by simp), List.tail_cons, List.dropLast_concat, undoubled?_doubled]

variable {s t : List Char}

/-! ### Reading along -/

theorem prepend_append (s t : List Char) (l : List (List Char)) :
    prepend (s ++ t) l = prepend s (prepend t l) := by
  cases l with
  | nil => rfl
  | cons first rest => rw [prepend, prepend, prepend, List.append_assoc]

theorem splitItems_ne_nil (quoted : Bool) (s : List Char) : splitItems quoted s ≠ [] := by
  cases s with
  | nil => exact List.cons_ne_nil _ _
  | cons c s =>
    rw [splitItems]
    split
    · exact List.cons_ne_nil _ _
    · cases splitItems (if c = '\'' then !quoted else quoted) s <;> exact List.cons_ne_nil _ _

theorem prepend_nil_splitItems (quoted : Bool) (s : List Char) :
    prepend [] (splitItems quoted s) = splitItems quoted s := by
  cases h : splitItems quoted s with
  | nil => exact absurd h (splitItems_ne_nil quoted s)
  | cons first rest => rfl

theorem splitItems_comma (s : List Char) : splitItems false (',' :: s) = [] :: splitItems false s := by
  rw [splitItems, if_pos ⟨rfl, rfl⟩]

/-- A quote changes sides and stays in its item. -/
theorem splitItems_quote (quoted : Bool) (s : List Char) :
    splitItems quoted ('\'' :: s) = prepend ['\''] (splitItems (!quoted) s) := by
  rw [splitItems, if_neg (by simp), if_pos rfl]

/-- Inside of quotes a comma is a character like any other. -/
theorem splitItems_inside {c : Char} (hc : c ≠ '\'') (s : List Char) :
    splitItems true (c :: s) = prepend [c] (splitItems true s) := by
  rw [splitItems, if_neg (by simp), if_neg hc]

theorem splitItems_outside {c : Char} (hquote : c ≠ '\'') (hcomma : c ≠ ',') (s : List Char) :
    splitItems false (c :: s) = prepend [c] (splitItems false s) := by
  rw [splitItems, if_neg (fun h => hcomma h.1), if_neg hquote]

/-- The inside of a literal is read without leaving it: its quotes come in pairs, and between the two of
a pair there is no comma. -/
theorem splitItems_doubled (s r : List Char) :
    splitItems true (doubled s ++ r) = prepend (doubled s) (splitItems true r) := by
  induction s with
  | nil => exact (prepend_nil_splitItems true r).symm
  | cons c s ih =>
    rw [doubled]
    split
    · rw [List.cons_append, List.cons_append, splitItems_quote, splitItems_quote, Bool.not_not, ih,
        ← prepend_append, ← prepend_append]
      rfl
    · next hc =>
      rw [List.cons_append, splitItems_inside hc, ih, ← prepend_append]
      rfl

/-! ### Texts that are items -/

/-- A text outside of whose quoted stretches there is no comma, and which ends outside of them. -/
def IsItem (s : List Char) : Prop := ∀ r, splitItems false (s ++ r) = prepend s (splitItems false r)

theorem isItem_quoted (s : List Char) : IsItem ('\'' :: (doubled s ++ ['\''])) := by
  intro r
  calc splitItems false ('\'' :: (doubled s ++ ['\'']) ++ r)
      = prepend ['\''] (splitItems true (doubled s ++ '\'' :: r)) := by
        rw [List.cons_append, splitItems_quote, List.append_assoc]
        rfl
    _ = prepend ['\''] (prepend (doubled s) (prepend ['\''] (splitItems false r))) := by
        rw [splitItems_doubled, splitItems_quote, Bool.not_true]
    _ = prepend ('\'' :: (doubled s ++ ['\''])) (splitItems false r) := by
        rw [← prepend_append, ← prepend_append]
        rfl

theorem isItem_plain (hquote : '\'' ∉ s) (hcomma : ',' ∉ s) : IsItem s := by
  intro r
  induction s with
  | nil => exact (prepend_nil_splitItems false r).symm
  | cons c s ih =>
    have hc : c ≠ '\'' := fun h => hquote (by simp [h])
    have hc' : c ≠ ',' := fun h => hcomma (by simp [h])
    have hs := ih (fun h => hquote (by simp [h])) fun h => hcomma (by simp [h])
    rw [List.cons_append, splitItems_outside hc hc', hs, ← prepend_append]
    rfl

theorem IsItem.split (hs : IsItem s) : splitItems false s = [s] := by
  have h := hs []
  rwa [List.append_nil, splitItems, prepend, List.append_nil] at h

/-- An item ends at the comma behind it. -/
theorem IsItem.split_comma (hs : IsItem s) (r : List Char) :
    splitItems false (s ++ ',' :: r) = s :: splitItems false r := by
  rw [hs, splitItems_comma, prepend, List.append_nil]

/-! ### Joined items -/

theorem toList_joinWith (separator : String) (l : List String) :
    (joinWith separator l).toList = separator.toList.intercalate (l.map String.toList) := by
  induction l with
  | nil => rfl
  | cons s l ih =>
    cases l with
    | nil => exact List.intercalate_singleton.symm
    | cons t l =>
      rw [joinWith_cons (List.cons_ne_nil t l), String.toList_append, String.toList_append, ih]
      exact List.intercalate_cons_cons.symm

theorem map_intercalate (f : Char → Char) (separator : List Char) (l : List (List Char)) :
    (separator.intercalate l).map f = (separator.map f).intercalate (l.map (List.map f)) := by
  induction l with
  | nil => rfl
  | cons s l ih =>
    cases l with
    | nil =>
      rw [List.map_singleton, List.intercalate_singleton, List.intercalate_singleton]
    | cons t l =>
      rw [List.intercalate_cons_cons, List.map_append, List.map_append, ih]
      exact List.intercalate_cons_cons.symm

/-- Behind each of joined items but the first one stands the space of a separator. -/
theorem splitItems_intercalate {first : List Char} {rest : List (List Char)} (hfirst : IsItem first)
    (hrest : ∀ s ∈ rest, IsItem s) :
    splitItems false ([',', ' '].intercalate (first :: rest)) = first :: rest.map (' ' :: ·) := by
  induction rest generalizing first with
  | nil =>
    rw [List.intercalate_singleton]
    exact hfirst.split
  | cons t rest ih =>
    have ht := ih (hrest t List.mem_cons_self) fun s hs => hrest s (List.mem_cons_of_mem t hs)
    rw [List.intercalate_cons_cons, List.append_assoc, List.cons_append, List.singleton_append,
      hfirst.split_comma, splitItems_outside (by decide) (by decide), ht]
    rfl

/-- Items that are joined are taken apart again. -/
theorem items_intercalate {l : List (List Char)} (hl : l ≠ []) (h : ∀ s ∈ l, IsItem s) :
    items ([',', ' '].intercalate l) = l := by
  cases l with
  | nil => exact absurd rfl hl
  | cons first rest =>
    have hsplit := splitItems_intercalate (h first List.mem_cons_self) fun s hs =>
      h s (List.mem_cons_of_mem first hs)
    rw [items, hsplit]
    show first :: (rest.map (' ' :: ·)).map withoutSpace = first :: rest
    rw [List.map_map, funext withoutSpace_space, List.map_id]

/-- A comma, a parenthesis and quotes in a literal, and a list without them. -/
example : items "'a, b'') c, ''', 7, 'd'".toList
    = ["'a, b'') c, '''".toList, "7".toList, "'d'".toList] := by decide

end AqlGateway.Text
