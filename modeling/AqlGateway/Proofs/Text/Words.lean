import AqlGateway.Proofs.Text.Join
import AqlGateway.Proofs.Text.Pieces

/-!
# Words

* `words` — the words of a text, each behind one space;
* `words_joinWith` — words joined by spaces are the words of the text;
* `joinWith_word` — parts with a word between them are words among other words.
-/

namespace AqlGateway.Text

def words (s : String) : List String := (splitOn ' ' s.toList).map String.ofList

variable {l : List String}

/-- Words without spaces are read back from their joined text. -/
theorem words_joinWith (hl : l ≠ []) (h : ∀ w ∈ l, ' ' ∉ w.toList) : words (joinWith " " l) = l := by
  induction l with
  | nil => exact absurd rfl hl
  | cons w rest ih =>
    have hw : ' ' ∉ w.toList := h w (by simp)
    cases rest with
    | nil =>
      show (splitOn ' ' w.toList).map String.ofList = [w]
      rw [splitOn_of_notMem hw, List.map_singleton, String.ofList_toList]
    | cons v rest =>
      have htext : (joinWith " " (w :: v :: rest)).toList
          = w.toList ++ ' ' :: (joinWith " " (v :: rest)).toList := by
        rw [joinWith_cons (by simp), String.toList_append, String.toList_append, List.append_assoc]
        rfl
      have hbehind := ih (by simp) fun u hu => h u (List.mem_cons_of_mem w hu)
      rw [words] at hbehind ⊢
      rw [htext, splitOn_append_separator, splitOn_of_notMem hw, List.map_append, hbehind]
      simp

/-- Parts with a word between them are words among other words. -/
theorem joinWith_word (word : String) (l : List String) :
    joinWith (" " ++ word ++ " ") l = joinWith " " (l.intersperse word) := by
  induction l with
  | nil => rfl
  | cons s rest ih =>
    cases rest with
    | nil => rfl
    | cons t rest =>
      have hne : (t :: rest).intersperse word ≠ [] := by
        cases rest <;> simp
      rw [joinWith_cons (by simp), ih, List.intersperse_cons_cons, joinWith_cons (by simp),
        joinWith_cons hne]
      simp only [String.append_assoc]

theorem mem_intersperse {word w : String} (h : w ∈ l.intersperse word) : w ∈ l ∨ w = word := by
  induction l with
  | nil => exact absurd h (by simp)
  | cons s rest ih =>
    cases rest with
    | nil => exact .inl h
    | cons t rest =>
      rw [List.intersperse_cons_cons, List.mem_cons, List.mem_cons] at h
      rcases h with rfl | rfl | h
      · exact .inl (by simp)
      · exact .inr rfl
      · exact (ih h).imp_left (List.mem_cons_of_mem s)

/-- What stands behind the last part stands behind them all. -/
theorem joinWith_append_last (separator : String) (l : List String) (s behind : String) :
    joinWith separator (l ++ [s ++ behind]) = joinWith separator (l ++ [s]) ++ behind := by
  by_cases hl : l = []
  · subst hl
    rfl
  · rw [joinWith_append hl (by simp), joinWith_append hl (by simp)]
    exact String.append_assoc.symm

end AqlGateway.Text
