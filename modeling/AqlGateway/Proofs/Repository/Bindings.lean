import AqlGateway.Proofs.Repository.RowQuery

/-!
# What placeholders stand for

The SQL of a statement says which column each of its placeholders belongs to: an insert lists the columns
and then the placeholders, and every other statement writes a column and its placeholder as one word.

* `lexemes` — the words of SQL without spaces, commas and parentheses;
* `Binding`, `bindings?` — the placeholders of SQL with their columns, in order; none when there is a
  placeholder without a column;
* `bound`, `columnTexts` — columns with placeholders behind the first ones;
* `lexemes_append`, `lexemes_joinWith` — SQL is taken apart where it was put together;
* `bindings?_insert`, `bindings?_equalities` — what is read of an insert and of other statements.
-/

namespace AqlGateway.Relational

open Aql Text

/-! ### Lexemes -/

/-- A space or the punctuation of a list. -/
def isBreak (c : Char) : Bool := c == ' ' || c == ',' || c == '(' || c == ')'

/-- What stands between breaks. -/
def cut (s : List Char) : List (List Char) :=
  (splitOn ' ' (s.map fun c => if isBreak c then ' ' else c)).filter fun piece => !piece.isEmpty

def lexemes (sql : String) : List String := (cut sql.toList).map String.ofList

/-- A word without breaks. -/
structure IsLexeme (w : String) : Prop where
  ne_nil : w.toList ≠ []
  chars : ∀ c ∈ w.toList, isBreak c = false

instance {w : String} : Decidable (IsLexeme w) :=
  decidable_of_iff (w.toList ≠ [] ∧ w.toList.all (fun c => !isBreak c) = true)
    ⟨fun h => ⟨h.1, fun c hc => by simpa using List.all_eq_true.mp h.2 c hc⟩,
      fun h => ⟨h.ne_nil, List.all_eq_true.mpr fun c hc => by simp [h.chars c hc]⟩⟩

theorem isBreak_of_isTokenChar {c : Char} (h : isTokenChar c = true) : isBreak c = false := by
  rw [isBreak]
  by_contra hc
  simp only [Bool.not_eq_false, Bool.or_eq_true, beq_iff_eq] at hc
  rcases hc with ((rfl | rfl) | rfl) | rfl <;> exact absurd h (by decide)

theorem isLexeme_of_isToken {w : String} (h : IsToken w) : IsLexeme w :=
  ⟨h.ne_nil, fun c hc => isBreak_of_isTokenChar (h.chars c hc)⟩

/-- A break ends a word, wherever it stands. -/
theorem cut_append_break {c : Char} (hc : isBreak c = true) (u s : List Char) :
    cut (u ++ c :: s) = cut u ++ cut s := by
  rw [cut, List.map_append, List.map_cons, if_pos hc, splitOn_append_separator, List.filter_append]
  rfl

theorem cut_breaks {w : List Char} (hw : ∀ c ∈ w, isBreak c = true) (s : List Char) :
    cut (w ++ s) = cut s := by
  induction w with
  | nil => rfl
  | cons c w ih =>
    obtain ⟨hc, hw⟩ := List.forall_mem_cons.mp hw
    exact (cut_append_break hc [] (w ++ s)).trans (ih hw)

theorem cut_word {w : List Char} (hne : w ≠ []) (hw : ∀ c ∈ w, isBreak c = false) : cut w = [w] := by
  have hmap : w.map (fun c => if isBreak c then ' ' else c) = w := by
    refine (List.map_congr_left fun c hc => ?_).trans (List.map_id w)
    rw [hw c hc]
    rfl
  have hspace : ' ' ∉ w := fun hmem => absurd (hw ' ' hmem) (by decide)
  have hempty : w.isEmpty = false := List.isEmpty_eq_false_iff.mpr hne
  rw [cut, hmap, splitOn_of_notMem hspace, List.filter_singleton, hempty]
  rfl

variable {separator : String}

/-- Between breaks SQL is taken apart. -/
theorem lexemes_append (hne : separator.toList ≠ [])
    (hbreaks : separator.toList.all isBreak = true) (s t : String) :
    lexemes (s ++ separator ++ t) = lexemes s ++ lexemes t := by
  obtain ⟨c, rest, hsplit⟩ := List.exists_cons_of_ne_nil hne
  rw [hsplit, List.all_cons, Bool.and_eq_true] at hbreaks
  rw [lexemes, String.toList_append, String.toList_append, hsplit, List.append_assoc,
    List.cons_append, cut_append_break hbreaks.1, cut_breaks (List.all_eq_true.mp hbreaks.2),
    List.map_append]
  rfl

theorem lexemes_word {w : String} (h : IsLexeme w) : lexemes w = [w] := by
  rw [lexemes, cut_word h.ne_nil h.chars, List.map_singleton, String.ofList_toList]

/-- Joined words are the words again. -/
theorem lexemes_joinWith (hne : separator.toList ≠ [])
    (hbreaks : separator.toList.all isBreak = true) {l : List String} (h : ∀ w ∈ l, IsLexeme w) :
    lexemes (joinWith separator l) = l := by
  induction l with
  | nil => rfl
  | cons w rest ih =>
    obtain ⟨hw, hrest⟩ := List.forall_mem_cons.mp h
    cases rest with
    | nil => exact lexemes_word hw
    | cons v rest =>
      rw [joinWith_cons (List.cons_ne_nil v rest), lexemes_append hne hbreaks, lexemes_word hw, ih hrest]
      rfl

/-! ### Reading placeholders -/

/-- A placeholder, by its number, and the column whose value it stands for. -/
structure Binding where
  column : String
  place : Nat
  deriving DecidableEq, Repr

namespace Binding

/-- The number of a placeholder. -/
def place? (word : String) : Option Nat :=
  match word.toList with
  | '$' :: digits => numberOf? digits
  | _ => none

/-- A column with an equals sign and a placeholder behind it. -/
def ofWord? (word : String) : Option Binding :=
  match Condition.ofWord? word with
  | some (.equals column place) => some ⟨column, place⟩
  | _ => none

def isBound (word : String) : Bool := word.toList.contains '$'

end Binding

open Binding

/-- The placeholders of an insert, behind the name of its table, with their columns. -/
def insertBindings? (rest : List String) : Option (List Binding) := do
  let columns := rest.takeWhile (· != "VALUES")
  let places ← ((rest.dropWhile (· != "VALUES")).drop 1).mapM place?
  if columns.length = places.length then some (List.zipWith Binding.mk columns places) else none

/-- The placeholders of SQL with their columns, none when one of them has no column. -/
def bindings? (sql : String) : Option (List Binding) :=
  match lexemes sql with
  | "INSERT" :: "INTO" :: _ :: rest => insertBindings? rest
  | words => (words.filter isBound).mapM Binding.ofWord?

/-- Columns with placeholders behind the first `n`. -/
def bound (n : Nat) : List String → List Binding
  | [] => []
  | column :: rest => ⟨column, n + 1⟩ :: bound (n + 1) rest

/-- Equalities of columns and placeholders behind the first `n`. -/
def columnTexts (n : Nat) : List String → List String
  | [] => []
  | column :: rest => (column ++ "=" ++ placeholder (n + 1)) :: columnTexts (n + 1) rest

section Columns

variable {columns : List String}

theorem map_place_bound (n : Nat) (columns : List String) :
    (bound n columns).map Binding.place = List.range' (n + 1) columns.length := by
  induction columns generalizing n with
  | nil => rfl
  | cons column rest ih =>
    rw [bound, List.map_cons, ih, List.length_cons, List.range'_succ]

theorem map_column_bound (n : Nat) (columns : List String) :
    (bound n columns).map Binding.column = columns := by
  induction columns generalizing n with
  | nil => rfl
  | cons column rest ih => rw [bound, List.map_cons, ih]

/-- Columns and running numbers, paired, are placeholders behind the first `n`. -/
theorem zipWith_bound (n : Nat) (columns : List String) :
    List.zipWith Binding.mk columns (List.range' (n + 1) columns.length) = bound n columns := by
  induction columns generalizing n with
  | nil => rfl
  | cons column rest ih =>
    rw [List.length_cons, List.range'_succ, List.zipWith_cons_cons, ih, bound]

theorem assignmentTexts_eq (n : Nat) (assignments : List Assignment) :
    assignmentTexts n assignments = columnTexts n (assignments.map Assignment.column) := by
  induction assignments generalizing n with
  | nil => rfl
  | cons a rest ih => rw [assignmentTexts, List.map_cons, columnTexts, ih]

/-- Placeholders are read back. -/
theorem mapM_placeholders (n count : Nat) :
    (placeholders n count).mapM place? = some (List.range' (n + 1) count) := by
  induction count generalizing n with
  | zero => rfl
  | succ count ih =>
    have hplace : place? (placeholder (n + 1)) = some (n + 1) := by
      rw [place?, toList_placeholder]
      exact numberOf?_toDigits (n + 1)
    rw [placeholders, List.mapM_cons, hplace, ih, List.range'_succ]
    rfl

/-- Equalities of columns and placeholders are read back. -/
theorem mapM_columnTexts (h : ∀ name ∈ columns, isIdentifier name = true) (n : Nat) :
    (columnTexts n columns).mapM Binding.ofWord? = some (bound n columns) := by
  induction columns generalizing n with
  | nil => rfl
  | cons column rest ih =>
    obtain ⟨hcolumn, hrest⟩ := List.forall_mem_cons.mp h
    have hword : Binding.ofWord? (column ++ "=" ++ placeholder (n + 1)) = some ⟨column, n + 1⟩ := by
      rw [Binding.ofWord?, ofWord?_placeholder hcolumn]
    rw [columnTexts, bound, List.mapM_cons, hword, ih hrest]
    rfl

theorem isToken_columnTexts (h : ∀ name ∈ columns, isIdentifier name = true) (n : Nat) :
    ∀ w ∈ columnTexts n columns, IsToken w := by
  induction columns generalizing n with
  | nil => exact fun w hw => absurd hw List.not_mem_nil
  | cons column rest ih =>
    obtain ⟨hcolumn, hrest⟩ := List.forall_mem_cons.mp h
    exact List.forall_mem_cons.mpr ⟨isToken_assignment hcolumn (n + 1), ih hrest (n + 1)⟩

theorem columnTexts_append (n : Nat) (front behind : List String) :
    columnTexts n (front ++ behind) = columnTexts n front ++ columnTexts (n + front.length) behind := by
  induction front generalizing n with
  | nil => rfl
  | cons column rest ih =>
    rw [List.cons_append, columnTexts, columnTexts, ih, List.length_cons, List.cons_append,
      Nat.add_right_comm, Nat.add_assoc]

theorem isBound_columnTexts (n : Nat) (columns : List String) :
    ∀ w ∈ columnTexts n columns, isBound w = true := by
  induction columns generalizing n with
  | nil => exact fun w hw => absurd hw List.not_mem_nil
  | cons column rest ih =>
    refine List.forall_mem_cons.mpr ⟨?_, ih (n + 1)⟩
    rw [isBound, String.toList_append, toList_placeholder]
    simp

/-- An insert binds its columns in order. -/
theorem bindings?_insert {sql table : String} (hvalues : "VALUES" ∉ columns)
    (hsql : lexemes sql = "INSERT" :: "INTO" :: table ::
      (columns ++ "VALUES" :: placeholders 0 columns.length)) :
    bindings? sql = some (bound 0 columns) := by
  have hall : ∀ name ∈ columns, (name != "VALUES") = true := by
    intro name hname
    exact bne_iff_ne.mpr fun heq => hvalues (heq ▸ hname)
  have htake : (columns ++ "VALUES" :: placeholders 0 columns.length).takeWhile (· != "VALUES")
      = columns := by
    rw [List.takeWhile_append_of_pos hall]
    exact List.append_nil columns
  have hdrop : (columns ++ "VALUES" :: placeholders 0 columns.length).dropWhile (· != "VALUES")
      = "VALUES" :: placeholders 0 columns.length := by
    rw [List.dropWhile_append_of_pos hall]
    rfl
  rw [bindings?, hsql]
  show insertBindings? _ = _
  rw [insertBindings?, htake, hdrop, List.drop_succ_cons, List.drop_zero, mapM_placeholders]
  show (if columns.length = (List.range' 1 columns.length).length then _ else _) = _
  rw [if_pos List.length_range'.symm, zipWith_bound]

/-- Every other statement binds the columns that it compares with placeholders. -/
theorem bindings?_equalities {sql keyword : String} {rest : List String}
    (hkeyword : keyword ≠ "INSERT") (hbound : isBound keyword = false)
    (h : ∀ name ∈ columns, isIdentifier name = true) (hsql : lexemes sql = keyword :: rest)
    (hrest : rest.filter isBound = columnTexts 0 columns) :
    bindings? sql = some (bound 0 columns) := by
  rw [bindings?, hsql]
  split
  · next heq => exact absurd (List.cons.inj heq).1 hkeyword
  · rw [List.filter_cons, hbound, ← mapM_columnTexts h, ← hrest]
    rfl

end Columns

/-! ### Words without placeholders -/

theorem isBound_repr (n : Nat) : isBound n.repr = false := by
  rw [isBound, Nat.toList_repr, List.contains_eq_mem, decide_eq_false_iff_not]
  exact fun hmem => absurd (Nat.isDigit_of_mem_toDigits (by decide) (by decide) hmem) (by decide)

/-- The words between conditions bind nothing. -/
theorem filter_intersperse {word : String} (hword : isBound word = false) (l : List String) :
    (l.intersperse word).filter isBound = l.filter isBound := by
  induction l with
  | nil => rfl
  | cons s rest ih =>
    cases rest with
    | nil => rfl
    | cons t rest =>
      rw [List.intersperse_cons_cons, List.filter_cons, List.filter_cons, List.filter_cons, ih, hword]
      rfl

end AqlGateway.Relational
