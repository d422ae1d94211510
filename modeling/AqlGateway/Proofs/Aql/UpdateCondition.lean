import AqlGateway.Proofs.Aql.ReadBack
import AqlGateway.Proofs.Aql.SetClause
import AqlGateway.Proofs.Aql.Stacked

/-!
# The condition of an update

Behind the set clause of an update its condition is looked for between plain spaces, while any
separators may stand around the keyword of every other condition.

* `HoldsWord` — a word occurs in a text by itself;
* `ConditionedUpdate` — the text of an update with a condition, in its parts;
* `ConditionedUpdate.KeepsCondition` — its SQL has the condition behind WHERE, or there is none;
* `ConditionedUpdate.read_spaced`, `ConditionedUpdate.read_folded` — how it is read when the keyword
  stands between spaces, and how otherwise;
* `ConditionedUpdate.keepsCondition_iff` — the condition is kept in the first case only.
-/

namespace AqlGateway.Aql

open Text

/-! ### Words -/

/-- A word occurs in a text with no letter, digit or underscore beside it. -/
def HoldsWord (word s : List Char) : Prop :=
  ∃ before after, s = before ++ (word ++ after) ∧ Stops isWordChar before.reverse ∧
    Stops isWordChar after

variable {word pattern s v w r x : List Char}

theorem HoldsWord.occurs (h : HoldsWord word s) : word <:+: s := by
  obtain ⟨before, after, rfl, -, -⟩ := h
  exact ⟨before, after, by rw [List.append_assoc]⟩

theorem holdsWord_of_begins (h : word ++ [' '] <+: s) : HoldsWord word s := by
  obtain ⟨after, rfl⟩ := h
  refine ⟨[], ' ' :: after, ?_, stops_nil, stops_cons.mpr (by decide)⟩
  rw [List.nil_append, List.append_assoc]
  rfl

theorem holdsWord_of_spaced (h : ' ' :: (word ++ [' ']) <:+: s) : HoldsWord word s := by
  obtain ⟨before, after, rfl⟩ := h
  refine ⟨before ++ [' '], ' ' :: after, ?_, ?_, stops_cons.mpr (by decide)⟩
  · simp only [List.append_assoc, List.cons_append, List.nil_append]
  · rw [List.reverse_append]
    exact stops_cons.mpr (by decide)

/-- A pattern does not reach beyond a character that it lacks. -/
theorem prefix_of_prefix_cons {c : Char} (hc : c ∉ pattern) (h : pattern <+: v ++ c :: r) :
    pattern <+: v := by
  induction pattern generalizing v with
  | nil => exact List.nil_prefix
  | cons p pattern ih =>
    cases v with
    | nil => exact absurd (List.cons_prefix_cons.mp h).1 fun hp => hc (by simp [hp])
    | cons d v =>
      rw [List.cons_append, List.cons_prefix_cons] at h
      exact List.cons_prefix_cons.mpr ⟨h.1, ih (fun hmem => hc (by simp [hmem])) h.2⟩

/-- Between spaces, a word begins nowhere in a text without it, when a character follows that the word
lacks. -/
theorem notBefore_of_not_holdsWord {c : Char} (hfree : ¬ HoldsWord word s) (hc : c ∉ word) :
    NotBefore (' ' :: (word ++ [' '])) s (c :: r) := by
  rintro u v rfl hne hbegins
  cases v with
  | nil => exact hne rfl
  | cons d v =>
    rw [List.cons_append, List.cons_prefix_cons] at hbegins
    obtain ⟨rfl, hbegins⟩ := hbegins
    obtain ⟨after, rfl⟩ := prefix_of_prefix_cons hc ((List.prefix_append _ _).trans hbegins)
    rw [List.append_assoc, List.prefix_append_right_inj] at hbegins
    refine hfree ⟨u ++ [' '], after, by simp, ?_, ?_⟩
    · rw [List.reverse_append]
      exact stops_cons.mpr (by decide)
    · cases after with
      | nil => exact stops_nil
      | cons e after =>
        rw [← (List.cons_prefix_cons.mp hbegins).1]
        exact stops_cons.mpr (by decide)

theorem NotBefore.of_append (h : NotBefore pattern (w ++ s) r) : NotBefore pattern s r := by
  rintro u v rfl hne
  exact h (w ++ u) v (List.append_assoc w u v).symm hne

/-! ### The keyword of a condition -/

theorem dimana_eq : " DIMANA ".toList = ' ' :: ("DIMANA".toList ++ [' ']) := by decide

theorem dimana_space : "DIMANA ".toList = "DIMANA".toList ++ [' '] := by decide

theorem isName_dimana : IsName "DIMANA".toList := isIdentifier_iff.mp (by decide)

theorem notMem_dimana_of_isGap {c : Char} (h : isGap c = true) : c ∉ "DIMANA".toList := by
  refine isName_dimana.notMem ?_
  cases hword : isWordChar c with
  | false => rfl
  | true => exact absurd h (by simp [isGap_of_isWordChar hword])

/-- In separators the keyword begins at their end only, when the last of them is a space. -/
theorem notBefore_gaps (hw : ∀ c ∈ w, isGap c = true)
    (h : w.getLast? = some ' ' → ¬ "DIMANA ".toList <+: r) : NotBefore " DIMANA ".toList w r := by
  rintro u v rfl hne hbegins
  rw [dimana_eq_cons] at hbegins
  cases v with
  | nil => exact hne rfl
  | cons c v =>
    rw [List.cons_append, List.cons_prefix_cons] at hbegins
    obtain ⟨rfl, hbegins⟩ := hbegins
    cases v with
    | nil => exact h (by simp) hbegins
    | cons d v =>
      have hd : 'D' = d := (List.cons_prefix_cons.mp hbegins).1
      exact absurd (hw d (by simp)) (by rw [← hd]; decide)

/-! ### Clauses with their blanks -/

theorem sheltered_blanks (hs : ∀ c ∈ s, isBlank c = true) : Sheltered s :=
  sheltered_plain (fun h => absurd (hs _ h) (by decide)) fun h => absurd (hs _ h) (by decide)

/-- A clause keeps its semicolons inside of literals, its outer blanks included. -/
theorem IsClause.sheltered_untrimmed (h : IsClause x) : Sheltered x := by
  obtain ⟨a, b, hx, ha, hb⟩ := trim_spec x
  rw [hx]
  exact ((sheltered_blanks ha).append h.sheltered).append (sheltered_blanks hb)

theorem Sheltered.isClause_of_not_blank (h : Sheltered x) (hne : trim x ≠ []) : IsClause x where
  ne_nil := hne
  even_quotes := by
    rw [count_trim (by decide)]
    exact h.even_quotes
  odd_before_semicolon := by
    intro before after htrim
    obtain ⟨a, b, hx, ha, -⟩ := trim_spec x
    have hodd := (outsideQuotes_iff.mp h.single).2 (a ++ before) (after ++ b)
      (by rw [hx, htrim]; simp only [List.append_assoc, List.cons_append])
    have hblank : a.count '\'' = 0 :=
      List.count_eq_zero_of_not_mem fun hmem => absurd (ha _ hmem) (by decide)
    rwa [quotesFrom, List.count_append, hblank, Nat.zero_add] at hodd

/-! ### Updates -/

/-- The text of an update with a condition, in its parts. The keyword in front of the condition, with
separators on either side, is the only one. -/
structure ConditionedUpdate where
  table : String
  set : String
  /-- The separators in front of the keyword. -/
  front : String
  /-- The separators behind the keyword. -/
  back : String
  condition : String
  isIdentifier_table : isIdentifier table = true
  isClause_set : IsClause set.toList
  set_free : ¬ HoldsWord "DIMANA".toList set.toList
  front_ne : front.toList ≠ []
  front_gaps : ∀ c ∈ front.toList, isGap c = true
  back_ne : back.toList ≠ []
  back_gaps : ∀ c ∈ back.toList, isGap c = true
  isClause_condition : IsClause condition.toList
  condition_free : ¬ HoldsWord "DIMANA".toList condition.toList

namespace ConditionedUpdate

def text (u : ConditionedUpdate) : String :=
  "PUPUK " ++ u.table ++ " DENGAN " ++ u.set ++ u.front ++ "DIMANA" ++ u.back ++ u.condition

/-- The SQL that the update stands for. -/
def sql (u : ConditionedUpdate) : String :=
  "UPDATE " ++ u.table ++ " SET " ++ trimText u.set ++ " WHERE " ++ trimText u.condition

/-- The SQL with the keyword and the condition in the set clause. -/
def foldedSql (u : ConditionedUpdate) : String :=
  "UPDATE " ++ u.table ++ " SET "
    ++ trimText (u.set ++ u.front ++ "DIMANA" ++ u.back ++ u.condition)

/-- The keyword has a space directly in front of it and one directly behind it. -/
def IsSpaced (u : ConditionedUpdate) : Prop :=
  u.front.toList.getLast? = some ' ' ∧ u.back.toList.head? = some ' '

instance (u : ConditionedUpdate) : Decidable u.IsSpaced :=
  inferInstanceAs (Decidable (_ ∧ _))

/-- The update is translated with its condition, or refused. -/
def KeepsCondition (u : ConditionedUpdate) : Prop :=
  toSql .strict u.text = .ok u.sql ∨
    ∃ text, toSql .strict u.text = .error (.malformedStatement .update text)

variable (u : ConditionedUpdate)

/-- What stands behind the word in front of the set clause. -/
def body : List Char :=
  u.set.toList ++ (u.front.toList ++ ("DIMANA".toList ++ (u.back.toList ++ u.condition.toList)))

/-! ### The trimmed text -/

theorem trimStart_set_ne : trimStart u.set.toList ≠ [] := by
  intro hnil
  have hne := u.isClause_set.ne_nil
  rw [← trim_trimStart, hnil] at hne
  exact hne rfl

theorem trimEnd_condition_ne : trimEnd u.condition.toList ≠ [] := fun h =>
  u.isClause_condition.ne_nil (trim_of_blanks (trimEnd_eq_nil_iff.mp h))

/-- Trimming leaves the keyword and its separators in place, since something is shown on either
side. -/
theorem trim_body :
    trim u.body = trimStart u.set.toList ++ (u.front.toList ++ ("DIMANA".toList
      ++ (u.back.toList ++ trimEnd u.condition.toList))) := by
  have hbody : u.body = (u.set.toList ++ u.front.toList) ++ ("DIMANA".toList ++ (u.back.toList
      ++ u.condition.toList)) := (List.append_assoc _ _ _).symm
  have hvisible : ∀ c ∈ "DIMANA".toList, isBlank c = false := fun c hc =>
    isBlank_of_isWordChar (isName_dimana.wordChar c hc)
  rw [hbody, trim_around_word isName_dimana.ne_nil hvisible, trimStart_append u.trimStart_set_ne,
    trimEnd_append u.trimEnd_condition_ne, List.append_assoc]

theorem trimEnd_body :
    trimEnd u.body = u.set.toList ++ (u.front.toList ++ ("DIMANA".toList ++ (u.back.toList
      ++ trimEnd u.condition.toList))) := by
  have hne := u.trimEnd_condition_ne
  have hbody : u.body = (u.set.toList ++ (u.front.toList ++ ("DIMANA".toList ++ u.back.toList)))
      ++ u.condition.toList := by
    simp only [body, List.append_assoc]
  rw [hbody, trimEnd_append hne]
  simp only [List.append_assoc]

/-- The separators behind the word in front of the set clause do not reach beyond it. -/
theorem skipGap_body :
    skipGap (trimEnd u.body) = skipGap u.set.toList ++ (u.front.toList ++ ("DIMANA".toList
      ++ (u.back.toList ++ trimEnd u.condition.toList))) := by
  have hne : skipGap u.set.toList ≠ [] := by
    intro hnil
    have htrim := trim_skipGap u.set.toList
    rw [hnil] at htrim
    exact u.isClause_set.ne_nil htrim.symm
  rw [trimEnd_body, skipGap, List.dropWhile_append, if_neg (by simpa [skipGap] using hne)]
  rfl

theorem trim_text :
    trim u.text.toList = "PUPUK".toList ++ ([' '] ++ (u.table.toList ++ ([' '] ++ ("DENGAN".toList
      ++ ([' '] ++ trimEnd u.body))))) := by
  have hlead : "PUPUK ".toList = "PUPUK".toList ++ [' '] := by decide
  have hword : " DENGAN ".toList = [' '] ++ ("DENGAN".toList ++ [' ']) := by decide
  have htext : u.text.toList
      = ("PUPUK".toList ++ ([' '] ++ (u.table.toList ++ ([' '] ++ ("DENGAN".toList ++ [' '])))))
        ++ u.body := by
    rw [text, body]
    simp only [String.toList_append, hlead, hword, List.append_assoc]
  have hne : trimEnd u.body ≠ [] := by
    rw [trimEnd_body]
    simp
  rw [htext, trim_eq_trimEnd (stops_append (stops_append (by decide) (by decide)) (by simp)),
    trimEnd_append hne]
  simp only [List.append_assoc]

/-- The update is read at the end of its set clause, wherever that may be. -/
theorem read_text {set tail : List Char} (hsplit : skipGap (trimEnd u.body) = set ++ tail)
    (hend : SetEnd set tail) :
    Sentence.read? .update (trim u.text.toList)
      = (clause? set).bind fun y => (filterTail? tail).map (.update u.table.toList y) := by
  obtain ⟨w, hbody, hw⟩ := skipGap_spec (trimEnd u.body)
  rw [hsplit] at hbody hw
  have hgap : GapBefore ([' '] ++ w) (set ++ tail) := by
    refine ⟨fun c hc => ?_, hw.longest⟩
    rcases List.mem_append.mp hc with hc | hc
    · rw [List.mem_singleton.mp hc]
      decide
    · exact hw.gaps c hc
  show readUpdate? _ = _
  rw [trim_text, hbody, ← read_update (isIdentifier_iff.mp u.isIdentifier_table) (by simp) hgap hend]
  simp only [List.append_assoc]

theorem toSql_of_read {sentence : Sentence} {sql : String}
    (hread : Sentence.read? .update (trim u.text.toList) = some sentence)
    (hsql : sentence.sql = sql.toList) : toSql .strict u.text = .ok sql := by
  have hopens : Kind.opens .update (trim u.text.toList) = true := by
    refine Kind.opens_of_begins (by decide) ?_
    rw [trim_text, ← List.append_assoc]
    exact List.prefix_append _ _
  rw [toSql, trimmedToSql_of_opens hopens, hread]
  show Except.ok (String.ofList sentence.sql) = _
  rw [hsql, String.ofList_toList]

/-! ### The end of the set clause -/

/-- The keyword begins nowhere in the set clause. -/
theorem notBefore_set (r : List Char) :
    NotBefore " DIMANA ".toList (skipGap u.set.toList) (u.front.toList ++ r) := by
  obtain ⟨w, hset, -⟩ := skipGap_spec u.set.toList
  refine NotBefore.of_append (w := w) ?_
  rw [← hset, dimana_eq]
  cases hfront : u.front.toList with
  | nil => exact absurd hfront u.front_ne
  | cons c front =>
    have hgap : isGap c = true := u.front_gaps c (by simp [hfront])
    exact notBefore_of_not_holdsWord u.set_free (notMem_dimana_of_isGap hgap)

/-- A space on either side of the keyword ends the set clause. -/
theorem setEnd_spaced {front back : List Char} (hfront : u.front.toList = front ++ [' '])
    (r : List Char) :
    SetEnd (skipGap u.set.toList ++ front) (" DIMANA ".toList ++ (back ++ r)) := by
  refine .condition (List.prefix_append _ _) (NotBefore.append ?_ (notBefore_gaps ?_ fun _ => ?_))
  · have hset := u.notBefore_set ("DIMANA ".toList ++ (back ++ r))
    rw [hfront] at hset
    rwa [List.append_assoc] at hset
  · exact fun c hc => u.front_gaps c (by simp [hfront, hc])
  · rw [dimana_eq_cons, List.cons_append]
    exact fun h => absurd (List.cons_prefix_cons.mp h).1 (by decide)

/-- Without them the set clause goes on to the end of the text. -/
theorem setEnd_folded (hspaced : ¬ u.IsSpaced) : SetEnd (skipGap (trimEnd u.body)) [] := by
  obtain ⟨b, hcondition, -⟩ := trimEnd_spec u.condition.toList
  have hwithin : ∀ {word : List Char}, word <+: trimEnd u.condition.toList →
      word <+: u.condition.toList := fun h => h.trans ⟨b, hcondition.symm⟩
  have hback : ¬ "DIMANA ".toList <+: trimEnd u.condition.toList := fun h =>
    u.condition_free (holdsWord_of_begins (dimana_space ▸ hwithin h))
  have hlast : ¬ " DIMANA ".toList <:+: trimEnd u.condition.toList := fun h =>
    u.condition_free (holdsWord_of_spaced (dimana_eq ▸ h.trans ⟨[], b, hcondition.symm⟩))
  have hfront : u.front.toList.getLast? = some ' ' →
      ¬ "DIMANA ".toList <+: "DIMANA".toList ++ (u.back.toList ++ trimEnd u.condition.toList) := by
    intro hspace h
    rw [dimana_space, List.prefix_append_right_inj] at h
    refine hspaced ⟨hspace, ?_⟩
    cases hcons : u.back.toList with
    | nil => exact absurd hcons u.back_ne
    | cons c back =>
      rw [hcons] at h
      rw [← (List.cons_prefix_cons.mp h).1, List.head?_cons]
  refine .textEnd (not_infix_of_notBefore (by decide) ?_)
  rw [skipGap_body]
  refine NotBefore.append (by rw [List.append_nil]; exact u.notBefore_set _) ?_
  refine NotBefore.append (notBefore_gaps u.front_gaps (by rwa [List.append_nil])) ?_
  refine NotBefore.append (by rw [dimana_eq_cons]; exact notBefore_of_notMem (by decide)) ?_
  refine NotBefore.append (notBefore_gaps u.back_gaps fun _ => by rwa [List.append_nil]) ?_
  exact notBefore_of_absent (by rwa [List.append_nil])

/-! ### Reading -/

/-- Between spaces the keyword ends the set clause. -/
theorem read_spaced (hspaced : u.IsSpaced) :
    Sentence.read? .update (trim u.text.toList)
      = some (.update u.table.toList (trim u.set.toList) (some (trim u.condition.toList))) := by
  obtain ⟨front, hfront⟩ : ∃ front, u.front.toList = front ++ [' '] :=
    List.getLast?_eq_some_iff.mp hspaced.1
  obtain ⟨back, hback⟩ : ∃ back, u.back.toList = ' ' :: back :=
    List.head?_eq_some_iff.mp hspaced.2
  have hsplit : skipGap (trimEnd u.body)
      = (skipGap u.set.toList ++ front)
        ++ (" DIMANA ".toList ++ (back ++ trimEnd u.condition.toList)) := by
    rw [skipGap_body, hfront, hback, dimana_eq]
    simp only [List.append_assoc, List.cons_append, List.nil_append]
  have hgaps : ∀ c ∈ front, isBlank c = true := fun c hc =>
    isBlank_of_isGap (u.front_gaps c (by simp [hfront, hc]))
  have hset : clause? (skipGap u.set.toList ++ front) = some (trim u.set.toList) := by
    rw [clause?_congr (trim_append_blanks hgaps), clause?_congr (trim_skipGap _),
      clause?_of_isClause u.isClause_set]
  have hgaps' : ∀ c ∈ back, isBlank c = true := fun c hc =>
    isBlank_of_isGap (u.back_gaps c (by simp [hback, hc]))
  have htail : conditionTail (some (String.ofList (back ++ u.condition.toList)))
      = " DIMANA ".toList ++ (back ++ trimEnd u.condition.toList) := by
    have hlist : (String.ofList (back ++ u.condition.toList)).toList = back ++ u.condition.toList :=
      String.toList_ofList
    rw [conditionTail, hlist, ← List.append_assoc, trimEnd_append u.trimEnd_condition_ne,
      List.append_assoc]
  have hcondition : filterTail? (" DIMANA ".toList ++ (back ++ trimEnd u.condition.toList))
      = some (some (trim u.condition.toList)) := by
    rw [← htail, filterTail?_conditionTail, readCondition, String.toList_ofList,
      clause?_congr (trim_blanks_append hgaps'), clause?_of_isClause u.isClause_condition]
    rfl
  rw [u.read_text hsplit (u.setEnd_spaced hfront _), hset, hcondition]
  rfl

theorem isClause_body : IsClause u.body := by
  have hset := u.isClause_set.sheltered_untrimmed
  have hcondition := u.isClause_condition.sheltered_untrimmed
  have hfront := sheltered_blanks fun c hc => isBlank_of_isGap (u.front_gaps c hc)
  have hback := sheltered_blanks fun c hc => isBlank_of_isGap (u.back_gaps c hc)
  have hword : Sheltered "DIMANA".toList := sheltered_plain (by decide) (by decide)
  refine Sheltered.isClause_of_not_blank
    (hset.append (hfront.append (hword.append (hback.append hcondition)))) fun hnil => ?_
  have hblank := trim_eq_nil_iff.mp hnil 'D' (by simp [body])
  exact absurd hblank (by decide)

/-- Otherwise the keyword and the condition are taken for a part of the set clause. -/
theorem read_folded (hspaced : ¬ u.IsSpaced) :
    Sentence.read? .update (trim u.text.toList)
      = some (.update u.table.toList (trim u.body) none) := by
  have hset : clause? (skipGap (trimEnd u.body)) = some (trim u.body) := by
    rw [clause?_congr (trim_skipGap _), clause?_congr (trim_trimEnd _),
      clause?_of_isClause u.isClause_body]
  rw [u.read_text (List.append_nil _).symm (u.setEnd_folded hspaced), hset]
  rfl

/-! ### Translation -/

/-- Between spaces the keyword brings the condition behind WHERE. -/
theorem toSql_spaced (hspaced : u.IsSpaced) : toSql .strict u.text = .ok u.sql := by
  refine u.toSql_of_read (u.read_spaced hspaced) ?_
  show "UPDATE ".toList ++ u.table.toList ++ " SET ".toList ++ trim u.set.toList
      ++ (" WHERE ".toList ++ trim u.condition.toList) = u.sql.toList
  simp only [sql, String.toList_append, toList_trimText, List.append_assoc]

theorem toList_foldedSql :
    u.foldedSql.toList
      = "UPDATE ".toList ++ (u.table.toList ++ (" SET ".toList ++ trim u.body)) := by
  have hbody : (u.set ++ u.front ++ "DIMANA" ++ u.back ++ u.condition).toList = u.body := by
    simp only [body, String.toList_append, List.append_assoc]
  simp only [foldedSql, String.toList_append, toList_trimText, hbody, List.append_assoc]

/-- Next to other separators it becomes a part of the set clause. -/
theorem toSql_folded (hspaced : ¬ u.IsSpaced) : toSql .strict u.text = .ok u.foldedSql := by
  refine u.toSql_of_read (u.read_folded hspaced) ?_
  show "UPDATE ".toList ++ u.table.toList ++ " SET ".toList ++ trim u.body ++ [] = _
  rw [toList_foldedSql]
  simp only [List.append_nil, List.append_assoc]

/-- The folded SQL is longer: it keeps the separators and the keyword. -/
theorem foldedSql_ne_sql : u.foldedSql ≠ u.sql := by
  intro h
  have hset : (trim u.set.toList).length ≤ (trimStart u.set.toList).length := by
    rw [← trim_trimStart]
    exact length_trim_le _
  have hcondition : (trim u.condition.toList).length ≤ (trimEnd u.condition.toList).length := by
    rw [← trim_trimEnd]
    exact length_trim_le _
  have hfront := List.length_pos_iff.mpr u.front_ne
  have hback := List.length_pos_iff.mpr u.back_ne
  have hlength := congrArg (fun s : String => s.toList.length) h
  simp only [toList_foldedSql, trim_body, sql, String.toList_append, toList_trimText,
    List.length_append] at hlength
  have hdimana : "DIMANA".toList.length = 6 := by decide
  have hwhere : " WHERE ".toList.length = 7 := by decide
  omega

/-- An update with a condition keeps it exactly when the keyword stands between spaces. With any other
separator next to the keyword, the keyword and the condition end up in the set clause, and the
update applies to every row. -/
theorem keepsCondition_iff :
    (u.KeepsCondition ↔ u.IsSpaced) ∧
      toSql .strict u.text = .ok (if u.IsSpaced then u.sql else u.foldedSql) := by
  by_cases hspaced : u.IsSpaced
  · have hsql := u.toSql_spaced hspaced
    refine ⟨⟨fun _ => hspaced, fun _ => .inl hsql⟩, ?_⟩
    rw [if_pos hspaced, hsql]
  · have hsql := u.toSql_folded hspaced
    refine ⟨⟨?_, fun h => absurd h hspaced⟩, by rw [if_neg hspaced, hsql]⟩
    rintro (hkept | ⟨text, hrefused⟩)
    · rw [hsql] at hkept
      exact absurd (Except.ok.inj hkept) u.foldedSql_ne_sql
    · rw [hsql] at hrefused
      exact absurd hrefused (by simp)

/-- A tab in front of the keyword. -/
def tabbed : ConditionedUpdate where
  table := "trees"
  set := "status='MATI'"
  front := "\t"
  back := " "
  condition := "id='T1'"
  isIdentifier_table := by decide
  isClause_set := isClause_iff.mpr (by decide)
  set_free := fun h => breakAt?_eq_none_iff.mp (by decide) h.occurs
  front_ne := by decide
  front_gaps := List.all_eq_true.mp (by decide)
  back_ne := by decide
  back_gaps := List.all_eq_true.mp (by decide)
  isClause_condition := isClause_iff.mpr (by decide)
  condition_free := fun h => breakAt?_eq_none_iff.mp (by decide) h.occurs

/-- The condition of the update is lost: every tree is marked as dead. -/
theorem tabbed_update :
    toSql .strict "PUPUK trees DENGAN status='MATI'\tDIMANA id='T1'"
        = .ok "UPDATE trees SET status='MATI'\tDIMANA id='T1'" ∧
      tabbed.text = "PUPUK trees DENGAN status='MATI'\tDIMANA id='T1'" ∧
      tabbed.sql = "UPDATE trees SET status='MATI' WHERE id='T1'" ∧ ¬ tabbed.KeepsCondition := by
  have htext : tabbed.text = "PUPUK trees DENGAN status='MATI'\tDIMANA id='T1'" := by
    decide +kernel
  have hsql : tabbed.sql = "UPDATE trees SET status='MATI' WHERE id='T1'" := by decide +kernel
  have hfolded : toSql .strict "PUPUK trees DENGAN status='MATI'\tDIMANA id='T1'"
      = .ok "UPDATE trees SET status='MATI'\tDIMANA id='T1'" := by
    decide +kernel
  refine ⟨hfolded, htext, hsql, ?_⟩
  rw [KeepsCondition, htext, hsql, hfolded]
  rintro (hkept | ⟨text, hrefused⟩)
  · exact absurd (Except.ok.inj hkept) (by decide)
  · exact absurd hrefused (by simp)

/-- The same update with a space on either side of the keyword, and other separators beside them. -/
def spaced : ConditionedUpdate :=
  { tabbed with
    front := "\n "
    back := " \t"
    front_ne := by decide
    front_gaps := List.all_eq_true.mp (by decide)
    back_ne := by decide
    back_gaps := List.all_eq_true.mp (by decide) }

/-- The condition of this update is kept. -/
theorem spaced_update :
    spaced.IsSpaced ∧ spaced.KeepsCondition ∧
      toSql .strict "PUPUK trees DENGAN status='MATI'\n DIMANA \tid='T1'"
        = .ok "UPDATE trees SET status='MATI' WHERE id='T1'" := by
  have hspaced : spaced.IsSpaced := by decide
  have htext : spaced.text = "PUPUK trees DENGAN status='MATI'\n DIMANA \tid='T1'" := by
    decide +kernel
  have hsql : spaced.sql = "UPDATE trees SET status='MATI' WHERE id='T1'" := by decide +kernel
  obtain ⟨hkeeps, htranslated⟩ := keepsCondition_iff spaced
  rw [if_pos hspaced, htext, hsql] at htranslated
  exact ⟨hspaced, hkeeps.mpr hspaced, htranslated⟩

end ConditionedUpdate

end AqlGateway.Aql
