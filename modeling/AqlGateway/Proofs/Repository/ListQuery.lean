import AqlGateway.Proofs.Aql.Reference
import AqlGateway.Proofs.Repository.EngineFailure
import AqlGateway.Proofs.Repository.RowQuery
import AqlGateway.Proofs.Tree.Filter
import AqlGateway.Repository.Relational

/-!
# The queries for lists and numbers of trees

The criteria of a list are equalities with placeholders; its page is free text behind them. Both are
written as words with single spaces between them.

* `listWords` — the words of the query for a list, and `prepare_list`: it is prepared as these words;
* `ofWords?_list` — they are read as the query for the criteria and the page;
* `prepare_count`, `ofWords?_count` — the same for the number of trees with a value.
-/

namespace AqlGateway.Relational

open Aql Text TreeFilter

variable (filter : TreeFilter)

/-! ### The page -/

/-- A list without a page. -/
def IsWhole : Prop := filter.limit = 0 ∧ filter.offset = 0

instance : Decidable (IsWhole filter) := inferInstanceAs (Decidable (_ ∧ _))

/-- The words for the limit and the offset of a list. -/
def rangeWords : List String :=
  (if filter.limit = 0 then [] else ["LIMIT", toString filter.limit])
    ++ if filter.offset = 0 then [] else ["OFFSET", toString filter.offset]

/-- The free text that stands for the page. -/
def pageText : String := "1=1" ++ (" " ++ joinWith " " ("ORDER" :: "BY" :: "code" :: rangeWords filter))

/-- A page is free text, and there is none for a whole list. -/
theorem page?_eq :
    page? filter = if IsWhole filter then none else some (.raw (pageText filter)) := by
  have hpage : "1=1 ORDER BY code"
        ++ (if filter.limit = 0 then "" else " LIMIT " ++ toString filter.limit)
        ++ (if filter.offset = 0 then "" else " OFFSET " ++ toString filter.offset)
      = pageText filter := by
    rw [pageText, rangeWords, ← String.toList_inj]
    split <;> split <;>
      · simp only [joinWith, List.nil_append, List.cons_append, String.toList_append,
          String.toList_empty, List.append_assoc, List.append_nil]
        rfl
  rw [← hpage, page?]
  rfl

/-! ### The condition -/

/-- The words for the conditions of a list. A page has a condition of its own, which is met always. -/
def conditionWords : List String :=
  assignmentTexts 0 filter.criteria ++ if IsWhole filter then [] else ["1=1"]

/-- The words behind the conditions. -/
def pageWords : List String :=
  if IsWhole filter then [] else "ORDER" :: "BY" :: "code" :: rangeWords filter

def conditionText : String :=
  joinWith " " ((conditionWords filter).intersperse "AND" ++ pageWords filter)

/-- The condition of a list compares the criteria; behind them, as free text, stands the page. -/
theorem listCondition_eq :
    (filter.criteria = [] ∧ listCondition filter = page? filter) ∨
      ∃ p : Predicate, filter.criteria ≠ [] ∧ p.Compares filter.criteria ∧
        listCondition filter = some ((page? filter).elim p p.and) := by
  rw [listCondition, predicate?, equalities_eq]
  cases hp : Predicate.all? (filter.criteria.map equality) with
  | none =>
    refine .inl ⟨Predicate.all?_eq_none_iff.mp hp, ?_⟩
    cases page? filter <;> rfl
  | some p =>
    refine .inr ⟨p, fun hnil => ?_, Predicate.compares_all? hp, ?_⟩
    · rw [Predicate.all?_eq_none_iff.mpr hnil] at hp
      exact absurd hp (by simp)
    · cases page? filter <;> rfl

theorem numberedText_list :
    (listCondition filter).map (Predicate.numberedText 0)
      = if conditionWords filter = [] then none else some (conditionText filter) := by
  have hword : " AND " = " " ++ "AND" ++ " " := by decide
  have hjoin (texts : List String) :
      joinWith " AND " (texts ++ [pageText filter])
        = joinWith " " ((texts ++ ["1=1"]).intersperse "AND"
            ++ ("ORDER" :: "BY" :: "code" :: rangeWords filter)) := by
    have hne : (texts ++ ["1=1"]).intersperse "AND" ≠ [] := by
      cases texts with
      | nil => simp
      | cons t rest => cases rest <;> simp
    rw [pageText, joinWith_append_last, hword, joinWith_word, joinWith_append hne (by simp),
      String.append_assoc]
  rw [conditionWords, conditionText, conditionWords, pageWords]
  obtain ⟨hcriteria, hlist⟩ | ⟨p, hcriteria, hp, hlist⟩ := listCondition_eq filter
  · rw [hlist, hcriteria, page?_eq]
    split
    · rfl
    · simp only [Option.map_some, assignmentTexts, List.nil_append, List.cons_ne_nil, if_false]
      exact congrArg some (hjoin [])
  · have htexts : assignmentTexts 0 filter.criteria ≠ [] := assignmentTexts_ne_nil hcriteria
    rw [hlist, page?_eq, if_neg (List.append_ne_nil_of_left_ne_nil htexts _)]
    split
    · show some (joinWith " AND " (p.leafTexts 0)) = _
      rw [hp.leafTexts, hword, joinWith_word, List.append_nil, List.append_nil]
    · show some (joinWith " AND " (p.leafTexts 0 ++ [pageText filter])) = _
      rw [hp.leafTexts, hjoin]

/-- The page has no values and no columns of its own. -/
theorem values_list :
    ((listCondition filter).map Predicate.values).getD [] = filter.criteria.map Assignment.value := by
  obtain ⟨hcriteria, hlist⟩ | ⟨p, -, hp, hlist⟩ := listCondition_eq filter
  · rw [hlist, hcriteria, page?_eq]
    split <;> rfl
  · rw [hlist, page?_eq, ← hp.values]
    split
    · rfl
    · exact List.append_nil _

theorem columns_list :
    ((listCondition filter).map Predicate.columns).getD [] = filter.criteria.map Assignment.column := by
  obtain ⟨hcriteria, hlist⟩ | ⟨p, -, hp, hlist⟩ := listCondition_eq filter
  · rw [hlist, hcriteria, page?_eq]
    split <;> rfl
  · rw [hlist, page?_eq, ← hp.columns]
    split
    · rfl
    · exact List.append_nil _

/-! ### The query for a list -/

theorem isToken_toString (n : Nat) : IsToken (toString n) := by
  have htext : (toString n).toList = Nat.toDigits 10 n := Nat.toList_repr
  constructor
  · rw [htext]
    exact Nat.toDigits_ne_nil
  · intro c hc
    rw [htext] at hc
    exact isTokenChar_of_mem_toDigits hc

theorem isToken_rangeWords : ∀ w ∈ rangeWords filter, IsToken w := by
  intro w hw
  have range (keyword : String) (hkeyword : IsToken keyword) (n : Nat)
      (hmem : w ∈ if n = 0 then [] else [keyword, toString n]) : IsToken w := by
    split at hmem
    · exact absurd hmem List.not_mem_nil
    · rcases List.mem_pair.mp hmem with rfl | rfl
      · exact hkeyword
      · exact isToken_toString n
  rcases List.mem_append.mp hw with hw | hw
  · exact range "LIMIT" (by decide) filter.limit hw
  · exact range "OFFSET" (by decide) filter.offset hw

/-- The words of a condition have no blanks, no quotes and no semicolons. -/
theorem isToken_of_mem_condition :
    ∀ w ∈ (conditionWords filter).intersperse "AND" ++ pageWords filter, IsToken w := by
  intro w hw
  rcases List.mem_append.mp hw with hw | hw
  · rcases mem_intersperse hw with hw | rfl
    · rcases List.mem_append.mp hw with hw | hw
      · exact isToken_of_mem_assignmentTexts
          (fun a ha => Remote.isIdentifier_of_column _ (column_of_mem_criteria ha)) hw
      · split at hw
        · exact absurd hw List.not_mem_nil
        · rw [List.mem_singleton.mp hw]
          decide
    · decide
  · rw [pageWords] at hw
    split at hw
    · exact absurd hw List.not_mem_nil
    · have hkeywords : IsToken "ORDER" ∧ IsToken "BY" ∧ IsToken "code" := by decide
      simp only [List.mem_cons] at hw
      rcases hw with rfl | rfl | rfl | hw
      · exact hkeywords.1
      · exact hkeywords.2.1
      · exact hkeywords.2.2
      · exact isToken_rangeWords filter w hw

def listWords : List String :=
  ["SELECT", "*", "FROM", "trees"]
    ++ if conditionWords filter = [] then []
      else "WHERE" :: ((conditionWords filter).intersperse "AND" ++ pageWords filter)

/-- The words of the query are tokens, apart from the star. -/
theorem isToken_of_mem_list : ∀ w ∈ listWords filter, w = "*" ∨ IsToken w := by
  intro w hw
  rcases List.mem_append.mp hw with hw | hw
  · have hkeywords : IsToken "SELECT" ∧ IsToken "FROM" ∧ IsToken "trees" := by decide
    simp only [List.mem_cons, List.not_mem_nil, or_false] at hw
    rcases hw with rfl | rfl | rfl | rfl
    · exact .inr hkeywords.1
    · exact .inl rfl
    · exact .inr hkeywords.2.1
    · exact .inr hkeywords.2.2
  · split at hw
    · exact absurd hw List.not_mem_nil
    · rcases List.mem_cons.mp hw with rfl | hw
      · exact .inr (by decide)
      · exact .inr (isToken_of_mem_condition filter w hw)

theorem validate_list :
    (Statement.select Tree.table "*" (listCondition filter)).validate = .ok () := by
  refine Statement.validate_eq_ok_iff.mpr ⟨?_, (by decide : validateColumns "*" = .ok ()), ?_⟩
  · intro t ht
    rw [← Option.some.inj ht]
    decide
  · intro name hname
    have hcolumn : name ∈ ((listCondition filter).map Predicate.columns).getD [] := hname
    rw [columns_list] at hcolumn
    obtain ⟨a, ha, rfl⟩ := List.mem_map.mp hcolumn
    exact Remote.isIdentifier_of_column _ (column_of_mem_criteria ha)

theorem words_condition_ne_nil (h : conditionWords filter ≠ []) :
    (conditionWords filter).intersperse "AND" ++ pageWords filter ≠ [] := by
  obtain ⟨w, rest, hw⟩ := List.exists_cons_of_ne_nil h
  rw [hw]
  cases rest <;> simp

section Words

variable {l : List String} (hl : l ≠ []) (htokens : ∀ w ∈ l, IsToken w)

include hl htokens

theorem isClause_words : IsClause (joinWith " " l).toList :=
  isClause_joinWith hl (sheltered_plain (by decide) (by decide))
    (fun w hw => (htokens w hw).isSolid) fun w hw => (htokens w hw).sheltered

theorem words_ne_empty : joinWith " " l ≠ "" := fun h =>
  (isClause_words hl htokens).ne_nil (by rw [h]; rfl)

theorem whereText_words : Statement.whereText (some (joinWith " " l)) = " WHERE " ++ joinWith " " l := by
  have hsolid : IsSolid (joinWith " " l).toList :=
    isSolid_joinWith hl fun w hw => (htokens w hw).isSolid
  rw [Statement.whereText, trimText, hsolid.trim_eq, String.ofList_toList]

end Words

/-- The words of a query with a condition. -/
theorem joinWith_where {head l : List String} (hhead : head ≠ []) (hl : l ≠ []) :
    joinWith " " (head ++ "WHERE" :: l) = joinWith " " head ++ (" WHERE " ++ joinWith " " l) := by
  have hword : " WHERE " = " " ++ ("WHERE" ++ " ") := by decide
  rw [joinWith_append hhead (List.cons_ne_nil _ _), joinWith_cons hl, hword]
  simp only [String.append_assoc]

/-- The query for a list is prepared as its words, in either mode. -/
theorem prepare_list (mode : Mode) :
    prepare mode (.select Tree.table "*" (listCondition filter))
      = .ok ⟨joinWith " " (listWords filter), filter.criteria.map Assignment.value⟩ := by
  have hvalid := validate_list filter
  have hcondition : (Statement.select Tree.table "*" (listCondition filter)).conditionText?
      = if conditionWords filter = [] then none else some (conditionText filter) :=
    numberedText_list filter
  have hparams : (Statement.select Tree.table "*" (listCondition filter)).params
      = filter.criteria.map Assignment.value := values_list filter
  have hsql : (Statement.select Tree.table "*" (listCondition filter)).referenceSql
      = "SELECT * FROM trees" ++ Statement.whereText
          (Statement.select Tree.table "*" (listCondition filter)).conditionText? := rfl
  refine prepare_of_strict ?_ mode
  -- Without conditions there is no WHERE, and the statement has no free text.
  by_cases hwords : conditionWords filter = []
  · rw [if_pos hwords] at hcondition
    have hfollows := followsReference_select hvalid (by decide) (by simp [hcondition])
    have hfree : (Statement.select Tree.table "*" (listCondition filter)).freeTexts = [] :=
      congrArg Option.toList hcondition
    rw [hfollows.accepted (by simp [hfree]), hsql, hcondition, hparams, listWords, if_pos hwords]
    rfl
  · have hne := words_condition_ne_nil filter hwords
    have htokens := isToken_of_mem_condition filter
    rw [if_neg hwords] at hcondition
    have hfollows := followsReference_select hvalid (by decide)
      (fun h => words_ne_empty hne htokens (Option.some.inj (hcondition.symm.trans h)))
    have hfree : (Statement.select Tree.table "*" (listCondition filter)).freeTexts
        = [conditionText filter] := congrArg Option.toList hcondition
    have hclause : ∀ x ∈ (Statement.select Tree.table "*" (listCondition filter)).freeTexts,
        IsClause x.toList := by
      intro x hx
      rw [hfree] at hx
      rw [List.mem_singleton.mp hx]
      exact isClause_words hne htokens
    rw [hfollows.accepted hclause, hsql, hcondition, hparams, conditionText,
      whereText_words hne htokens, listWords, if_neg hwords, joinWith_where (by simp) hne]
    rfl

/-! ### Reading the query for a list -/

/-- Equalities with placeholders behind the first `n`. -/
def numbered (n : Nat) : List Assignment → List Condition
  | [] => []
  | a :: rest => .equals a.column (n + 1) :: numbered (n + 1) rest

def conditions : List Condition :=
  numbered 0 filter.criteria ++ if IsWhole filter then [] else [.always]

def page : Page :=
  if IsWhole filter then {}
  else ⟨true, if filter.limit = 0 then none else some filter.limit, filter.offset⟩

theorem map_ofWord?_assignmentTexts {l : List Assignment}
    (hl : ∀ a ∈ l, isIdentifier a.column = true) (n : Nat) :
    (assignmentTexts n l).map Condition.ofWord? = (numbered n l).map some := by
  induction l generalizing n with
  | nil => rfl
  | cons a rest ih =>
    rw [assignmentTexts, numbered, List.map_cons, List.map_cons,
      ofWord?_placeholder (hl a (by simp)), ih fun b hb => hl b (by simp [hb])]

theorem map_ofWord?_conditionWords :
    (conditionWords filter).map Condition.ofWord? = (conditions filter).map some := by
  rw [conditionWords, conditions, List.map_append, List.map_append, map_ofWord?_assignmentTexts
    fun a ha => Remote.isIdentifier_of_column _ (column_of_mem_criteria ha)]
  split <;> rfl

theorem readOffset_words (offset : Nat) :
    readOffset (if offset = 0 then [] else ["OFFSET", toString offset]) = some offset := by
  split
  · next h =>
    rw [h]
    rfl
  · exact numberOf?_toString offset

/-- The limit and the offset are read off the query, where a zero was left out. -/
theorem readLimit_words :
    readLimit (rangeWords filter)
      = some (if filter.limit = 0 then none else some filter.limit, filter.offset) := by
  have hoffset := readOffset_words filter.offset
  rw [rangeWords]
  by_cases hlimit : filter.limit = 0
  · rw [if_pos hlimit, if_pos hlimit, List.nil_append]
    split
    · next h =>
      rw [h]
      rfl
    · next h =>
      rw [if_neg h] at hoffset
      show (readOffset ["OFFSET", toString filter.offset]).map _ = _
      rw [hoffset]
      rfl
  · rw [if_neg hlimit, if_neg hlimit, List.cons_append, List.cons_append, List.nil_append, readLimit,
      numberOf?_toString, hoffset]
    rfl

theorem readPage_words : readPage (pageWords filter) = some (page filter) := by
  rw [pageWords, page]
  split
  · rfl
  · rw [readPage, readLimit_words]
    rfl

/-- The words of the query for a list are read as the criteria and the page. -/
theorem ofWords?_list :
    RowQuery.ofWords? (listWords filter) = some (.rows (conditions filter) (page filter)) := by
  have hpage := readPage_words filter
  rw [listWords]
  split
  · next hwords =>
    obtain ⟨htexts, hpaged⟩ := List.append_eq_nil_iff.mp hwords
    have hcriteria : filter.criteria = [] := by
      by_contra hne
      exact assignmentTexts_ne_nil hne htexts
    have hwhole : IsWhole filter := by
      by_contra hpage
      rw [if_neg hpage] at hpaged
      exact absurd hpaged (List.cons_ne_nil _ _)
    rw [conditions, page, hcriteria, if_pos hwhole, if_pos hwhole]
    rfl
  · next hwords =>
    have hbehind : (pageWords filter).head? ≠ some "AND" := by
      rw [pageWords]
      split <;> simp
    have hread := readConditions_intersperse hwords (map_ofWord?_conditionWords filter) hbehind
    simp [RowQuery.ofWords?, readWhere, hread, hpage]

/-! ### The query for a number -/

/-- The query for the number of trees with a value in a column of the table, in either mode. -/
theorem prepare_count (mode : Mode) {column : String} (hcolumn : column ∈ Tree.columns)
    (value : Value) :
    prepare mode (.count Tree.table (some (.eq column value)))
      = .ok ⟨joinWith " " ["SELECT", "COUNT(*)", "FROM", "trees", "WHERE",
          column ++ "=" ++ placeholder 1], [value]⟩ := by
  have hname := Remote.isIdentifier_of_column column hcolumn
  have hvalid : (Statement.count Tree.table (some (.eq column value))).validate = .ok () := by
    refine Statement.validate_eq_ok_iff.mpr ⟨?_, rfl, ?_⟩
    · intro t ht
      rw [← Option.some.inj ht]
      decide
    · intro name hmem
      rw [List.mem_singleton.mp hmem]
      exact hname
  have hcondition : (Statement.count Tree.table (some (.eq column value))).conditionText?
      = some (joinWith " " [column ++ "=" ++ placeholder 1]) := rfl
  have htokens : ∀ w ∈ [column ++ "=" ++ placeholder 1], IsToken w := by
    intro w hw
    rw [List.mem_singleton.mp hw]
    exact isToken_assignment hname 1
  have hfollows := followsReference_count hvalid
    (fun h => words_ne_empty (by simp) htokens (Option.some.inj (hcondition.symm.trans h)))
  have hclause : ∀ x ∈ (Statement.count Tree.table (some (.eq column value))).freeTexts,
      IsClause x.toList := by
    intro x hx
    rw [List.mem_singleton.mp hx]
    exact isClause_words (by simp) htokens
  have hsql : (Statement.count Tree.table (some (.eq column value))).referenceSql
      = joinWith " " ["SELECT", "COUNT(*)", "FROM", "trees", "WHERE",
          column ++ "=" ++ placeholder 1] := by
    have hwords : joinWith " " (["SELECT", "COUNT(*)", "FROM", "trees"]
        ++ "WHERE" :: [column ++ "=" ++ placeholder 1]) = _ := joinWith_where (by simp) (by simp)
    refine Eq.trans ?_ hwords.symm
    rw [← whereText_words (by simp) htokens]
    rfl
  refine prepare_of_strict ?_ mode
  rw [hfollows.accepted hclause, hsql]
  rfl

/-- Its words are read as the number of trees with the value. -/
theorem ofWords?_count {column : String} (hcolumn : column ∈ Tree.columns) :
    RowQuery.ofWords? ["SELECT", "COUNT(*)", "FROM", "trees", "WHERE",
      column ++ "=" ++ placeholder 1] = some (.count [.equals column 1]) := by
  have hread := ofWord?_placeholder (Remote.isIdentifier_of_column column hcolumn) 1
  simp [RowQuery.ofWords?, readWhere, readConditions, hread]

end AqlGateway.Relational
