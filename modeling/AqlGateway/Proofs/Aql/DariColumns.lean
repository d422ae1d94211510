import AqlGateway.Proofs.Aql.Dangling
import AqlGateway.Proofs.Aql.Slots

/-!
# Columns named like the word behind them

The columns of a select end at the first ` DARI `, which may stand among them.

* `firstDari_or_cut` — the word behind the columns is the first one, or the columns are cut;
* `identifier?_behind_cut` — behind a cut stands a name only if nothing but a gap is left;
* `read_select_strayed` — the cut columns that are read all the same, from a table `DIMANA`;
* `read_select_refused` — all other cut columns leave a text that is no select.
-/

namespace AqlGateway.Aql

open Text

/-- What a list of columns has in front of its last item, when that is the word `DARI` behind a plain
space and in front of nothing but a gap. -/
def frontOfDari? (columns : String) : Option (List Char) :=
  (breakAt? " DARI ".toList (skipGap columns.toList ++ [' '])).bind fun (front, rest) =>
    if (rest.drop 6).all isGap && !(trim front).isEmpty then some (trim front) else none

variable {table columns : String} {filter : Option Predicate} {condition : Option String}
  {front more : List Char}

/-! ### Where columns are cut -/

/-- The columns are cut at a ` DARI ` of their own, whose last space may be the one behind them. -/
structure DariCut (columns : String) (front more : List Char) : Prop where
  eq : skipGap columns.toList ++ [' '] = front ++ (" DARI ".toList ++ more)
  first : ∀ r, NotBefore " DARI ".toList front (" DARI ".toList ++ r)

/-- Either the columns of a select reach up to the word behind them, or an item of their own cuts
them short. -/
theorem firstDari_or_cut (columns : String) :
    (FirstDari columns ∧ frontOfDari? columns = none) ∨
      ∃ front more, DariCut columns front more ∧ frontOfDari? columns =
        if more.all isGap && !(trim front).isEmpty then some (trim front) else none := by
  rw [frontOfDari?]
  cases hbreak : breakAt? " DARI ".toList (skipGap columns.toList ++ [' ']) with
  | none =>
    have habsent := breakAt?_eq_none_iff.mp hbreak
    refine .inl ⟨?_, rfl⟩
    intro rest u v hsplit hne hprefix
    obtain ⟨v', rfl, hv'⟩ := dari_of_begins hne hprefix
    have hspace : ∃ t, v' ++ [' '] = ' ' :: t := by
      cases v' with
      | nil => exact ⟨[], rfl⟩
      | cons c v' => exact ⟨v' ++ [' '], by rw [hv' c rfl, List.cons_append]⟩
    obtain ⟨t, ht⟩ := hspace
    refine habsent ⟨u, t, ?_⟩
    have hword : " DARI ".toList ++ t = " DARI".toList ++ ' ' :: t := rfl
    rw [hsplit, List.append_assoc, List.append_assoc, List.append_assoc, hword, ht]
  | some cut =>
    obtain ⟨front, rest⟩ := cut
    obtain ⟨hsplit, ⟨more, rfl⟩, hfirst⟩ := breakAt?_eq_some_iff.mp hbreak
    exact .inr ⟨front, more, ⟨hsplit, hfirst.of_prefix⟩, rfl⟩

/-- A cut select is read behind the word in its columns. -/
theorem read_from_cut (hcut : DariCut columns front more) (hclause : IsClause columns.toList)
    (keyword rest : List Char) :
    readFrom? keyword (keyword ++ ([' '] ++ (columns.toList ++ (" DARI ".toList ++ rest))))
      = (clause? front).bind fun c =>
          (identifier? (skipGap (more ++ ("DARI ".toList ++ rest)))).bind fun (name, tail) =>
            (filterTail? tail).map fun read => (c, name, read) := by
  have hsplit : skipGap columns.toList ++ (" DARI ".toList ++ rest)
      = front ++ (" DARI ".toList ++ (more ++ ("DARI ".toList ++ rest))) := by
    have hspace : " DARI ".toList ++ rest = [' '] ++ ("DARI ".toList ++ rest) := rfl
    rw [hspace, ← List.append_assoc, hcut.eq]
    simp only [List.append_assoc]
  have hbreak := breakAt?_eq_some_iff.mpr ⟨hsplit, List.prefix_append _ _, hcut.first _⟩
  have hword : ∀ r, expect? " DARI".toList (" DARI ".toList ++ r) = some (' ' :: r) :=
    fun r => expect?_append " DARI".toList (' ' :: r)
  have hgap : ∀ r, gap? (' ' :: r) = some (skipGap r) := fun _ => rfl
  simp only [readFrom?, expect?_append keyword, gap?_clause hclause, hbreak, hword, hgap,
    Option.bind_eq_bind, Option.bind_some, Option.pure_def]
  cases clause? front with
  | none => rfl
  | some c =>
    cases identifier? (skipGap (more ++ ("DARI ".toList ++ rest))) with
    | none => rfl
    | some read => cases h : filterTail? read.2 <;> simp [h]

/-! ### Behind a cut -/

/-- Behind a cut stands a name only if the word was the end of the columns: a checked item is one
word. -/
theorem identifier?_behind_cut (h : validateColumns columns = .ok ())
    (hcut : DariCut columns front more) (hmore : ¬ more.all isGap = true) (rest : List Char) :
    identifier? (skipGap (more ++ rest)) = none := by
  obtain ⟨w, hsplit, hw⟩ := skipGap_spec more
  cases htail : skipGap more with
  | nil =>
    rw [htail, List.append_nil] at hsplit
    exact absurd (List.all_eq_true.mpr (hsplit ▸ hw.gaps)) hmore
  | cons x p =>
    have hskip : skipGap (more ++ rest) = x :: (p ++ rest) := by
      have hne : skipGap more ≠ [] := by simp [htail]
      rw [skipGap, List.dropWhile_append, if_neg (by simpa [skipGap] using hne)]
      exact congrArg (· ++ rest) htail
    rw [hskip]
    by_contra hread
    obtain ⟨⟨name, r⟩, hread⟩ := Option.ne_none_iff_exists'.mp hread
    obtain ⟨htext, hname, -⟩ := identifier?_eq_some_iff.mp hread
    have hx : isWordChar x = true := by
      cases name with
      | nil => exact absurd hname id
      | cons y name =>
        obtain ⟨rfl, -⟩ := List.cons.inj htext
        exact hname.wordChar x (by simp)
    -- The word, the gap and the character behind it lie in one item.
    have hword : IsSolid ("DARI".toList ++ (' ' :: w ++ [x])) := by
      refine ⟨by simp, stops_append (by decide) (by decide), ?_⟩
      rw [← List.append_assoc, List.reverse_append]
      exact stops_append (stops_cons.mpr (isBlank_of_isWordChar hx)) (by simp)
    have hcomma : ',' ∉ "DARI".toList ++ (' ' :: w ++ [x]) := by
      have hgap : ',' ∉ w := fun hmem => absurd (hw.gaps ',' hmem) (by decide)
      have hchar : ',' ≠ x := by
        rintro rfl
        exact absurd hx (by decide)
      simp [hgap, hchar]
    have hcolumns : trim columns.toList
        = trim ((front ++ [' ']) ++ (("DARI".toList ++ (' ' :: w ++ [x])) ++ p)) := by
      rw [← trim_skipGap, ← trim_append_blanks isBlank_of_mem_space, hcut.eq, hsplit, htail]
      simp
    obtain ⟨p₁, p₂, -, hitem, -, -⟩ := exists_item h hcolumns hword hcomma
      (show 'D' ∈ "DARI".toList ++ (' ' :: w ++ [x]) by simp) (by decide)
    refine hitem.notMem (show isWordChar ' ' = false by decide) ?_
    rw [trim_around hword.ne_nil hword.first hword.last]
    simp

/-- Behind the columns that end in the word, the word is read as the table. -/
theorem identifier?_behind_end (hmore : more.all isGap = true) (rest : List Char) :
    identifier? (skipGap (more ++ ("DARI ".toList ++ rest))) = some ("DARI".toList, ' ' :: rest) := by
  have hdari : IsName "DARI".toList := isIdentifier_iff.mp (by decide)
  have hgap : GapBefore more ("DARI ".toList ++ rest) :=
    ⟨List.all_eq_true.mp hmore, stops_append (by decide) (by decide)⟩
  rw [skipGap_append hgap]
  exact identifier?_append hdari (stops_cons.mpr (by decide))

/-- The name of the table is read as the keyword of a condition if it is that keyword. -/
theorem filterTail?_name {name tail : List Char} (hname : IsName name)
    (htail : Stops isWordChar tail) :
    filterTail? (' ' :: (name ++ tail))
      = if name = "DIMANA".toList then (gap? tail).bind fun s => (clause? s).map some else none := by
  have hgap : gap? (' ' :: (name ++ tail)) = some (name ++ tail) := gap?_space_name hname tail
  rw [filterTail?, if_neg (by simp), hgap]
  by_cases hdimana : name = "DIMANA".toList
  · rw [if_pos hdimana, hdimana]
    simp only [Option.bind_eq_bind, Option.bind_some, expect?_append, Option.pure_def]
    cases gap? tail with
    | none => rfl
    | some s => cases h : clause? s <;> simp [h]
  · rw [if_neg hdimana, Option.bind_eq_bind, Option.bind_some]
    cases hread : expect? "DIMANA".toList (name ++ tail) with
    | none => rfl
    | some r =>
      cases hr : gap? r with
      | none => simp [hr]
      | some s =>
        have hword : IsName "DIMANA".toList := isIdentifier_iff.mp (by decide)
        have hstop : Stops isWordChar r := by
          cases r with
          | nil => exact stops_nil
          | cons c r =>
            have hc : isGap c = true := by
              by_contra hc
              simp [gap?, hc] at hr
            refine stops_cons.mpr ?_
            cases hchar : isWordChar c with
            | false => rfl
            | true => exact absurd (isGap_of_isWordChar hchar) (by simp [hc])
        -- Both words end where the word characters end, so they are the same word.
        have hsame := run_unique hname.wordChar htail hword.wordChar hstop
          (expect?_eq_some_iff.mp hread)
        exact absurd hsame.1 hdimana

/-! ### Reading cut columns -/

/-- What stands in front of a cut has no character that a clause may not have. -/
theorem clause?_front (h : validateColumns columns = .ok ()) (hcut : DariCut columns front more) :
    clause? front = if (trim front).isEmpty then none else some (trim front) := by
  have hplain {c : Char} (hc : c ∉ columns.toList) (hspace : c ≠ ' ') : c ∉ front := by
    intro hmem
    have hline : c ∈ skipGap columns.toList ++ [' '] := by
      rw [hcut.eq]
      exact List.mem_append_left _ hmem
    rcases List.mem_append.mp hline with hline | hline
    · exact hc ((List.dropWhile_suffix isGap).subset hline)
    · exact hspace (List.mem_singleton.mp hline)
  have hquote := hplain (notMem_columns h (c := '\'') (by decide) (by decide) (by decide) (by decide))
    (by decide)
  have hsemicolon := hplain (notMem_columns h (c := ';') (by decide) (by decide) (by decide)
    (by decide)) (by decide)
  by_cases hne : trim front = []
  · rw [hne, clause?_eq_none_iff.mpr fun hclause => hclause.ne_nil hne]
    rfl
  · rw [clause?_of_isClause (isClause_of_plain hne hquote hsemicolon), if_neg (by simp [hne])]

/-- The text of a cut select is read as a select from `DARI`, as long as nothing is wrong behind the
cut. -/
theorem read_select_cut (hvalid : (Statement.select table columns filter).validate = .ok ())
    (hcut : DariCut columns front more) (hcondition : condition ≠ some "") :
    Sentence.read? .select (trim (Template.select table columns condition).toList)
      = if more.all isGap && !(trim front).isEmpty && table == "DIMANA" then
          (gap? (conditionTail condition)).bind fun s =>
            (clause? s).map fun f => .select (trim front) "DARI".toList (some f)
        else none := by
  have hname : IsName table.toList := Statement.isName_of_validate hvalid rfl
  have hcolumns : validateColumns columns = .ok () := (Statement.validate_eq_ok_iff.mp hvalid).2.1
  show (readFrom? "PANEN".toList (trim (Template.withFilter _ _).toList)).map _ = _
  rw [trim_from_text (toList_select table columns) (by decide) (by decide) hname hcondition,
    read_from_cut hcut (isClause_columns hcolumns), clause?_front hcolumns hcut]
  by_cases hmore : more.all isGap = true
  · rw [identifier?_behind_end hmore, hmore]
    simp only [Option.bind_some, filterTail?_name hname stops_conditionTail]
    by_cases hfront : (trim front).isEmpty = true
    · simp only [hfront, if_true, Option.bind_none, Option.map_none, Bool.not_true, Bool.and_false,
        Bool.false_and, Bool.false_eq_true, if_false]
    · by_cases htable : table = "DIMANA"
      · subst htable
        rw [if_pos rfl]
        simp only [hfront, if_false, Option.bind_some, Bool.not_false, Bool.and_true,
          beq_self_eq_true, if_true, Bool.false_eq_true]
        cases gap? (conditionTail condition) with
        | none => rfl
        | some s => cases h : clause? s <;> simp only [h, Option.bind_some] <;> rfl
      · rw [if_neg fun hlist => htable (String.toList_inj.mp hlist), beq_eq_false_iff_ne.mpr htable,
          Bool.and_false]
        simp
  · rw [identifier?_behind_cut hcolumns hcut hmore]
    simp [hmore]

/-! ### Selects that are read as others -/

/-- A condition with the keyword in front of it is a clause, too. -/
theorem clause?_keyword {f : List Char} (hsolid : IsSolid f) (hsheltered : Sheltered f) :
    clause? ("DIMANA ".toList ++ f) = some ("DIMANA ".toList ++ f) := by
  have hkeyword : "DIMANA ".toList = "DIMANA".toList ++ [' '] := by decide
  have hwhole : IsSolid ("DIMANA ".toList ++ f) := by
    have hword : IsSolid "DIMANA".toList := ⟨by decide, by decide, by decide⟩
    rw [hkeyword, List.append_assoc]
    exact hword.around hsolid [' ']
  have hclause : IsClause ("DIMANA ".toList ++ f) :=
    Sheltered.isClause ((sheltered_plain (by decide) (by decide)).append hsheltered) hwhole
  rw [clause?_of_isClause hclause, hwhole.trim_eq]

variable {f : String}

/-- The select that is read as another one: the keyword of its condition is taken for a name in it. -/
theorem read_select_strayed
    (hvalid : (Statement.select "DIMANA" columns filter).validate = .ok ())
    (hfront : frontOfDari? columns = some front) (hsolid : IsSolid f.toList)
    (hsheltered : Sheltered f.toList) :
    Sentence.read? .select (trim (Template.select "DIMANA" columns (some f)).toList)
      = some (.select front "DARI".toList (some ("DIMANA ".toList ++ f.toList))) := by
  have hblank : ¬ isAllBlank f = true := by
    rw [isAllBlank_iff, hsolid.trim_eq]
    exact hsolid.ne_nil
  have hcondition : some f ≠ some "" := by
    rintro ⟨⟩
    exact hsolid.ne_nil rfl
  have hgap : gap? (conditionTail (some f)) = some ("DIMANA ".toList ++ f.toList) := by
    have hstop : Stops isGap "DIMANA ".toList := by decide
    rw [conditionTail_of_not_blank hblank, trimEnd_eq_self hsolid.last]
    exact gap?_space (stops_append hstop (by decide))
  obtain ⟨-, hnone⟩ | ⟨before, more, hcut, hcolumns⟩ := firstDari_or_cut columns
  · rw [hnone] at hfront
    exact absurd hfront (by simp)
  · rw [hcolumns] at hfront
    split at hfront
    · next hends =>
      rw [read_select_cut hvalid hcut hcondition, if_pos (by simpa using hends), hgap,
        Option.bind_some, clause?_keyword hsolid hsheltered, Option.some.inj hfront]
      rfl
    · exact absurd hfront (by simp)

/-- All other selects with cut columns are no statements. -/
theorem read_select_refused (hvalid : (Statement.select table columns filter).validate = .ok ())
    (hdari : ¬ FirstDari columns) (hcondition : condition ≠ some "")
    (h : frontOfDari? columns = none ∨ table ≠ "DIMANA" ∨ condition = none) :
    Sentence.read? .select (trim (Template.select table columns condition).toList) = none := by
  obtain ⟨hfirst, -⟩ | ⟨front, more, hcut, hfront⟩ := firstDari_or_cut columns
  · exact absurd hfirst hdari
  · rw [read_select_cut hvalid hcut hcondition]
    split
    · next hread =>
      simp only [Bool.and_eq_true] at hread
      rcases h with h | h | rfl
      · rw [hfront, if_pos (by simpa using hread.1)] at h
        exact absurd h (by simp)
      · exact absurd (beq_iff_eq.mp hread.2) h
      · rfl
    · rfl

end AqlGateway.Aql
