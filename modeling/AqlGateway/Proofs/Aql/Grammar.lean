import AqlGateway.Aql.Translation
import AqlGateway.Proofs.Aql.Clause
import AqlGateway.Proofs.Aql.Identifier
import AqlGateway.Proofs.Text.Occurrence

/-!
# The grammar of statement texts

The rules are written as texts put side by side; nothing is said about how a text is read.

* `GapBefore`, `NameBefore` — separators and names, as long as possible in front of what follows;
* `FilterSpelling`, `FromSpelling`, `SetEnd` — the parts that several shapes share;
* `Spelling` — the texts that spell a sentence, one rule for each shape;
* `filterTail?_eq_some_iff`, `breakSet_eq_iff`, `fromSpelling_iff` — the shared parts are read exactly
  where they are spelled.
-/

namespace AqlGateway.Aql

open Text

/-! ### Separators and names -/

/-- The separators `w`, as long as possible in front of `s`; there may be none. -/
structure GapBefore (w s : List Char) : Prop where
  gaps : ∀ c ∈ w, isGap c = true
  longest : Stops isGap s

/-- The separators behind the first keyword of a statement: a space, and more of any kind. -/
structure LeadBefore (u s : List Char) : Prop extends GapBefore u s where
  space : u.head? = some ' '

/-- The identifier `name`, as long as possible in front of `s`. -/
structure NameBefore (name s : List Char) : Prop where
  isName : IsName name
  longest : Stops isWordChar s

/-! ### Shared parts -/

/-- The end of a statement with its optional condition. -/
inductive FilterSpelling : List Char → Option (List Char) → Prop
  | absent : FilterSpelling [] none
  | present {v w x : List Char} :
      v ≠ [] → GapBefore v ("DIMANA".toList ++ (w ++ x)) →
      w ≠ [] → GapBefore w x → IsClause x →
      FilterSpelling (v ++ ("DIMANA".toList ++ (w ++ x))) (some (trim x))

/-- The part that a select and a count have in common: the clause `c` reaches up to the first
` DARI `. -/
inductive FromSpelling (keyword : List Char) :
    List Char → List Char → List Char → Option (List Char) → Prop
  | intro {u c v table tail : List Char} {filter : Option (List Char)} :
      LeadBefore u (c ++ (" DARI".toList ++ (v ++ (table ++ tail)))) →
      IsClause c →
      " DARI ".toList <+: " DARI".toList ++ (v ++ (table ++ tail)) →
      NotBefore " DARI ".toList c (" DARI".toList ++ (v ++ (table ++ tail))) →
      v ≠ [] → GapBefore v (table ++ tail) →
      NameBefore table tail → FilterSpelling tail filter →
      FromSpelling keyword
        (keyword ++ (u ++ (c ++ (" DARI".toList ++ (v ++ (table ++ tail))))))
        (trim c) table filter

/-- The set clause `set` of an update ends in front of the first ` DIMANA `, or with the text. -/
inductive SetEnd (set : List Char) : List Char → Prop
  | condition {tail : List Char} :
      " DIMANA ".toList <+: tail → NotBefore " DIMANA ".toList set tail → SetEnd set tail
  | textEnd : ¬ " DIMANA ".toList <:+: set → SetEnd set []

/-! ### Shapes -/

/-- The texts that spell a sentence. -/
inductive Spelling : List Char → Sentence → Prop
  | createTable {u name w x : List Char} :
      LeadBefore u (name ++ (w ++ '(' :: (x ++ [')']))) →
      NameBefore name (w ++ '(' :: (x ++ [')'])) →
      GapBefore w ('(' :: (x ++ [')'])) → IsClause x →
      Spelling ("LAHAN".toList ++ (u ++ (name ++ (w ++ '(' :: (x ++ [')'])))))
        (.createTable name (trim x))
  | insert {u table w c v₁ v₂ x : List Char} :
      LeadBefore u
        (table ++ (w ++ '(' :: (c ++ ')' :: (v₁ ++ ("BIBIT".toList ++ (v₂ ++ '(' :: (x ++ [')']))))))) →
      NameBefore table
        (w ++ '(' :: (c ++ ')' :: (v₁ ++ ("BIBIT".toList ++ (v₂ ++ '(' :: (x ++ [')'])))))) →
      GapBefore w
        ('(' :: (c ++ ')' :: (v₁ ++ ("BIBIT".toList ++ (v₂ ++ '(' :: (x ++ [')'])))))) →
      ')' ∉ c → IsClause c →
      GapBefore v₁ ("BIBIT".toList ++ (v₂ ++ '(' :: (x ++ [')']))) →
      GapBefore v₂ ('(' :: (x ++ [')'])) → IsClause x →
      Spelling
        ("TANAM KE".toList ++ (u ++ (table ++ (w ++ '(' :: (c ++ ')' ::
          (v₁ ++ ("BIBIT".toList ++ (v₂ ++ '(' :: (x ++ [')'])))))))))
        (.insert table (trim c) (trim x))
  | select {q c table : List Char} {filter : Option (List Char)} :
      FromSpelling "PANEN".toList q c table filter → Spelling q (.select c table filter)
  | update {u table v₁ v₂ set tail : List Char} {filter : Option (List Char)} :
      LeadBefore u (table ++ (v₁ ++ ("DENGAN".toList ++ (v₂ ++ (set ++ tail))))) →
      NameBefore table (v₁ ++ ("DENGAN".toList ++ (v₂ ++ (set ++ tail)))) →
      v₁ ≠ [] → GapBefore v₁ ("DENGAN".toList ++ (v₂ ++ (set ++ tail))) →
      v₂ ≠ [] → GapBefore v₂ (set ++ tail) →
      IsClause set → SetEnd set tail → FilterSpelling tail filter →
      Spelling
        ("PUPUK".toList ++ (u ++ (table ++ (v₁ ++ ("DENGAN".toList ++ (v₂ ++ (set ++ tail)))))))
        (.update table (trim set) filter)
  | delete {u table tail : List Char} {filter : Option (List Char)} :
      LeadBefore u (table ++ tail) → NameBefore table tail → FilterSpelling tail filter →
      Spelling ("GUSUR DARI".toList ++ (u ++ (table ++ tail))) (.delete table filter)
  | dropTable {u name : List Char} :
      LeadBefore u name → IsName name →
      Spelling ("BAKAR LAHAN".toList ++ (u ++ name)) (.dropTable name)
  | listTables : Spelling "LIHAT LAHAN".toList .listTables
  | count {q c table : List Char} {filter : Option (List Char)} :
      FromSpelling "HITUNG".toList q c table filter → Spelling q (.count c table filter)

/-! ### Reading separators and names -/

variable {s r w name : List Char}

theorem expect?_append (lead s : List Char) : expect? lead (lead ++ s) = some s :=
  expect?_eq_some_iff.mpr rfl

theorem skipGap_append (h : GapBefore w s) : skipGap (w ++ s) = s :=
  dropWhile_run h.gaps h.longest

/-- Skipping takes as many separators as there are. -/
theorem skipGap_spec (s : List Char) : ∃ w, s = w ++ skipGap s ∧ GapBefore w (skipGap s) :=
  ⟨s.takeWhile isGap, List.takeWhile_append_dropWhile.symm,
    fun _ hc => mem_takeWhile hc, stops_dropWhile⟩

theorem gap?_append (hne : w ≠ []) (h : GapBefore w s) : gap? (w ++ s) = some s := by
  cases w with
  | nil => exact absurd rfl hne
  | cons c w =>
    have hc : isGap c = true := h.gaps c (by simp)
    have hrest : skipGap (w ++ s) = s :=
      skipGap_append ⟨fun d hd => h.gaps d (by simp [hd]), h.longest⟩
    rw [List.cons_append, gap?, if_pos hc, hrest]

/-- A gap is read where there is at least one separator. -/
theorem gap?_eq_some_iff :
    gap? s = some r ↔ ∃ w, s = w ++ r ∧ w ≠ [] ∧ GapBefore w r := by
  constructor
  · intro h
    cases s with
    | nil => exact absurd h (by simp [gap?])
    | cons c s =>
      rw [gap?] at h
      split at h
      · next hc =>
        obtain ⟨w, hs, hw⟩ := skipGap_spec s
        rw [Option.some.inj h] at hs hw
        refine ⟨c :: w, by rw [hs, List.cons_append], by simp, ?_, hw.longest⟩
        intro d hd
        rcases List.mem_cons.mp hd with rfl | hd
        · exact hc
        · exact hw.gaps d hd
      · exact absurd h (by simp)
  · rintro ⟨w, rfl, hne, hw⟩
    exact gap?_append hne hw

/-- One space separates, in front of a text that does not go on with separators. -/
theorem gapBefore_space (hs : Stops isGap s) : GapBefore [' '] s :=
  ⟨fun c hc => by rw [List.mem_singleton.mp hc]; rfl, hs⟩

theorem gap?_space (hs : Stops isGap s) : gap? ([' '] ++ s) = some s :=
  gap?_append (List.cons_ne_nil _ _) (gapBefore_space hs)

theorem gap?_space_name (hname : IsName name) (r : List Char) :
    gap? ([' '] ++ (name ++ r)) = some (name ++ r) :=
  gap?_space (stops_append hname.stops_gap hname.ne_nil)

theorem LeadBefore.ne_nil {u : List Char} (h : LeadBefore u s) : u ≠ [] := by
  rintro rfl
  exact absurd h.space (by simp)

theorem gap?_lead {u : List Char} (h : LeadBefore u s) : gap? (u ++ s) = some s :=
  gap?_append h.ne_nil h.toGapBefore

/-- The keyword of a statement is followed by a space exactly when its separators begin with one. -/
theorem keyword_space_begins {keyword u : List Char} (h : LeadBefore u s) :
    keyword ++ [' '] <+: keyword ++ (u ++ s) := by
  rw [List.prefix_append_right_inj]
  cases u with
  | nil => exact absurd rfl h.ne_nil
  | cons c u =>
    obtain rfl : c = ' ' := by simpa using h.space
    exact ⟨u ++ s, rfl⟩

theorem leadBefore_of_space {keyword u : List Char} (hne : u ≠ []) (hu : GapBefore u s)
    (h : keyword ++ [' '] <+: keyword ++ (u ++ s)) : LeadBefore u s := by
  refine ⟨hu, ?_⟩
  rw [List.prefix_append_right_inj] at h
  cases u with
  | nil => exact absurd rfl hne
  | cons c u =>
    rw [List.cons_append, List.cons_prefix_cons] at h
    rw [List.head?_cons, h.1]

theorem identifier?_nameBefore (h : NameBefore name s) :
    identifier? (name ++ s) = some (name, s) :=
  identifier?_append h.isName h.longest

/-! ### Reading the shared parts -/

/-- What is read in parentheses at the end of a text is a clause. -/
theorem enclosedTail?_eq_some_iff {y : List Char} :
    enclosedTail? s = some y ↔ ∃ x, s = x ++ [')'] ∧ IsClause x ∧ y = trim x := by
  unfold enclosedTail?
  constructor
  · intro h
    split at h
    · next inner hinner =>
      obtain ⟨hclause, hy⟩ := clause?_eq_some_iff.mp h
      refine ⟨inner.reverse, ?_, hclause, hy⟩
      rw [← List.reverse_reverse s, hinner, List.reverse_cons]
    · exact absurd h (by simp)
  · rintro ⟨x, rfl, hclause, rfl⟩
    rw [List.reverse_append]
    show clause? x.reverse.reverse = some (trim x)
    rw [List.reverse_reverse, clause?_of_isClause hclause]

/-- The reader of an optional condition follows its rule. -/
theorem filterTail?_eq_some_iff {filter : Option (List Char)} :
    filterTail? s = some filter ↔ FilterSpelling s filter := by
  constructor
  · intro h
    rw [filterTail?] at h
    split at h
    · next hs =>
      rw [← Option.some.inj h, List.isEmpty_iff.mp hs]
      exact .absent
    · simp only [Option.bind_eq_bind, Option.bind_eq_some_iff, Option.pure_def,
        Option.some.injEq] at h
      obtain ⟨s₁, hgap, s₂, hword, s₃, hgap', condition, hclause, rfl⟩ := h
      obtain ⟨v, rfl, hv, hvgap⟩ := gap?_eq_some_iff.mp hgap
      obtain rfl := expect?_eq_some_iff.mp hword
      obtain ⟨w, rfl, hw, hwgap⟩ := gap?_eq_some_iff.mp hgap'
      obtain ⟨hx, rfl⟩ := clause?_eq_some_iff.mp hclause
      exact .present hv hvgap hw hwgap hx
  · intro h
    cases h with
    | absent => rfl
    | @present v w x hv hvgap hw hwgap hx =>
      have hne : (v ++ ("DIMANA".toList ++ (w ++ x))).isEmpty = false := by
        cases v with
        | nil => exact absurd rfl hv
        | cons c v => rfl
      rw [filterTail?, hne]
      simp only [Bool.false_eq_true, if_false, gap?_append hv hvgap, Option.bind_eq_bind,
        Option.bind_some, expect?_append, gap?_append hw hwgap, clause?_of_isClause hx,
        Option.pure_def]

/-- A text is taken apart at the end of its set clause, which is in one place only. -/
theorem breakSet_eq_iff {set tail : List Char} :
    breakSet s = (set, tail) ↔ s = set ++ tail ∧ SetEnd set tail := by
  unfold breakSet
  constructor
  · intro h
    cases hbreak : breakAt? " DIMANA ".toList s with
    | none =>
      rw [hbreak, Option.getD_none] at h
      obtain ⟨rfl, rfl⟩ := Prod.mk.inj h
      exact ⟨(List.append_nil s).symm, .textEnd (breakAt?_eq_none_iff.mp hbreak)⟩
    | some cut =>
      rw [hbreak, Option.getD_some] at h
      rw [h] at hbreak
      obtain ⟨hs, hprefix, hnot⟩ := breakAt?_eq_some_iff.mp hbreak
      exact ⟨hs, .condition hprefix hnot⟩
  · rintro ⟨rfl, hend⟩
    cases hend with
    | condition hprefix hnot =>
      rw [breakAt?_eq_some_iff.mpr ⟨rfl, hprefix, hnot⟩, Option.getD_some]
    | textEnd hnot =>
      rw [List.append_nil, breakAt?_eq_none_iff.mpr hnot, Option.getD_none]

/-- The common part of a select and a count is read as its rule says. -/
theorem fromSpelling_iff {keyword c table : List Char} {filter : Option (List Char)} :
    FromSpelling keyword s c table filter ↔
      readFrom? keyword s = some (c, table, filter) ∧ keyword ++ [' '] <+: s := by
  constructor
  · intro h
    cases h with
    | @intro u c v table tail filter hu hc hprefix hnot hv hvgap htable hfilter =>
      refine ⟨?_, ?_⟩
      · simp only [readFrom?, expect?_append, gap?_lead hu, Option.bind_eq_bind,
          Option.bind_some, breakAt?_eq_some_iff.mpr ⟨rfl, hprefix, hnot⟩,
          clause?_of_isClause hc, gap?_append hv hvgap, identifier?_nameBefore htable,
          filterTail?_eq_some_iff.mpr hfilter, Option.pure_def]
      · exact keyword_space_begins hu
  · rintro ⟨h, hlead⟩
    simp only [readFrom?, Option.bind_eq_bind, Option.bind_eq_some_iff, Option.pure_def,
      Option.some.injEq, Prod.exists, Prod.mk.injEq] at h
    obtain ⟨s₁, hkeyword, s₂, hgap, c', s₃, hbreak, c'', hclause, s₄, hdari, s₅, hgap',
      table', s₆, hname, filter', hfilter, rfl, rfl, rfl⟩ := h
    obtain rfl := expect?_eq_some_iff.mp hkeyword
    obtain ⟨u, rfl, hu, hugap⟩ := gap?_eq_some_iff.mp hgap
    obtain ⟨rfl, hprefix, hnot⟩ := breakAt?_eq_some_iff.mp hbreak
    obtain ⟨hc, rfl⟩ := clause?_eq_some_iff.mp hclause
    obtain rfl := expect?_eq_some_iff.mp hdari
    obtain ⟨v, rfl, hv, hvgap⟩ := gap?_eq_some_iff.mp hgap'
    obtain ⟨rfl, hisName, hstop⟩ := identifier?_eq_some_iff.mp hname
    exact .intro (leadBefore_of_space hu hugap hlead) hc hprefix hnot hv hvgap ⟨hisName, hstop⟩
      (filterTail?_eq_some_iff.mp hfilter)

end AqlGateway.Aql
