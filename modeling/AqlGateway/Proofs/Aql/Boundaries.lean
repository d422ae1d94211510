import AqlGateway.Proofs.Aql.Acceptance
import AqlGateway.Proofs.Text.Stretches

/-!
# The boundaries of a sentence

A text is taken apart at keywords and parentheses. No reader of them looks at quotes; it is the check
of each clause behind a boundary that keeps the next boundary out of a quoted stretch.

* `Boundary`, `Sentence.cut?` — the sentence of a text together with the boundaries at which it was
  taken apart;
* `Sentence.map_fst_cut?` — it is the sentence that `Sentence.read?` reads;
* `cutText?` — the same for a text that is translated, with the blanks around it;
* `Passed` — an even number of quotes stands in front of what is still to be read, and each step of
  reading keeps it so;
* `Sentence.outside_of_cut` — each boundary stands outside of all quoted stretches.
-/

namespace AqlGateway.Aql

open Text

/-- A keyword or a parenthesis at which a text is taken apart. -/
structure Boundary where
  word : List Char
  /-- What stands behind the word. -/
  rest : List Char
  deriving DecidableEq, Repr

/-- The boundary stands in a text, and each quoted stretch of the text lies wholly behind it or wholly
in front of it. -/
structure Boundary.Outside (b : Boundary) (text : List Char) : Prop where
  stands : b.word ++ b.rest <:+ text
  apart : ∀ front body back, StretchAt text front body back →
    '\'' :: (body ++ '\'' :: back) <:+ b.rest ∨ b.word ++ b.rest <:+ back

/-! ### Reading with boundaries -/

/-- A condition and the boundary in front of it. -/
def cutFilter? (s : List Char) : Option (Option (List Char) × List Boundary) :=
  if s.isEmpty then some (none, [])
  else do
    let s ← gap? s
    let behind ← expect? "DIMANA".toList s
    let s ← gap? behind
    let condition ← clause? s
    pure (some condition, [⟨"DIMANA".toList, behind⟩])

def cutCreateTable? (s : List Char) : Option (Sentence × List Boundary) := do
  let s₁ ← expect? "LAHAN".toList s
  let s ← gap? s₁
  let (name, s) ← identifier? s
  let s₂ ← expect? ['('] (skipGap s)
  let columns ← enclosedTail? s₂
  pure (.createTable name columns, [⟨"LAHAN".toList, s₁⟩, ⟨['('], s₂⟩, ⟨[')'], []⟩])

def cutInsert? (s : List Char) : Option (Sentence × List Boundary) := do
  let s₁ ← expect? "TANAM KE".toList s
  let s ← gap? s₁
  let (table, s) ← identifier? s
  let s₂ ← expect? ['('] (skipGap s)
  let (columns, s) ← breakAt? [')'] s₂
  let columns ← clause? columns
  let s₃ ← expect? [')'] s
  let s₄ ← expect? "BIBIT".toList (skipGap s₃)
  let s₅ ← expect? ['('] (skipGap s₄)
  let values ← enclosedTail? s₅
  pure (.insert table columns values,
    [⟨"TANAM KE".toList, s₁⟩, ⟨['('], s₂⟩, ⟨[')'], s₃⟩, ⟨"BIBIT".toList, s₄⟩, ⟨['('], s₅⟩,
      ⟨[')'], []⟩])

def cutFrom? (keyword : List Char) (s : List Char) :
    Option ((List Char × List Char × Option (List Char)) × List Boundary) := do
  let s₁ ← expect? keyword s
  let s ← gap? s₁
  let (columns, s) ← breakAt? " DARI ".toList s
  let columns ← clause? columns
  let s₂ ← expect? " DARI".toList s
  let s ← gap? s₂
  let (table, s) ← identifier? s
  let (filter, boundaries) ← cutFilter? s
  pure ((columns, table, filter), ⟨keyword, s₁⟩ :: ⟨" DARI".toList, s₂⟩ :: boundaries)

def cutUpdate? (s : List Char) : Option (Sentence × List Boundary) := do
  let s₁ ← expect? "PUPUK".toList s
  let s ← gap? s₁
  let (table, s) ← identifier? s
  let s ← gap? s
  let s₂ ← expect? "DENGAN".toList s
  let s ← gap? s₂
  let set ← clause? (breakSet s).1
  let (filter, boundaries) ← cutFilter? (breakSet s).2
  pure (.update table set filter, ⟨"PUPUK".toList, s₁⟩ :: ⟨"DENGAN".toList, s₂⟩ :: boundaries)

def cutDelete? (s : List Char) : Option (Sentence × List Boundary) := do
  let s₁ ← expect? "GUSUR DARI".toList s
  let s ← gap? s₁
  let (table, s) ← identifier? s
  let (filter, boundaries) ← cutFilter? s
  pure (.delete table filter, ⟨"GUSUR DARI".toList, s₁⟩ :: boundaries)

def cutDropTable? (s : List Char) : Option (Sentence × List Boundary) := do
  let s₁ ← expect? "BAKAR LAHAN".toList s
  let s ← gap? s₁
  let (name, s) ← identifier? s
  if s.isEmpty then pure (.dropTable name, [⟨"BAKAR LAHAN".toList, s₁⟩]) else none

/-- The sentence of a kind that a text spells, and the boundaries at which the text is taken apart. -/
def Sentence.cut? (kind : Kind) (s : List Char) : Option (Sentence × List Boundary) :=
  match kind with
  | .createTable => cutCreateTable? s
  | .insert => cutInsert? s
  | .select => (cutFrom? "PANEN".toList s).map fun ((c, t, f), b) => (.select c t f, b)
  | .update => cutUpdate? s
  | .delete => cutDelete? s
  | .dropTable => cutDropTable? s
  | .listTables => some (.listTables, [])
  | .count => (cutFrom? "HITUNG".toList s).map fun ((c, t, f), b) => (.count c t f, b)

/-- The blanks that trimming takes off the end of a text. -/
def endBlanks (text : List Char) : List Char :=
  ((trimStart text).reverse.takeWhile isBlank).reverse

/-- The sentence whose SQL a text is translated to, and the boundaries at which the text is taken
apart. -/
def cutText? (text : List Char) : Option (Sentence × List Boundary) := do
  let kind ← Kind.ofTrimmed? (trim text)
  let (sentence, boundaries) ← Sentence.cut? kind (trim text)
  pure (sentence, boundaries.map fun b => ⟨b.word, b.rest ++ endBlanks text⟩)

/-! ### The same sentence -/

section SameSentence

variable (s : List Char)

/-- Readers with boundaries read what those without them read. -/
theorem map_fst_cutFilter? : (cutFilter? s).map Prod.fst = filterTail? s := by
  rw [cutFilter?, filterTail?]
  split
  · rfl
  · simp only [Option.bind_eq_bind, Option.map_bind, Option.pure_def, Option.map_some,
      Function.comp_def]

theorem map_fst_cutFrom? (keyword : List Char) :
    (cutFrom? keyword s).map Prod.fst = readFrom? keyword s := by
  simp only [cutFrom?, readFrom?, ← map_fst_cutFilter?, Option.bind_eq_bind, Option.map_bind,
    Option.bind_map, Option.pure_def, Option.map_some, Function.comp_def]

/-- Reading with boundaries reads the same sentence from the same texts. -/
theorem Sentence.map_fst_cut? (kind : Kind) :
    (Sentence.cut? kind s).map Prod.fst = Sentence.read? kind s := by
  cases kind with
  | createTable =>
    show (cutCreateTable? s).map Prod.fst = readCreateTable? s
    simp only [cutCreateTable?, readCreateTable?, Option.bind_eq_bind, Option.map_bind,
      Option.pure_def, Option.map_some, Function.comp_def]
  | insert =>
    show (cutInsert? s).map Prod.fst = readInsert? s
    simp only [cutInsert?, readInsert?, Option.bind_eq_bind, Option.map_bind,
      Option.pure_def, Option.map_some, Function.comp_def]
  | select =>
    show ((cutFrom? "PANEN".toList s).map _).map Prod.fst = (readFrom? "PANEN".toList s).map _
    simp only [← map_fst_cutFrom?, Option.map_map, Function.comp_def]
  | update =>
    show (cutUpdate? s).map Prod.fst = readUpdate? s
    simp only [cutUpdate?, readUpdate?, ← map_fst_cutFilter?, Option.bind_eq_bind, Option.map_bind,
      Option.bind_map, Option.pure_def, Option.map_some, Function.comp_def]
  | delete =>
    show (cutDelete? s).map Prod.fst = readDelete? s
    simp only [cutDelete?, readDelete?, ← map_fst_cutFilter?, Option.bind_eq_bind, Option.map_bind,
      Option.bind_map, Option.pure_def, Option.map_some, Function.comp_def]
  | dropTable =>
    show (cutDropTable? s).map Prod.fst = readDropTable? s
    simp only [cutDropTable?, readDropTable?, Option.bind_eq_bind, Option.map_bind, Option.pure_def,
      Function.comp_def, apply_ite (Option.map Prod.fst), Option.map_some, Option.map_none]
  | listTables => rfl
  | count =>
    show ((cutFrom? "HITUNG".toList s).map _).map Prod.fst = (readFrom? "HITUNG".toList s).map _
    simp only [← map_fst_cutFrom?, Option.map_map, Function.comp_def]

end SameSentence

/-! ### Passing quotes -/

/-- An even number of quotes of a text stands in front of what is still to be read, which is `s` and
the blanks behind it. -/
def Passed (text blanks s : List Char) : Prop :=
  ∃ before, text = before ++ (s ++ blanks) ∧ Even (before.count '\'')

section Passing

variable {text blanks s r w word y : List Char}

/-- A reader who passes an even number of quotes is outside of them again. -/
theorem Passed.behind (h : Passed text blanks (w ++ s)) (hw : Even (w.count '\'')) :
    Passed text blanks s := by
  obtain ⟨before, htext, heven⟩ := h
  refine ⟨before ++ w, ?_, ?_⟩
  · rw [htext]
    simp only [List.append_assoc]
  · rw [List.count_append]
    exact heven.add hw

theorem Passed.behind_plain (h : Passed text blanks (w ++ s)) (hw : '\'' ∉ w) :
    Passed text blanks s :=
  h.behind (by rw [List.count_eq_zero_of_not_mem hw]; exact Even.zero)

theorem GapBefore.notMem_quote (h : GapBefore w s) : '\'' ∉ w := fun hmem =>
  absurd (h.gaps _ hmem) (by decide)

theorem Passed.expect (h : Passed text blanks s) (hs : expect? word s = some r)
    (hword : '\'' ∉ word) : Passed text blanks r := by
  rw [expect?_eq_some_iff.mp hs] at h
  exact h.behind_plain hword

theorem Passed.gap (h : Passed text blanks s) (hs : gap? s = some r) : Passed text blanks r := by
  obtain ⟨w, rfl, -, hw⟩ := gap?_eq_some_iff.mp hs
  exact h.behind_plain hw.notMem_quote

theorem Passed.skip (h : Passed text blanks s) : Passed text blanks (skipGap s) := by
  obtain ⟨w, hs, hw⟩ := skipGap_spec s
  rw [hs] at h
  exact h.behind_plain hw.notMem_quote

/-- No name has a quote, so a name is passed without noticing. -/
theorem Passed.name {table : List Char} (h : Passed text blanks s)
    (hs : identifier? s = some (table, r)) : Passed text blanks r := by
  obtain ⟨rfl, hname, -⟩ := identifier?_eq_some_iff.mp hs
  exact h.behind_plain (hname.notMem (by decide))

/-- A clause closes what it opens. -/
theorem IsClause.even_count (h : IsClause w) : Even (w.count '\'') := by
  rw [← count_trim (by decide)]
  exact h.even_quotes

/-- A clause closes the literals that it opens. -/
theorem Passed.clause (h : Passed text blanks (w ++ s)) (hw : clause? w = some y) :
    Passed text blanks s :=
  h.behind (clause?_eq_some_iff.mp hw).1.even_count

/-- A word read behind an even number of quotes is a boundary outside of all stretches. -/
theorem Passed.outside (h : Passed text blanks s) (hs : expect? word s = some r) (hne : word ≠ [])
    (hword : '\'' ∉ word) : Boundary.Outside ⟨word, r ++ blanks⟩ text := by
  obtain ⟨before, htext, heven⟩ := h
  rw [expect?_eq_some_iff.mp hs, List.append_assoc] at htext
  exact ⟨⟨before, htext.symm⟩, fun front body back hat => apart_of_even htext heven hne hword hat⟩

/-- The parenthesis at the end of a text stands behind a clause. -/
theorem Passed.outside_close (h : Passed text blanks s) (hs : enclosedTail? s = some y) :
    Boundary.Outside ⟨[')'], [] ++ blanks⟩ text := by
  obtain ⟨x, rfl, hx, -⟩ := enclosedTail?_eq_some_iff.mp hs
  exact (h.behind hx.even_count).outside (expect?_append [')'] []) (by decide) (by decide)

end Passing

/-! ### Boundaries outside of stretches -/

section Outside

variable {text blanks s : List Char} {boundaries : List Boundary}

/-- Every boundary stands in a text outside of its quoted stretches. -/
def AllOutside (text blanks : List Char) (boundaries : List Boundary) : Prop :=
  ∀ b ∈ boundaries, Boundary.Outside ⟨b.word, b.rest ++ blanks⟩ text

theorem allOutside_nil : AllOutside text blanks [] := fun _ h => absurd h List.not_mem_nil

theorem AllOutside.cons {word rest : List Char}
    (hb : Boundary.Outside ⟨word, rest ++ blanks⟩ text) (h : AllOutside text blanks boundaries) :
    AllOutside text blanks (⟨word, rest⟩ :: boundaries) := by
  intro c hc
  rcases List.mem_cons.mp hc with rfl | hc
  · exact hb
  · exact h c hc

/-- The keyword of a condition stands outside of quotes, and so does each boundary of the readers
below. -/
theorem outside_of_cutFilter {filter : Option (List Char)} (h : Passed text blanks s)
    (hs : cutFilter? s = some (filter, boundaries)) : AllOutside text blanks boundaries := by
  rw [cutFilter?] at hs
  split at hs
  · obtain ⟨-, rfl⟩ := Prod.mk.inj (Option.some.inj hs)
    exact allOutside_nil
  · simp only [Option.bind_eq_bind, Option.bind_eq_some_iff, Option.pure_def, Option.some.injEq,
      Prod.mk.injEq] at hs
    obtain ⟨s₁, hgap, s₂, hword, s₃, -, condition, -, -, rfl⟩ := hs
    exact .cons ((h.gap hgap).outside hword (by decide) (by decide)) allOutside_nil

theorem outside_of_cutFrom {keyword : List Char} (hne : keyword ≠ []) (hplain : '\'' ∉ keyword)
    {parts : List Char × List Char × Option (List Char)} (h : Passed text blanks s)
    (hs : cutFrom? keyword s = some (parts, boundaries)) : AllOutside text blanks boundaries := by
  simp only [cutFrom?, Option.bind_eq_bind, Option.bind_eq_some_iff, Option.pure_def,
    Option.some.injEq, Prod.exists, Prod.mk.injEq] at hs
  obtain ⟨s₁, hkeyword, s₂, hgap, c, s₃, hbreak, c', hclause, s₄, hdari, s₅, hgap', table, s₆,
    hname, filter, later, hfilter, -, rfl⟩ := hs
  have h₂ := (h.expect hkeyword hplain).gap hgap
  obtain ⟨rfl, -, -⟩ := breakAt?_eq_some_iff.mp hbreak
  have h₃ := h₂.clause hclause
  have h₆ := ((h₃.expect hdari (by decide)).gap hgap').name hname
  exact .cons (h.outside hkeyword hne hplain)
    (.cons (h₃.outside hdari (by decide) (by decide)) (outside_of_cutFilter h₆ hfilter))

theorem outside_of_cutCreateTable {sentence : Sentence} (h : Passed text blanks s)
    (hs : cutCreateTable? s = some (sentence, boundaries)) : AllOutside text blanks boundaries := by
  simp only [cutCreateTable?, Option.bind_eq_bind, Option.bind_eq_some_iff, Option.pure_def,
    Option.some.injEq, Prod.exists, Prod.mk.injEq] at hs
  obtain ⟨s₁, hkeyword, s₂, hgap, name, s₃, hname, s₄, hopen, columns, htail, -, rfl⟩ := hs
  have h₃ := (((h.expect hkeyword (by decide)).gap hgap).name hname).skip
  have h₄ := h₃.expect hopen (by decide)
  exact .cons (h.outside hkeyword (by decide) (by decide))
    (.cons (h₃.outside hopen (by decide) (by decide)) (.cons (h₄.outside_close htail) allOutside_nil))

theorem outside_of_cutInsert {sentence : Sentence} (h : Passed text blanks s)
    (hs : cutInsert? s = some (sentence, boundaries)) : AllOutside text blanks boundaries := by
  simp only [cutInsert?, Option.bind_eq_bind, Option.bind_eq_some_iff, Option.pure_def,
    Option.some.injEq, Prod.exists, Prod.mk.injEq] at hs
  obtain ⟨s₁, hkeyword, s₂, hgap, table, s₃, hname, s₄, hopen, c, s₅, hbreak, c', hclause, s₆,
    hclose, s₇, hword, s₈, hopen', values, htail, -, rfl⟩ := hs
  have h₃ := (((h.expect hkeyword (by decide)).gap hgap).name hname).skip
  have h₄ := h₃.expect hopen (by decide)
  obtain ⟨rfl, -, -⟩ := breakAt?_eq_some_iff.mp hbreak
  have h₅ := h₄.clause hclause
  have h₆ := (h₅.expect hclose (by decide)).skip
  have h₇ := (h₆.expect hword (by decide)).skip
  have h₈ := h₇.expect hopen' (by decide)
  exact .cons (h.outside hkeyword (by decide) (by decide))
    (.cons (h₃.outside hopen (by decide) (by decide))
      (.cons (h₅.outside hclose (by decide) (by decide))
        (.cons (h₆.outside hword (by decide) (by decide))
          (.cons (h₇.outside hopen' (by decide) (by decide))
            (.cons (h₈.outside_close htail) allOutside_nil)))))

theorem outside_of_cutUpdate {sentence : Sentence} (h : Passed text blanks s)
    (hs : cutUpdate? s = some (sentence, boundaries)) : AllOutside text blanks boundaries := by
  simp only [cutUpdate?, Option.bind_eq_bind, Option.bind_eq_some_iff, Option.pure_def,
    Option.some.injEq, Prod.exists, Prod.mk.injEq] at hs
  obtain ⟨s₁, hkeyword, s₂, hgap, table, s₃, hname, s₄, hgap₁, s₅, hword, s₆, hgap₂, y, hset,
    filter, later, hfilter, -, rfl⟩ := hs
  have h₄ := (((h.expect hkeyword (by decide)).gap hgap).name hname).gap hgap₁
  have h₆ := (h₄.expect hword (by decide)).gap hgap₂
  obtain ⟨hsplit, -⟩ := breakSet_eq_iff.mp (rfl : breakSet s₆ = ((breakSet s₆).1, (breakSet s₆).2))
  rw [hsplit] at h₆
  exact .cons (h.outside hkeyword (by decide) (by decide))
    (.cons (h₄.outside hword (by decide) (by decide))
      (outside_of_cutFilter (h₆.clause hset) hfilter))

theorem outside_of_cutDelete {sentence : Sentence} (h : Passed text blanks s)
    (hs : cutDelete? s = some (sentence, boundaries)) : AllOutside text blanks boundaries := by
  simp only [cutDelete?, Option.bind_eq_bind, Option.bind_eq_some_iff, Option.pure_def,
    Option.some.injEq, Prod.exists, Prod.mk.injEq] at hs
  obtain ⟨s₁, hkeyword, s₂, hgap, table, s₃, hname, filter, later, hfilter, -, rfl⟩ := hs
  have h₃ := ((h.expect hkeyword (by decide)).gap hgap).name hname
  exact .cons (h.outside hkeyword (by decide) (by decide)) (outside_of_cutFilter h₃ hfilter)

theorem outside_of_cutDropTable {sentence : Sentence} (h : Passed text blanks s)
    (hs : cutDropTable? s = some (sentence, boundaries)) : AllOutside text blanks boundaries := by
  simp only [cutDropTable?, Option.bind_eq_bind, Option.bind_eq_some_iff, Option.pure_def,
    Prod.exists] at hs
  obtain ⟨s₁, hkeyword, s₂, -, name, s₃, -, hend⟩ := hs
  split at hend
  · obtain ⟨-, rfl⟩ := Prod.mk.inj (Option.some.inj hend)
    exact .cons (h.outside hkeyword (by decide) (by decide)) allOutside_nil
  · exact absurd hend (by simp)

/-- Every boundary of a sentence stands outside of the quoted stretches of its text. -/
theorem Sentence.outside_of_cut {kind : Kind} {sentence : Sentence} (h : Passed text blanks s)
    (hs : Sentence.cut? kind s = some (sentence, boundaries)) :
    AllOutside text blanks boundaries := by
  cases kind with
  | createTable => exact outside_of_cutCreateTable h hs
  | insert => exact outside_of_cutInsert h hs
  | select =>
    obtain ⟨⟨parts, later⟩, hcut, heq⟩ := Option.map_eq_some_iff.mp hs
    obtain ⟨-, rfl⟩ := Prod.mk.inj heq
    exact outside_of_cutFrom (by decide) (by decide) h hcut
  | update => exact outside_of_cutUpdate h hs
  | delete => exact outside_of_cutDelete h hs
  | dropTable => exact outside_of_cutDropTable h hs
  | listTables =>
    obtain ⟨-, rfl⟩ := Prod.mk.inj (Option.some.inj hs)
    exact allOutside_nil
  | count =>
    obtain ⟨⟨parts, later⟩, hcut, heq⟩ := Option.map_eq_some_iff.mp hs
    obtain ⟨-, rfl⟩ := Prod.mk.inj heq
    exact outside_of_cutFrom (by decide) (by decide) h hcut

end Outside

end AqlGateway.Aql
