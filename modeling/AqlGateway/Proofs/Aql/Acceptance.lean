import AqlGateway.Proofs.Aql.Grammar

/-!
# Accepted statement texts

* `Kind.opens_unique`, `ofTrimmed?_eq_some_iff` — a text begins like one kind at most;
* `Spelling.read` — a text that spells a sentence is read as that sentence;
* `spelling_of_read` — a text from which a sentence is read spells it;
* `toSql_strict_accepts_iff` — the texts that strict mode accepts, and their SQL.
-/

namespace AqlGateway.Aql

open Text

/-! ### The kind of a text -/

namespace Kind

/-- The text that a statement of a kind begins with. -/
def lead : Kind → List Char
  | listTables => listTables.keyword.toList
  | kind => kind.keyword.toList ++ [' ']

theorem stops_lead (kind : Kind) : Stops isBlank kind.lead := by
  cases kind <;> decide

theorem keyword_prefix_lead (kind : Kind) : kind.keyword.toList <+: kind.lead := by
  cases kind <;> decide

theorem lead_prefix_of_opens {kind : Kind} {s : List Char} (h : kind.opens s = true) :
    kind.lead <+: s := by
  cases kind with
  | listTables =>
    have hs : s = listTables.keyword.toList := by simpa [opens] using h
    exact ⟨[], (List.append_nil _).trans hs.symm⟩
  | _ => exact List.isPrefixOf_iff_prefix.mp h

theorem opens_of_begins {kind : Kind} {s : List Char} (hkind : kind ≠ .listTables)
    (h : kind.lead <+: s) : kind.opens s = true := by
  cases kind with
  | listTables => exact absurd rfl hkind
  | _ => exact List.isPrefixOf_iff_prefix.mpr h

/-- No statement begins like one of another kind. -/
theorem lead_injective {k₁ k₂ : Kind} (h : k₁.lead <+: k₂.lead) : k₁ = k₂ := by
  revert h
  cases k₁ <;> cases k₂ <;> decide

/-- A text begins like a statement of one kind at most. -/
theorem opens_unique {k₁ k₂ : Kind} {s : List Char} (h₁ : k₁.opens s = true)
    (h₂ : k₂.opens s = true) : k₁ = k₂ := by
  rcases List.prefix_or_prefix_of_prefix (lead_prefix_of_opens h₁) (lead_prefix_of_opens h₂)
    with h | h
  · exact lead_injective h
  · exact (lead_injective h).symm

/-- So the order in which the kinds are tried does not matter. -/
theorem ofTrimmed?_eq_some_iff {kind : Kind} {s : List Char} :
    ofTrimmed? s = some kind ↔ kind.opens s = true := by
  have sound : ∀ {k}, ofTrimmed? s = some k → k.opens s = true := by
    intro k h
    have hfind : all.find? (fun k => k.opens s) = some k := h
    exact List.find?_some (p := fun k : Kind => k.opens s) hfind
  constructor
  · exact sound
  · intro h
    cases hfind : ofTrimmed? s with
    | none => exact absurd h (List.find?_eq_none.mp hfind kind (mem_all kind))
    | some k => rw [opens_unique h (sound hfind)]

end Kind

def Sentence.kind : Sentence → Kind
  | createTable _ _ => .createTable
  | insert _ _ _ => .insert
  | select _ _ _ => .select
  | update _ _ _ => .update
  | delete _ _ => .delete
  | dropTable _ => .dropTable
  | listTables => .listTables
  | count _ _ _ => .count

/-! ### Spelled texts are read -/

variable {q s : List Char} {sentence : Sentence}

theorem opens_of_lead (kind : Kind) {u : List Char} (hkind : kind ≠ .listTables)
    (hu : LeadBefore u s) : kind.opens (kind.keyword.toList ++ (u ++ s)) = true := by
  have h : kind.keyword.toList ++ [' '] <+: kind.keyword.toList ++ (u ++ s) :=
    keyword_space_begins hu
  refine Kind.opens_of_begins hkind ?_
  cases kind with
  | listTables => exact absurd rfl hkind
  | _ => exact h

/-- A text that spells a sentence begins like its kind. -/
theorem Spelling.opens (h : Spelling q sentence) : sentence.kind.opens q = true := by
  cases h with
  | createTable hu _ _ _ => exact opens_of_lead .createTable (by decide) hu
  | insert hu _ _ _ _ _ _ _ => exact opens_of_lead .insert (by decide) hu
  | select h => exact List.isPrefixOf_iff_prefix.mpr (fromSpelling_iff.mp h).2
  | update hu _ _ _ _ _ _ _ _ => exact opens_of_lead .update (by decide) hu
  | delete hu _ _ => exact opens_of_lead .delete (by decide) hu
  | dropTable hu _ => exact opens_of_lead .dropTable (by decide) hu
  | listTables => decide
  | count h => exact List.isPrefixOf_iff_prefix.mpr (fromSpelling_iff.mp h).2

/-- A text that spells a sentence is read as that sentence. -/
theorem Spelling.read (h : Spelling q sentence) :
    Sentence.read? sentence.kind q = some sentence := by
  cases h with
  | @createTable u name w x hu hname hw hx =>
    have htail : enclosedTail? (x ++ [')']) = some (trim x) :=
      enclosedTail?_eq_some_iff.mpr ⟨x, rfl, hx, rfl⟩
    show readCreateTable? _ = _
    simp only [readCreateTable?, expect?_append, gap?_lead hu, identifier?_nameBefore hname,
      skipGap_append hw, Option.bind_eq_bind, Option.bind_some, Option.pure_def]
    rw [show '(' :: (x ++ [')']) = ['('] ++ (x ++ [')']) from rfl, expect?_append,
      Option.bind_some, htail, Option.bind_some]
  | @insert u table w c v₁ v₂ x hu htable hw hparen hc hv₁ hv₂ hx =>
    have htail : enclosedTail? (x ++ [')']) = some (trim x) :=
      enclosedTail?_eq_some_iff.mpr ⟨x, rfl, hx, rfl⟩
    have hcut : ∀ r, breakAt? [')'] (c ++ ')' :: r) = some (c, ')' :: r) := fun r =>
      breakAt?_eq_some_iff.mpr ⟨rfl, ⟨r, rfl⟩, notBefore_of_notMem hparen⟩
    have hopen : ∀ r, expect? ['('] ('(' :: r) = some r := expect?_append ['(']
    have hclose : ∀ r, expect? [')'] (')' :: r) = some r := expect?_append [')']
    show readInsert? _ = _
    simp only [readInsert?, expect?_append, gap?_lead hu, identifier?_nameBefore htable,
      skipGap_append hw, skipGap_append hv₁, skipGap_append hv₂, hopen, hclose, hcut,
      clause?_of_isClause hc, htail, Option.bind_eq_bind, Option.bind_some, Option.pure_def]
  | select h =>
    show (readFrom? "PANEN".toList q).map _ = _
    rw [(fromSpelling_iff.mp h).1]
    rfl
  | @update u table v₁ v₂ set tail filter hu htable hv₁ hgap₁ hv₂ hgap₂ hset hend hfilter =>
    show readUpdate? _ = _
    simp only [readUpdate?, expect?_append, gap?_lead hu, identifier?_nameBefore htable,
      gap?_append hv₁ hgap₁, gap?_append hv₂ hgap₂, breakSet_eq_iff.mpr ⟨rfl, hend⟩,
      clause?_of_isClause hset, filterTail?_eq_some_iff.mpr hfilter, Option.bind_eq_bind,
      Option.bind_some, Option.pure_def]
  | @delete u table tail filter hu htable hfilter =>
    show readDelete? _ = _
    simp only [readDelete?, expect?_append, gap?_lead hu, identifier?_nameBefore htable,
      filterTail?_eq_some_iff.mpr hfilter, Option.bind_eq_bind, Option.bind_some,
      Option.pure_def]
  | @dropTable u name hu hname =>
    show readDropTable? _ = _
    simp only [readDropTable?, expect?_append, gap?_lead hu, identifier?_self hname,
      Option.bind_eq_bind, Option.bind_some, List.isEmpty_nil, if_true, Option.pure_def]
  | listTables => rfl
  | count h =>
    show (readFrom? "HITUNG".toList q).map _ = _
    rw [(fromSpelling_iff.mp h).1]
    rfl

/-! ### Read texts are spelled -/

/-- What each reader accepts is spelled by the rule of its kind. The reader is tried behind its
keyword and a space, which is where the rule has its first separators. -/
theorem spelling_of_readCreateTable (hlead : "LAHAN".toList ++ [' '] <+: q)
    (h : readCreateTable? q = some sentence) : Spelling q sentence := by
  simp only [readCreateTable?, Option.bind_eq_bind, Option.bind_eq_some_iff, Option.pure_def,
    Option.some.injEq, Prod.exists] at h
  obtain ⟨s₁, hkeyword, s₂, hgap, name, s₃, hname, s₄, hopen, columns, htail, rfl⟩ := h
  obtain rfl := expect?_eq_some_iff.mp hkeyword
  obtain ⟨u, rfl, hu, hugap⟩ := gap?_eq_some_iff.mp hgap
  obtain ⟨rfl, hisName, hstop⟩ := identifier?_eq_some_iff.mp hname
  obtain ⟨w, hs₃, hw⟩ := skipGap_spec s₃
  rw [expect?_eq_some_iff.mp hopen] at hs₃ hw
  obtain ⟨x, rfl, hx, rfl⟩ := enclosedTail?_eq_some_iff.mp htail
  subst hs₃
  exact .createTable (leadBefore_of_space hu hugap hlead) ⟨hisName, hstop⟩ hw hx

theorem spelling_of_readInsert (hlead : "TANAM KE".toList ++ [' '] <+: q)
    (h : readInsert? q = some sentence) : Spelling q sentence := by
  simp only [readInsert?, Option.bind_eq_bind, Option.bind_eq_some_iff, Option.pure_def,
    Option.some.injEq, Prod.exists] at h
  obtain ⟨s₁, hkeyword, s₂, hgap, table, s₃, hname, s₄, hopen, c, s₅, hbreak, c', hclause,
    s₆, hclose, s₇, hword, s₈, hopen', values, htail, rfl⟩ := h
  obtain rfl := expect?_eq_some_iff.mp hkeyword
  obtain ⟨u, rfl, hu, hugap⟩ := gap?_eq_some_iff.mp hgap
  obtain ⟨rfl, hisName, hstop⟩ := identifier?_eq_some_iff.mp hname
  obtain ⟨w, hs₃, hw⟩ := skipGap_spec s₃
  rw [expect?_eq_some_iff.mp hopen] at hs₃ hw
  obtain ⟨rfl, -, hnot⟩ := breakAt?_eq_some_iff.mp hbreak
  obtain ⟨hc, rfl⟩ := clause?_eq_some_iff.mp hclause
  obtain rfl := expect?_eq_some_iff.mp hclose
  obtain ⟨v₁, hs₆, hv₁⟩ := skipGap_spec s₆
  rw [expect?_eq_some_iff.mp hword] at hs₆ hv₁
  obtain ⟨v₂, hs₇, hv₂⟩ := skipGap_spec s₇
  rw [expect?_eq_some_iff.mp hopen'] at hs₇ hv₂
  obtain ⟨x, rfl, hx, rfl⟩ := enclosedTail?_eq_some_iff.mp htail
  subst hs₇ hs₆ hs₃
  exact .insert (leadBefore_of_space hu hugap hlead) ⟨hisName, hstop⟩ hw (notMem_of_notBefore hnot)
    hc hv₁ hv₂ hx

theorem spelling_of_readUpdate (hlead : "PUPUK".toList ++ [' '] <+: q)
    (h : readUpdate? q = some sentence) : Spelling q sentence := by
  simp only [readUpdate?, Option.bind_eq_bind, Option.bind_eq_some_iff, Option.pure_def,
    Option.some.injEq, Prod.exists] at h
  obtain ⟨s₁, hkeyword, s₂, hgap, table, s₃, hname, s₄, hgap₁, s₅, hword, s₆, hgap₂, y, hset,
    filter, hfilter, rfl⟩ := h
  obtain rfl := expect?_eq_some_iff.mp hkeyword
  obtain ⟨u, rfl, hu, hugap⟩ := gap?_eq_some_iff.mp hgap
  obtain ⟨rfl, hisName, hstop⟩ := identifier?_eq_some_iff.mp hname
  obtain ⟨v₁, rfl, hv₁, hvgap₁⟩ := gap?_eq_some_iff.mp hgap₁
  obtain rfl := expect?_eq_some_iff.mp hword
  obtain ⟨v₂, rfl, hv₂, hvgap₂⟩ := gap?_eq_some_iff.mp hgap₂
  cases hcut : breakSet s₆ with
  | mk set tail =>
    rw [hcut] at hset hfilter
    obtain ⟨rfl, hend⟩ := breakSet_eq_iff.mp hcut
    obtain ⟨hclause, rfl⟩ := clause?_eq_some_iff.mp hset
    exact .update (leadBefore_of_space hu hugap hlead) ⟨hisName, hstop⟩ hv₁ hvgap₁ hv₂ hvgap₂
      hclause hend (filterTail?_eq_some_iff.mp hfilter)

theorem spelling_of_readDelete (hlead : "GUSUR DARI".toList ++ [' '] <+: q)
    (h : readDelete? q = some sentence) : Spelling q sentence := by
  simp only [readDelete?, Option.bind_eq_bind, Option.bind_eq_some_iff, Option.pure_def,
    Option.some.injEq, Prod.exists] at h
  obtain ⟨s₁, hkeyword, s₂, hgap, table, s₃, hname, filter, hfilter, rfl⟩ := h
  obtain rfl := expect?_eq_some_iff.mp hkeyword
  obtain ⟨u, rfl, hu, hugap⟩ := gap?_eq_some_iff.mp hgap
  obtain ⟨rfl, hisName, hstop⟩ := identifier?_eq_some_iff.mp hname
  exact .delete (leadBefore_of_space hu hugap hlead) ⟨hisName, hstop⟩
    (filterTail?_eq_some_iff.mp hfilter)

theorem spelling_of_readDropTable (hlead : "BAKAR LAHAN".toList ++ [' '] <+: q)
    (h : readDropTable? q = some sentence) : Spelling q sentence := by
  simp only [readDropTable?, Option.bind_eq_bind, Option.bind_eq_some_iff, Option.pure_def,
    Prod.exists] at h
  obtain ⟨s₁, hkeyword, s₂, hgap, name, s₃, hname, hend⟩ := h
  obtain rfl := expect?_eq_some_iff.mp hkeyword
  obtain ⟨u, rfl, hu, hugap⟩ := gap?_eq_some_iff.mp hgap
  obtain ⟨rfl, hisName, -⟩ := identifier?_eq_some_iff.mp hname
  split at hend
  · next hempty =>
    obtain rfl := List.isEmpty_iff.mp hempty
    rw [List.append_nil] at hlead hugap ⊢
    obtain rfl := Option.some.inj hend
    exact .dropTable (leadBefore_of_space hu hugap hlead) hisName
  · exact absurd hend (by simp)

/-- A text from which a sentence of its kind is read spells the sentence. -/
theorem spelling_of_read {kind : Kind} (hopens : kind.opens q = true)
    (h : Sentence.read? kind q = some sentence) : Spelling q sentence := by
  have hlead := Kind.lead_prefix_of_opens hopens
  cases kind with
  | createTable => exact spelling_of_readCreateTable hlead h
  | insert => exact spelling_of_readInsert hlead h
  | select =>
    obtain ⟨⟨c, table, filter⟩, hread, rfl⟩ := Option.map_eq_some_iff.mp h
    exact .select (fromSpelling_iff.mpr ⟨hread, hlead⟩)
  | update => exact spelling_of_readUpdate hlead h
  | delete => exact spelling_of_readDelete hlead h
  | dropTable => exact spelling_of_readDropTable hlead h
  | listTables =>
    have hq : q = "LIHAT LAHAN".toList := by simpa [Kind.opens, Kind.keyword] using hopens
    obtain rfl := Option.some.inj h
    rw [hq]
    exact .listTables
  | count =>
    obtain ⟨⟨c, table, filter⟩, hread, rfl⟩ := Option.map_eq_some_iff.mp h
    exact .count (fromSpelling_iff.mpr ⟨hread, hlead⟩)

/-! ### Acceptance -/

/-- A sentence is read exactly from the texts that spell it. -/
theorem spelling_iff_read :
    Spelling q sentence ↔
      ∃ kind, Kind.ofTrimmed? q = some kind ∧ Sentence.read? kind q = some sentence := by
  constructor
  · intro h
    exact ⟨sentence.kind, Kind.ofTrimmed?_eq_some_iff.mpr h.opens, h.read⟩
  · rintro ⟨kind, hkind, hread⟩
    exact spelling_of_read (Kind.ofTrimmed?_eq_some_iff.mp hkind) hread

theorem not_opens_nil (kind : Kind) : kind.opens [] = false := by
  cases kind <;> decide

/-- A text that begins like a kind is translated as a statement of this kind or not at all. -/
theorem trimmedToSql_of_opens {mode : Mode} {kind : Kind} (h : kind.opens q = true) :
    trimmedToSql mode q = match Sentence.read? kind q with
      | some sentence => .ok sentence.sql
      | none => fallback mode q (.malformedStatement kind) := by
  have hempty : q.isEmpty = false := by
    cases q with
    | nil => rw [not_opens_nil] at h; exact absurd h (by simp)
    | cons c q => rfl
  rw [trimmedToSql, hempty, Kind.ofTrimmed?_eq_some_iff.mpr h]
  rfl

/-- A text that spells a sentence is translated in either mode. -/
theorem trimmedToSql_of_spelling (mode : Mode) (h : Spelling q sentence) :
    trimmedToSql mode q = .ok sentence.sql := by
  rw [trimmedToSql_of_opens h.opens, h.read]

/-- Strict translation accepts the spelled texts, and nothing else. -/
theorem trimmedToSql_strict_eq_ok_iff {sql : List Char} :
    trimmedToSql .strict q = .ok sql ↔ ∃ sentence, Spelling q sentence ∧ sql = sentence.sql := by
  constructor
  · intro h
    rw [trimmedToSql] at h
    split at h
    · exact absurd h (by simp)
    · split at h
      · exact absurd h (by simp [fallback])
      · next kind hkind =>
        split at h
        · next sentence hread =>
          exact ⟨sentence, spelling_iff_read.mpr ⟨kind, hkind, hread⟩, (Except.ok.inj h).symm⟩
        · exact absurd h (by simp [fallback])
  · rintro ⟨sentence, hspell, rfl⟩
    exact trimmedToSql_of_spelling .strict hspell

/-- The texts that strict mode accepts are those whose trimmed text spells a sentence, and the SQL
is that of the sentence. -/
theorem toSql_strict_accepts_iff (text sql : String) :
    toSql .strict text = .ok sql ↔
      ∃ sentence, Spelling (trim text.toList) sentence ∧ sql = String.ofList sentence.sql := by
  rw [toSql]
  cases h : trimmedToSql .strict (trim text.toList) with
  | error e =>
    constructor
    · intro hsql
      exact absurd hsql (by simp [Except.map])
    · rintro ⟨sentence, hspell, -⟩
      rw [trimmedToSql_strict_eq_ok_iff.mpr ⟨sentence, hspell, rfl⟩] at h
      exact absurd h (by simp)
  | ok chars =>
    constructor
    · intro hsql
      obtain ⟨sentence, hspell, rfl⟩ := trimmedToSql_strict_eq_ok_iff.mp h
      exact ⟨sentence, hspell, (Except.ok.inj hsql).symm⟩
    · rintro ⟨sentence, hspell, rfl⟩
      rw [trimmedToSql_strict_eq_ok_iff.mpr ⟨sentence, hspell, rfl⟩] at h
      rw [← Except.ok.inj h]
      rfl

end AqlGateway.Aql
