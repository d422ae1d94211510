import AqlGateway.Proofs.Aql.Filling
import AqlGateway.Proofs.Aql.Leaves
import AqlGateway.Proofs.Aql.TokenList

/-!
# The places of a statement's values

Each value of a statement stands behind a text of its own: nothing in an insert, a column and an equals
sign in an update and in a condition of equalities.

* `Statement.boundSlots`, `Statement.conditionSlots?` — these places, in front of the condition and in
  it;
* `Statement.boundTexts_eq`, `Statement.conditionText?_eq`, `Statement.params_eq` — the text with
  placeholders and the parameters of a statement, read off from them;
* `Statement.text_eq` — so is the text with literals;
* `IsLead.isToken`, `IsLead.isSolid`, `IsLead.sheltered` — what a placeholder or a literal is part of.
-/

namespace AqlGateway.Aql

open Text

/-- Whether a condition is a conjunction of equalities. -/
def Predicate.isBound : Predicate → Bool
  | eq _ _ => true
  | and left right => left.isBound && right.isBound
  | raw _ => false

/-- The values of a condition in their places, from left to right. -/
def Predicate.slots : Predicate → List Slot
  | eq column value => [⟨column ++ "=", value⟩]
  | and left right => left.slots ++ right.slots
  | raw _ => []

def Assignment.slot (a : Assignment) : Slot := ⟨a.column ++ "=", a.value⟩

namespace Statement

/-- Whether a statement reads or writes rows and its condition, if it has one, is a conjunction of
equalities. -/
def isBound : Statement → Bool
  | insert _ _ _ => true
  | select _ _ filter => filter.all Predicate.isBound
  | update _ _ filter => filter.all Predicate.isBound
  | delete _ filter => filter.all Predicate.isBound
  | count _ filter => filter.all Predicate.isBound
  | createTable _ _ => false
  | dropTable _ => false
  | listTables => false

/-- The values in front of the condition. -/
def boundSlots : Statement → List Slot
  | insert _ _ values => values.map fun value => ⟨"", value⟩
  | update _ assignments _ => assignments.map Assignment.slot
  | _ => []

def conditionSlots? (statement : Statement) : Option (List Slot) :=
  statement.filter?.map Predicate.slots

def literalTexts (statement : Statement) : List String := statement.boundSlots.map Slot.literalText

def literalCondition? (statement : Statement) : Option String :=
  statement.conditionSlots?.map fun slots => joinWith " AND " (slots.map Slot.literalText)

end Statement

/-! ### Placeholders -/

variable {statement : Statement} {p : Predicate} {values : List Value}

theorem Predicate.values_slots (p : Predicate) : p.values = p.slots.map Slot.value := by
  induction p with
  | eq column value => rfl
  | and left right ihl ihr => rw [values, slots, List.map_append, ihl, ihr]
  | raw text => rfl

/-- A conjunction of equalities has a placeholder in each of its slots. -/
theorem Predicate.leafTexts_slots (h : p.isBound = true) (n : Nat) :
    p.leafTexts n = Slot.numberedTexts n p.slots := by
  induction p generalizing n with
  | eq column value => rfl
  | and left right ihl ihr =>
    obtain ⟨hl, hr⟩ := Bool.and_eq_true_iff.mp h
    rw [leafTexts, slots, Slot.numberedTexts_append, ihl hl, ihr hr, left.values_slots, List.length_map]
  | raw text => exact absurd h (by simp [isBound])

theorem Predicate.slots_ne_nil (h : p.isBound = true) : p.slots ≠ [] := by
  induction p with
  | eq column value => exact List.cons_ne_nil _ _
  | and left right ihl ihr =>
    have hleft := ihl (Bool.and_eq_true_iff.mp h).1
    simp [slots, hleft]
  | raw text => exact absurd h (by simp [isBound])

theorem placeholders_slots (n : Nat) (values : List Value) :
    placeholders n values.length = Slot.numberedTexts n (values.map fun value => ⟨"", value⟩) := by
  induction values generalizing n with
  | nil => rfl
  | cons value rest ih =>
    show placeholder (n + 1) :: placeholders (n + 1) rest.length
      = ("" ++ placeholder (n + 1)) :: Slot.numberedTexts (n + 1) _
    rw [ih, String.empty_append]

theorem assignmentTexts_slots (n : Nat) (assignments : List Assignment) :
    assignmentTexts n assignments = Slot.numberedTexts n (assignments.map Assignment.slot) := by
  induction assignments generalizing n with
  | nil => rfl
  | cons a rest ih =>
    show _ :: assignmentTexts (n + 1) rest = _ :: Slot.numberedTexts (n + 1) _
    rw [ih]
    rfl

namespace Statement

/-- In front of the condition, the texts of a statement are its slots with placeholders. -/
theorem boundTexts_eq (statement : Statement) :
    statement.boundTexts = Slot.numberedTexts 0 statement.boundSlots := by
  cases statement with
  | insert table columns values => exact placeholders_slots 0 values
  | update table assignments filter => exact assignmentTexts_slots 0 assignments
  | _ => rfl

theorem boundValues_eq (statement : Statement) :
    statement.boundValues = statement.boundSlots.map Slot.value := by
  cases statement with
  | insert table columns values =>
    show values = (values.map _).map _
    rw [List.map_map]
    exact (List.map_id values).symm
  | update table assignments filter =>
    show assignments.map Assignment.value = (assignments.map Assignment.slot).map _
    rw [List.map_map]
    rfl
  | _ => rfl

/-- The parameters are the values of all slots, those of the condition last. -/
theorem params_eq (statement : Statement) :
    statement.params = statement.boundSlots.map Slot.value
      ++ (statement.conditionSlots?.getD []).map Slot.value := by
  have hcondition : (statement.filter?.map Predicate.values).getD []
      = (statement.conditionSlots?.getD []).map Slot.value := by
    rw [conditionSlots?]
    cases statement.filter? with
    | none => rfl
    | some p => exact p.values_slots
  rw [params, boundValues_eq, hcondition]

theorem isBound_of_mem (h : statement.isBound = true) (hp : statement.filter? = some p) :
    p.isBound = true := by
  cases statement with
  | select table columns filter =>
    obtain rfl : filter = some p := hp
    exact h
  | update table assignments filter =>
    obtain rfl : filter = some p := hp
    exact h
  | delete table filter =>
    obtain rfl : filter = some p := hp
    exact h
  | count table filter =>
    obtain rfl : filter = some p := hp
    exact h
  | _ => exact absurd hp (by simp [filter?])

/-- The placeholders of a condition go on counting behind those in front of it. -/
theorem conditionText?_eq (h : statement.isBound = true) :
    statement.conditionText? = statement.conditionSlots?.map fun slots =>
      joinWith " AND " (Slot.numberedTexts statement.boundSlots.length slots) := by
  rw [conditionText?, conditionSlots?, boundValues_eq, List.length_map]
  cases hp : statement.filter? with
  | none => rfl
  | some p =>
    show some (joinWith " AND " (p.leafTexts _)) = some (joinWith " AND " _)
    rw [p.leafTexts_slots (isBound_of_mem h hp)]

end Statement

/-! ### Literals -/

theorem renderValues_inline_run (more : List Value) :
    (renderValues .inline more).run values = (more.map Value.literal, values) := by
  induction more with
  | nil => rfl
  | cons value more ih =>
    rw [renderValues, run_bind, run_bind]
    show (value.literal :: ((renderValues .inline more).run values).1,
      ((renderValues .inline more).run values).2) = _
    rw [ih]
    rfl

theorem renderAssignments_inline_run (assignments : List Assignment) :
    (Statement.renderAssignments .inline assignments).run values
      = (assignments.map fun a => a.slot.literalText, values) := by
  induction assignments with
  | nil => rfl
  | cons a rest ih =>
    rw [Statement.renderAssignments, run_bind, run_bind]
    show (_ :: ((Statement.renderAssignments .inline rest).run values).1,
      ((Statement.renderAssignments .inline rest).run values).2) = _
    rw [ih]
    rfl

theorem Predicate.literalTexts_slots (h : p.isBound = true) :
    p.parts.map Leaf.literalText = p.slots.map Slot.literalText := by
  induction p with
  | eq column value => rfl
  | and left right ihl ihr =>
    obtain ⟨hl, hr⟩ := Bool.and_eq_true_iff.mp h
    rw [parts, slots, List.map_append, List.map_append, ihl hl, ihr hr]
  | raw text => exact absurd h (by simp [isBound])

/-- With literals, a conjunction of equalities has the literal of each value in its slot. -/
theorem Predicate.render_inline_run (h : p.isBound = true) :
    (p.render .inline).run values
      = (joinWith " AND " (p.slots.map Slot.literalText), values) := by
  rw [p.render_inline, literalTexts_slots h]

theorem renderFilter_inline_run (filter : Option Predicate)
    (h : ∀ p, filter = some p → p.isBound = true) :
    (Statement.renderFilter .inline filter).run values
      = ((filter.map Predicate.slots).map fun slots =>
          joinWith " AND " (slots.map Slot.literalText), values) := by
  cases filter with
  | none => rfl
  | some p =>
    rw [Statement.renderFilter, run_bind, p.render_inline_run (h p rfl)]
    rfl

/-- The text of a statement has the literal of each value in the value's place. -/
theorem Statement.text_eq (h : statement.isBound = true) :
    statement.text = statement.textOf statement.literalTexts statement.literalCondition? := by
  have hfilter : ∀ p, statement.filter? = some p → p.isBound = true := fun p hp =>
    isBound_of_mem h hp
  cases statement with
  | insert table columns more =>
    have htexts : more.map Value.literal = (more.map fun value => (⟨"", value⟩ : Slot)).map
        Slot.literalText := by
      rw [List.map_map]
      exact List.map_congr_left fun value _ => String.empty_append.symm
    rw [text, render, run_bind, renderValues_inline_run, htexts]
    rfl
  | select table columns filter =>
    rw [text, render, run_bind, renderFilter_inline_run filter hfilter]
    rfl
  | update table assignments filter =>
    rw [text, render, run_bind, renderAssignments_inline_run, run_bind,
      renderFilter_inline_run filter hfilter]
    show Template.update table (joinWith ", " _) _ = Template.update table (joinWith ", " _) _
    rw [literalTexts, boundSlots, List.map_map]
    rfl
  | delete table filter =>
    rw [text, render, run_bind, renderFilter_inline_run filter hfilter]
    rfl
  | count table filter =>
    rw [text, render, run_bind, renderFilter_inline_run filter hfilter]
    rfl
  | _ => exact absurd h (by simp [isBound])

/-! ### The texts in front of values -/

/-- What stands in front of a value: words and equals signs. -/
def IsLead (lead : String) : Prop := ∀ c ∈ lead.toList, isWordChar c = true ∨ c = '='

section Leads

variable {slot : Slot} {lead column : String}

theorem isLead_column (h : isIdentifier column = true) : IsLead (column ++ "=") := by
  intro c hc
  rw [String.toList_append, List.mem_append] at hc
  rcases hc with hc | hc
  · exact .inl ((isIdentifier_iff.mp h).wordChar c hc)
  · exact .inr (List.mem_singleton.mp hc)

theorem IsLead.notMem (h : IsLead lead) {c : Char} (hword : isWordChar c = false) (hc : c ≠ '=') :
    c ∉ lead.toList := by
  intro hmem
  rcases h c hmem with hw | he
  · rw [hword] at hw
    exact absurd hw (by simp)
  · exact hc he

theorem IsLead.notBlank (h : IsLead lead) : ∀ c ∈ lead.toList, isBlank c = false := by
  intro c hc
  rcases h c hc with hw | rfl
  · exact isBlank_of_isWordChar hw
  · decide

theorem IsLead.isToken (h : IsLead lead) (n : Nat) : IsToken (lead ++ placeholder n) := by
  have hplaceholder := isToken_placeholder n
  constructor
  · rw [String.toList_append]
    exact List.append_ne_nil_of_right_ne_nil _ hplaceholder.ne_nil
  · intro c hc
    rw [String.toList_append, List.mem_append] at hc
    rcases hc with hc | hc
    · rcases h c hc with hw | rfl
      · exact isTokenChar_of_isWordChar hw
      · decide
    · exact hplaceholder.chars c hc

theorem IsLead.isSolid (h : IsLead slot.lead) : IsSolid slot.literalText.toList := by
  have hliteral := isSolid_literal slot.value
  rw [Slot.literalText, String.toList_append]
  by_cases hnil : slot.lead.toList = []
  · rwa [hnil, List.nil_append]
  · exact (isSolid_of_not_blank hnil h.notBlank).around hliteral []

/-- A slot with its literal is sheltered, whatever the value. -/
theorem IsLead.sheltered (h : IsLead slot.lead) : Sheltered slot.literalText.toList := by
  rw [Slot.literalText, String.toList_append]
  exact (sheltered_plain (h.notMem (by decide) (by decide)) (h.notMem (by decide) (by decide))).append
    (sheltered_literal slot.value)

theorem isToken_of_mem_numberedTexts {n : Nat} {slots : List Slot} {t : String}
    (hleads : ∀ slot ∈ slots, IsLead slot.lead) (h : t ∈ Slot.numberedTexts n slots) : IsToken t := by
  induction slots generalizing n with
  | nil => exact absurd h (by simp [Slot.numberedTexts])
  | cons slot rest ih =>
    rw [Slot.numberedTexts, List.mem_cons] at h
    rcases h with rfl | h
    · exact (hleads slot (by simp)).isToken (n + 1)
    · exact ih (fun s hs => hleads s (by simp [hs])) h

end Leads

end AqlGateway.Aql
