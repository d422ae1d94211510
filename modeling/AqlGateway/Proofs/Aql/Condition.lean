import AqlGateway.Aql.Template
import AqlGateway.Proofs.Aql.Grammar

/-!
# Conditions written and read

* `conditionTail` — what a condition leaves at the end of a statement whose text is trimmed;
* `trim_withFilter` — where it stands;
* `filterTail?_conditionTail` — how it is read back.
-/

namespace AqlGateway.Aql

open Text

/-- The end of a trimmed statement with a condition. -/
def conditionTail : Option String → List Char
  | none => []
  | some f => trimEnd (" DIMANA ".toList ++ f.toList)

/-- The condition that is read from the end of a statement. -/
def readCondition : Option String → Option (Option (List Char))
  | none => some none
  | some f => (clause? f.toList).map some

variable {filter : Option String} {f : String}

/-- The blanks of a blank condition are lost, together with the space in front of them. -/
theorem conditionTail_blank (h : isAllBlank f = true) :
    conditionTail (some f) = " DIMANA".toList := by
  have hblank : ∀ c ∈ " ".toList ++ f.toList, isBlank c = true := by
    intro c hc
    rcases List.mem_append.mp hc with hc | hc
    · rw [List.mem_singleton.mp hc]
      decide
    · exact List.all_eq_true.mp h c hc
  have hspace : " DIMANA ".toList = " DIMANA".toList ++ " ".toList := by decide
  rw [conditionTail, hspace, List.append_assoc, trimEnd_append_blanks hblank]
  decide

/-- A condition that shows something stands behind its keyword, without the blanks at its end. -/
theorem conditionTail_of_not_blank (h : ¬ isAllBlank f = true) :
    conditionTail (some f) = " DIMANA ".toList ++ trimEnd f.toList := by
  refine trimEnd_append fun hnil => h ?_
  rw [isAllBlank, List.all_eq_true]
  exact trimEnd_eq_nil_iff.mp hnil

/-- A condition begins with its keyword. -/
theorem conditionTail_begins (f : String) :
    ∃ r, conditionTail (some f) = " DIMANA".toList ++ r := by
  by_cases h : isAllBlank f = true
  · exact ⟨[], by rw [conditionTail_blank h, List.append_nil]⟩
  · have hspace : " DIMANA ".toList = " DIMANA".toList ++ [' '] := by decide
    exact ⟨[' '] ++ trimEnd f.toList, by
      rw [conditionTail_of_not_blank h, hspace, List.append_assoc]⟩

theorem stops_conditionTail : Stops isWordChar (conditionTail filter) := by
  cases filter with
  | none => exact stops_nil
  | some f =>
    obtain ⟨r, hr⟩ := conditionTail_begins f
    rw [hr]
    exact stops_append (by decide) (by decide)

/-- A statement's text is trimmed at the end of its condition. -/
theorem trim_withFilter {s : String} {lead inner last : List Char}
    (hs : s.toList = lead ++ (inner ++ last)) (hlead : Stops isBlank lead) (hne : lead ≠ [])
    (hlast : Stops isBlank last.reverse) (hne' : last ≠ []) (hfilter : filter ≠ some "") :
    trim (Template.withFilter s filter).toList
      = lead ++ (inner ++ (last ++ conditionTail filter)) := by
  cases filter with
  | none =>
    rw [Template.withFilter, hs, trim_between hne hlead hne' hlast, conditionTail, List.append_nil]
  | some f =>
    have hf : f ≠ "" := fun h => hfilter (by rw [h])
    have htail : conditionTail (some f) ≠ [] := by
      obtain ⟨r, hr⟩ := conditionTail_begins f
      rw [hr]
      simp
    have htext : (Template.withFilter s (some f)).toList
        = lead ++ (inner ++ (last ++ (" DIMANA ".toList ++ f.toList))) := by
      rw [Template.withFilter, if_neg hf, String.toList_append, String.toList_append, hs]
      simp only [List.append_assoc]
    rw [htext, trim_eq_trimEnd (stops_append hlead hne), ← List.append_assoc lead,
      ← List.append_assoc (lead ++ inner), trimEnd_append htail]
    simp only [List.append_assoc]
    rfl

/-- Separators are blanks, so skipping them first changes nothing for trimming. -/
theorem trim_skipGap (s : List Char) : trim (skipGap s) = trim s := by
  obtain ⟨w, hs, hw⟩ := skipGap_spec s
  calc trim (skipGap s) = trim (w ++ skipGap s) :=
        (trim_blanks_append fun c hc => isBlank_of_isGap (hw.gaps c hc)).symm
    _ = trim s := by rw [← hs]

/-- A condition is read back when it is a clause. -/
theorem filterTail?_conditionTail (filter : Option String) :
    filterTail? (conditionTail filter) = readCondition filter := by
  cases filter with
  | none => rfl
  | some f =>
    rw [readCondition]
    by_cases h : isAllBlank f = true
    · have hnone : clause? f.toList = none :=
        clause?_eq_none_iff.mpr fun hclause => hclause.ne_nil ((isAllBlank_iff f).mp h)
      rw [conditionTail_blank h, hnone]
      decide
    · have hspace : " DIMANA ".toList = [' '] ++ ("DIMANA".toList ++ [' ']) := by decide
      have hstop : Stops isGap ("DIMANA".toList ++ ([' '] ++ trimEnd f.toList)) :=
        stops_append (by decide) (by decide)
      have hgap' : gap? ([' '] ++ trimEnd f.toList) = some (skipGap (trimEnd f.toList)) := rfl
      have htrim : trim (skipGap (trimEnd f.toList)) = trim f.toList := by
        rw [trim_skipGap, trim_trimEnd]
      rw [conditionTail_of_not_blank h, hspace]
      simp only [List.append_assoc]
      rw [filterTail?, if_neg (by simp), gap?_space hstop]
      simp only [Option.bind_eq_bind, Option.bind_some, expect?_append, hgap',
        clause?_congr htrim, Option.pure_def]
      cases clause? f.toList <;> rfl

end AqlGateway.Aql
