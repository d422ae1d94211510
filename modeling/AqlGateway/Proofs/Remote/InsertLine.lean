import AqlGateway.Proofs.Aql.Reference
import AqlGateway.Proofs.Aql.Slots
import AqlGateway.Proofs.Remote.Request
import AqlGateway.Proofs.Text.Items
import AqlGateway.Proofs.Value.Literal

/-!
# Inserts on the wire

The values of an insert are written as literals into one line, and line breaks in them become spaces.

* `map_flatten_doubled` — a line break is no quote, so the literal of a text stays the literal of one;
* `isItem_lineLiteral` — every literal stands in one item;
* `insert_line` — the line of an insert has the items that its values are, one for each column.
-/

namespace AqlGateway.Remote

open Text Aql

/-! ### Literals on a line -/

theorem flatten_quote_iff {c : Char} : flatten c = '\'' ↔ c = '\'' := by
  rw [flatten]
  split
  · next h => rcases h with rfl | rfl <;> decide
  · exact Iff.rfl

/-- Line breaks become blanks, and quotes stay doubled. -/
theorem map_flatten_doubled (s : List Char) : (doubled s).map flatten = doubled (s.map flatten) := by
  induction s with
  | nil => rfl
  | cons c s ih =>
    rw [List.map_cons, doubled, doubled]
    by_cases hc : c = '\''
    · rw [if_pos hc, if_pos (flatten_quote_iff.mpr hc), List.map_cons, List.map_cons, ih]
      rfl
    · rw [if_neg hc, if_neg fun h => hc (flatten_quote_iff.mp h), List.map_cons, ih]

def lineLiteral (v : Value) : List Char := v.literal.toList.map flatten

theorem lineLiteral_text (s : String) :
    lineLiteral (.text s) = '\'' :: (doubled (s.toList.map flatten) ++ ['\'']) := by
  show (quoteText s).toList.map flatten = _
  rw [toList_quoteText, List.map_cons, List.map_append, map_flatten_doubled]
  rfl

theorem lineLiteral_of_not_text {v : Value} (h : ∀ s, v ≠ .text s) :
    lineLiteral v = v.literal.toList := by
  have hbare := isBare_shown h
  have hreturn : '\r' ∉ v.shown.toList := hbare.notMem (by decide)
  have hfeed : '\n' ∉ v.shown.toList := hbare.notMem (by decide)
  rcases literal_of_not_text h with hshown | hquoted
  · rw [lineLiteral, hshown, map_flatten_eq_self hreturn hfeed]
  · rw [lineLiteral, hquoted]
    exact map_flatten_eq_self (by simp [hreturn]) (by simp [hfeed])

/-- A literal stands in one item of a list, whatever the text of its value is. -/
theorem isItem_lineLiteral (v : Value) : IsItem (lineLiteral v) := by
  by_cases h : ∃ s, v = .text s
  · obtain ⟨s, rfl⟩ := h
    rw [lineLiteral_text]
    exact isItem_quoted _
  · have hv : ∀ s, v ≠ .text s := fun s hs => h ⟨s, hs⟩
    have hbare := isBare_shown hv
    have hquote : '\'' ∉ v.shown.toList := hbare.notMem (by decide)
    rw [lineLiteral_of_not_text hv]
    rcases literal_of_not_text hv with hshown | hquoted
    · rw [hshown]
      exact isItem_plain hquote (hbare.notMem (by decide))
    · have hitem := isItem_quoted v.shown.toList
      rw [doubled_of_notMem hquote] at hitem
      rwa [hquoted]

/-! ### The line of an insert -/

variable {table : String} {columns : List String} {values : List Value}

/-- The list of literals on the line. -/
def valueList (values : List Value) : String :=
  String.ofList ([',', ' '].intercalate (values.map lineLiteral))

theorem map_flatten_joinWith (values : List Value) :
    (joinWith ", " (values.map Value.literal)).toList.map flatten = (valueList values).toList := by
  have hseparator : ", ".toList = [',', ' '] := by decide
  rw [valueList, String.toList_ofList, toList_joinWith, hseparator, map_intercalate, List.map_map,
    List.map_map]
  rfl

theorem text_insert : (Statement.insert table columns values).text
    = Template.insert table columns (values.map Value.literal) := by
  rw [Statement.text, Statement.render, run_bind, renderValues_inline_run]
  rfl

/-- What stands in front of the values. -/
def insertLead (table : String) (columns : List String) : String :=
  "TANAM KE " ++ table ++ " (" ++ joinWith ", " columns ++ ") BIBIT ("

theorem toList_insertLead (table : String) (columns : List String) :
    (insertLead table columns).toList = "TANAM KE ".toList ++ (table.toList ++ (" (".toList
      ++ ((joinWith ", " columns).toList ++ ") BIBIT (".toList))) := by
  simp only [insertLead, String.toList_append, List.append_assoc]

/-- A checked table and checked columns have no line breaks. -/
theorem notMem_insertLead (hvalid : (Statement.insert table columns values).validate = .ok ()) {c : Char}
    (hc : c = '\r' ∨ c = '\n') : c ∉ (insertLead table columns).toList := by
  have htable : IsToken table :=
    isToken_of_isIdentifier ((Statement.validate_eq_ok_iff.mp hvalid).1 table rfl)
  have hchar : isTokenChar c = false := by rcases hc with rfl | rfl <;> decide
  have hfixed : ∀ s ∈ ["TANAM KE ", " (", ", ", ") BIBIT ("], c ∉ s.toList := by
    rcases hc with rfl | rfl <;> decide
  have hnames : c ∉ (joinWith ", " columns).toList :=
    notMem_tokens (insert_parts hvalid).2 hchar (hfixed ", " (by simp))
  rw [toList_insertLead]
  simp only [List.mem_append, not_or]
  exact ⟨hfixed _ (by simp), htable.notMem hchar, hfixed _ (by simp), hnames, hfixed _ (by simp)⟩

theorem toList_text_insert : (Statement.insert table columns values).text.toList
    = (insertLead table columns).toList
      ++ ((joinWith ", " (values.map Value.literal)).toList ++ [')']) := by
  rw [text_insert, Template.insert, ← insertLead, String.toList_append, String.toList_append,
    List.append_assoc]
  rfl

theorem trim_text_insert : trim (Statement.insert table columns values).text.toList
    = (Statement.insert table columns values).text.toList := by
  have hstart : Stops isBlank (insertLead table columns).toList := by
    rw [toList_insertLead]
    exact stops_append (by decide) (by decide)
  have hne : (insertLead table columns).toList ≠ [] := by
    rw [toList_insertLead]
    exact List.append_ne_nil_of_left_ne_nil (by decide) _
  rw [toList_text_insert, trim_between hne hstart (by decide) (by decide)]

/-- The line of an insert has its list of literals in parentheses at the end. -/
theorem lineOf_insert (hvalid : (Statement.insert table columns values).validate = .ok ()) :
    lineOf (Statement.insert table columns values).text
      = insertLead table columns ++ valueList values ++ ")" := by
  have hlead : (insertLead table columns).toList.map flatten = (insertLead table columns).toList :=
    map_flatten_eq_self (notMem_insertLead hvalid (.inl rfl)) (notMem_insertLead hvalid (.inr rfl))
  rw [← String.toList_inj, toList_lineOf, requestBody, trim_text_insert, toList_text_insert,
    List.map_append, List.map_append, hlead, map_flatten_joinWith, String.toList_append,
    String.toList_append, List.append_assoc]
  rfl

/-- The line of a checked insert has its values as the items of a list: each item is the literal of the
value in its place, with spaces for line breaks, and that of a text is read back as the text. -/
theorem insert_line (hvalid : (Statement.insert table columns values).validate = .ok ())
    (hcolumns : columns ≠ []) :
    ∃ list : String,
      encodeRequest (Statement.insert table columns values).text
        = .ok ("TANAM KE " ++ table ++ " (" ++ joinWith ", " columns ++ ") BIBIT (" ++ list ++ ")\n") ∧
      (items list.toList).length = columns.length ∧
      items list.toList = values.map (fun v => v.literal.toList.map flatten) ∧
      ∀ (i : Nat) (s : String), values[i]? = some (.text s) →
        (items list.toList)[i]?.bind unquote? = some (s.toList.map flatten) := by
  obtain ⟨hlength, -⟩ := insert_parts hvalid
  have hvalues : values.map lineLiteral ≠ [] := by
    intro h
    rw [List.map_eq_nil_iff.mp h] at hlength
    exact hcolumns (List.length_eq_zero_iff.mp hlength)
  have hitems : items (valueList values).toList = values.map lineLiteral := by
    rw [valueList, String.toList_ofList]
    refine items_intercalate hvalues fun s hs => ?_
    obtain ⟨v, -, rfl⟩ := List.mem_map.mp hs
    exact isItem_lineLiteral v
  refine ⟨valueList values, ?_, ?_, hitems, ?_⟩
  · have hvisible : trim (Statement.insert table columns values).text.toList ≠ [] := by
      rw [trim_text_insert, toList_text_insert]
      simp
    rw [encodeRequest_eq hvisible, lineOf_insert hvalid, String.append_assoc]
    rfl
  · rw [hitems, List.length_map, hlength]
  · intro i s hs
    rw [hitems, List.getElem?_map, hs, Option.map_some, Option.bind_some, lineLiteral_text,
      unquote?_quoted]

/-- Texts that hold what ends a literal, a list or a statement, with a number between them. -/
theorem insert_line_quotes :
    let columns := ["notes", "age_years", "code"]
    let values := [Value.text "it's'), ('\r\n'", .integer 7, .text "'"]
    (Statement.insert "trees" columns values).validate = .ok () ∧ columns ≠ [] ∧
      ∃ list : String,
        encodeRequest (Statement.insert "trees" columns values).text
          = .ok ("TANAM KE trees (notes, age_years, code) BIBIT (" ++ list ++ ")\n") ∧
        items list.toList = ["'it''s''), (''  '''".toList, "7".toList, "''''".toList] ∧
        (items list.toList)[0]?.bind unquote? = some "it's'), ('  '".toList ∧
        (items list.toList)[2]?.bind unquote? = some "'".toList := by
  intro columns values
  have hvalid : (Statement.insert "trees" columns values).validate = .ok () := by decide
  have hcolumns : columns ≠ [] := List.cons_ne_nil _ _
  obtain ⟨list, hline, -, hitems, htexts⟩ := insert_line hvalid hcolumns
  exact ⟨hvalid, hcolumns, list, hline, hitems, htexts 0 _ rfl, htexts 2 _ rfl⟩

end AqlGateway.Remote
