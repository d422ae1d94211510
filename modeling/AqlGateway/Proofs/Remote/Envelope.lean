import AqlGateway.Proofs.Json.RoundTrip
import AqlGateway.Remote.Envelope

/-!
# Envelopes on the wire

* `Envelope.spells_json` — the text of an envelope is read as the members of its fields;
* `ofJsonText?_json` — the fields are those of the envelope;
* `withoutReturns_append` — carriage returns behind a text that ends in none are dropped;
* `decodeResponse_json` — the text of an envelope holds no line break, and is read back from its line.
-/

namespace AqlGateway.Remote

open Json JsonText Text

namespace Envelope

variable {e : Envelope}

/-! ### The fields of an envelope -/

/-- The fields of an envelope whose payload has the tree `data`, as far as they are written. -/
def fields (e : Envelope) (data : JsonText) : List (String × JsonText) :=
  [("success", .bool e.success), ("data", data)]
    ++ (e.error.map fun text => ("error", .string (escaped text.toList))).toList
    ++ [("timestamp", .string (escaped e.timestamp.toList))]

/-- The text of an envelope is read as its fields. -/
theorem spells_json {data : JsonText} (h : Spells e.data data) :
    Spells e.json (.object ((e.fields data).map namedMember)) := by
  refine spells_object ?_
  rw [fields, List.map_append, List.map_append]
  have hfirst : List.Forall₂ SpellsMember [("success", .bool e.success), ("data", e.data)]
      ([("success", .bool e.success), ("data", data)].map namedMember) :=
    .cons ⟨rfl, spells_bool e.success⟩ (.cons ⟨rfl, h⟩ .nil)
  have hlast : List.Forall₂ SpellsMember [("timestamp", .string e.timestamp)]
      ([("timestamp", .string (escaped e.timestamp.toList))].map namedMember) :=
    .cons ⟨rfl, spells_string e.timestamp⟩ .nil
  refine List.rel_append (List.rel_append hfirst ?_) hlast
  cases e.error with
  | none => exact .nil
  | some text => exact .cons ⟨rfl, spells_string text⟩ .nil

/-- The fields are found by their names; that of the failure is missing if there is none. -/
theorem fields?_fields (e : Envelope) (data : JsonText) :
    (JsonText.object ((e.fields data).map namedMember)).fields? fieldNames
      = some (.byKey, [some (.bool e.success), some data,
        e.error.map fun text => .string (escaped text.toList),
        some (.string (escaped e.timestamp.toList))]) := by
  rw [fields?, keys?_namedMember]
  show (fieldNames.mapM (fieldByKey? (e.fields data))).bind _ = _
  rw [fields]
  cases e.error with
  | none => rfl
  | some text => rfl

theorem ofFields?_fields {data : JsonText}
    (hdata : data.meaning? (depthLimit - 1) = some e.data) :
    ofFields? [some (.bool e.success), some data,
      e.error.map fun text => .string (escaped text.toList),
      some (.string (escaped e.timestamp.toList))] = some e := by
  have herror : fieldOr none (optional? string?)
      (e.error.map fun text => .string (escaped text.toList)) = some e.error := by
    cases e.error with
    | none => rfl
    | some text =>
      show ((text? (escaped text.toList)).map some) = _
      rw [text?_escaped, Option.map_some]
  have htimestamp : fieldOr "" string? (some (.string (escaped e.timestamp.toList)))
      = some e.timestamp := text?_escaped e.timestamp
  show (data.meaning? (depthLimit - 1)).bind _ = _
  rw [hdata, Option.bind_some, herror, htimestamp]
  rfl

/-- The payload nests less deep than its envelope. -/
theorem nesting_data_lt (e : Envelope) : e.data.nesting < e.json.nesting := by
  show e.data.nesting < max 0 (max e.data.nesting _) + 1
  omega

/-- An envelope with a plain payload is read back from its text. -/
theorem ofJsonText?_json (hplain : e.data.Plain) (hdepth : e.json.nesting ≤ depthLimit) :
    ofJsonText? e.json.compact.toList = some e := by
  obtain ⟨data, hspells, hmeans⟩ := hplain.exists_spells
  have hdata : data.meaning? (depthLimit - 1) = some e.data := by
    have hlt := nesting_data_lt e
    exact hmeans _ (by omega)
  rw [ofJsonText?, ofChars?_compact (spells_json hspells)]
  show ((JsonText.object ((e.fields data).map namedMember)).fields? fieldNames).bind _ = _
  rw [fields?_fields]
  exact ofFields?_fields hdata

/-- The text of an envelope holds no control characters. -/
theorem isVisible_compact (hplain : e.data.Plain) : IsVisible e.json.compact.toList := by
  obtain ⟨data, hspells, -⟩ := hplain.exists_spells
  rw [compact, String.toList_ofList]
  exact (spells_json hspells).visible [] fun c hc => absurd hc List.not_mem_nil

end Envelope

/-! ### Lines -/

variable {text : String}

theorem withoutReturns_append {s : List Char} (h : '\r' ∉ s) (returns : Nat) :
    withoutReturns (s ++ List.replicate returns '\r') = s := by
  have hreturns : ∀ c ∈ List.replicate returns '\r', (c == '\r') = true := fun c hc =>
    beq_iff_eq.mpr (List.eq_of_mem_replicate hc)
  have hstop : Stops (· == '\r') s.reverse := by
    intro c hc
    refine beq_eq_false_iff_ne.mpr ?_
    rintro rfl
    exact h (List.mem_reverse.mp (List.mem_of_mem_head? hc))
  rw [withoutReturns, List.reverse_append, List.reverse_replicate, dropWhile_run hreturns hstop,
    List.reverse_reverse]

/-- Carriage returns in front of the line feed are not part of the text. -/
theorem decodeResponse_line {e : Envelope} (h : '\r' ∉ text.toList)
    (hread : Envelope.ofJsonText? text.toList = some e) (returns : Nat) :
    decodeResponse (text ++ String.ofList (List.replicate returns '\r') ++ "\n") = .ok e := by
  have hline : (text ++ String.ofList (List.replicate returns '\r') ++ "\n").toList.reverse
      = '\n' :: (text.toList ++ List.replicate returns '\r').reverse := by
    rw [String.toList_append, String.toList_append, String.toList_ofList, List.reverse_append]
    rfl
  rw [decodeResponse, hline]
  simp only [List.reverse_reverse, withoutReturns_append h, hread]

/-- A line must end in a line feed. -/
theorem decodeResponse_unterminated (h : '\n' ∉ text.toList) :
    decodeResponse text = .error (.protocol "response line is not newline-terminated") := by
  rw [decodeResponse]
  split
  · next body hreverse =>
    exact absurd (List.mem_reverse.mp (hreverse ▸ List.mem_cons_self)) h
  · rfl

/-- The text of an envelope whose payload holds no doubles, and which does not nest too deep, has no
line break in it. With a line feed behind it, and carriage returns in front of that, it is read back
as the envelope; without the line feed it is refused. -/
theorem decodeResponse_json (e : Envelope) (hplain : e.data.Plain)
    (hdepth : e.json.nesting ≤ depthLimit) :
    let text := e.json.compact
    ('\r' ∉ text.toList ∧ '\n' ∉ text.toList) ∧
    ∀ returns,
      let line := text ++ String.ofList (List.replicate returns '\r')
      decodeResponse (line ++ "\n") = .ok e ∧
      decodeResponse line = .error (.protocol "response line is not newline-terminated") := by
  intro text
  have hvisible : IsVisible text.toList := Envelope.isVisible_compact hplain
  have hreturn : '\r' ∉ text.toList := fun hmem => absurd (hvisible _ hmem) (by decide)
  have hfeed : '\n' ∉ text.toList := fun hmem => absurd (hvisible _ hmem) (by decide)
  refine ⟨⟨hreturn, hfeed⟩, fun returns => ⟨?_, ?_⟩⟩
  · exact decodeResponse_line hreturn (Envelope.ofJsonText?_json hplain hdepth) returns
  · refine decodeResponse_unterminated fun hmem => ?_
    rw [String.toList_append, String.toList_ofList] at hmem
    rcases List.mem_append.mp hmem with hmem | hmem
    · exact hfeed hmem
    · exact absurd (List.eq_of_mem_replicate hmem) (by decide)

/-- A failure with a quote, a tabulator and a letter outside of ASCII in its text, and the edges of
the whole numbers in its payload. -/
theorem decodeResponse_json_failure :
    let e : Envelope := {
      success := false
      data := .array [.integer ⟨18446744073709551615, by decide⟩,
        .object [("a\x01", .integer ⟨-9223372036854775808, by decide⟩), ("b", .array [])]]
      error := some "\"\té" }
    let text := "\x7b\"success\":false,\"data\":[18446744073709551615,"
      ++ "\x7b\"a\\u0001\":-9223372036854775808,\"b\":[]\x7d],"
      ++ "\"error\":\"\\\"\\té\",\"timestamp\":\"\"\x7d"
    decodeResponse (text ++ "\r\r\n") = .ok e ∧
      decodeResponse text = .error (.protocol "response line is not newline-terminated") := by
  intro e text
  have htext : e.json.compact = text := by decide +kernel
  have hplain : e.data.Plain := by
    refine .array (List.forall_mem_cons.mpr ⟨.integer _, ?_⟩)
    refine List.forall_mem_singleton.mpr (.object ?_ (by decide +kernel))
    refine List.forall_mem_cons.mpr ⟨.integer _, List.forall_mem_singleton.mpr (.array ?_)⟩
    exact fun item hitem => absurd hitem List.not_mem_nil
  obtain ⟨-, hlines⟩ := decodeResponse_json e hplain (by decide +kernel)
  rw [htext] at hlines
  exact ⟨(hlines 2).1, (hlines 0).2⟩

end AqlGateway.Remote
