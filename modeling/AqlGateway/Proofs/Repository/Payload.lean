import AqlGateway.Proofs.Json.RoundTrip
import AqlGateway.Proofs.Repository.Records

/-!
# Payloads that are documents, and payloads that are the text of one

* `Delivers` — what a document comes to, one rule for each of its forms;
* `delivers_iff` — it comes to nothing else;
* `not_reportsFailure_compact` — the text of a document reports no failure;
* `parseRecords_compact` — a document and its text come to the same.
-/

namespace AqlGateway

open Text

/-- What a document comes to: no records, the records of a list that has nothing but objects, or an
error that names the first item that is no object, or the document that is no list. -/
inductive Delivers : Json → Except Error (List Record) → Prop
  | nothing : Delivers .null (.ok [])
  | rows (records : List Record) : Delivers (.array (records.map .object)) (.ok records)
  | stray (front : List Record) {item : Json} (rest : List Json) :
      (∀ members, item ≠ .object members) →
      Delivers (.array (front.map .object ++ item :: rest))
        (.error (.protocol ("expected a row object, got " ++ item.compact)))
  | noList {document : Json} :
      document ≠ .null → (∀ items, document ≠ .array items) →
      Delivers document (.error (.protocol ("expected a list of rows, got " ++ document.compact)))

/-! ### Documents -/

/-- The first item that is no object counts, whatever stands in front of it and behind it. -/
theorem recordsOf_stray (front : List Record) {item : Json} (rest : List Json)
    (hitem : ∀ members, item ≠ .object members) :
    recordsOf (front.map .object ++ item :: rest)
      = .error (.protocol ("expected a row object, got " ++ item.compact)) := by
  induction front with
  | nil =>
    cases item with
    | object members => exact absurd rfl (hitem members)
    | _ => rfl
  | cons members front ih =>
    rw [List.map_cons, List.cons_append, recordsOf, ih]
    rfl

/-- The items of a list are objects, or there is a first one that is none. -/
theorem objects_or_stray (items : List Json) :
    (∃ records : List Record, items = records.map .object) ∨
      ∃ (front : List Record) (item : Json) (rest : List Json),
        items = front.map .object ++ item :: rest ∧ ∀ members, item ≠ .object members := by
  induction items with
  | nil => exact .inl ⟨[], rfl⟩
  | cons item items ih =>
    by_cases hitem : ∃ members, item = .object members
    · obtain ⟨members, rfl⟩ := hitem
      rcases ih with ⟨records, rfl⟩ | ⟨front, stray, rest, rfl, hstray⟩
      · exact .inl ⟨members :: records, rfl⟩
      · exact .inr ⟨members :: front, stray, rest, rfl, hstray⟩
    · exact .inr ⟨[], item, items, rfl, not_exists.mp hitem⟩

/-- A document delivers all of its records or none. -/
theorem delivers_documentRecords (document : Json) :
    Delivers document (documentRecords document) := by
  cases document with
  | null => exact .nothing
  | array items =>
    rcases objects_or_stray items with ⟨records, rfl⟩ | ⟨front, item, rest, rfl, hitem⟩
    · show Delivers _ (recordsOf (records.map .object))
      rw [recordsOf_objects]
      exact .rows records
    · show Delivers _ (recordsOf (front.map .object ++ item :: rest))
      rw [recordsOf_stray front rest hitem]
      exact .stray front rest hitem
  | _ => exact .noList (by simp) (by simp)

variable {document : Json} {outcome : Except Error (List Record)}

/-- A document comes to what the rules say and to nothing else. -/
theorem delivers_iff : Delivers document outcome ↔ documentRecords document = outcome := by
  constructor
  · intro h
    cases h with
    | nothing => rfl
    | rows records => exact recordsOf_objects records
    | stray front rest hitem => exact recordsOf_stray front rest hitem
    | noList hnull hlist =>
      cases document with
      | null => exact absurd rfl hnull
      | array items => exact absurd rfl (hlist items)
      | _ => rfl
  · rintro rfl
    exact delivers_documentRecords document

/-! ### Texts of documents -/

theorem parseRecords_of_not_string (h : ∀ s, document ≠ .string s) :
    parseRecords document = documentRecords document := by
  cases document with
  | string s => exact absurd rfl (h s)
  | _ => rfl

/-- A text reports a failure only if it begins with the letter of the word. -/
theorem reportsFailure_cons {c : Char} {s : List Char} (h : c ≠ 'E') :
    reportsFailure (String.ofList (c :: s)) = false := by
  have hchars : (String.ofList (c :: s)).toList = c :: s := String.toList_ofList
  have hfirst : ('E' == c) = false := beq_eq_false_iff_ne.mpr (Ne.symm h)
  rw [reportsFailure, hchars]
  show ('E' == c && _) = false
  rw [hfirst, Bool.false_and]

/-- The text of a document without doubles, which is no text itself, reports no failure. -/
theorem not_reportsFailure_compact (hplain : document.Plain) (hstring : ∀ s, document ≠ .string s) :
    reportsFailure document.compact = false := by
  cases hplain with
  | null => exact reportsFailure_cons (c := 'n') (by decide)
  | bool b =>
    cases b with
    | true => exact reportsFailure_cons (c := 't') (by decide)
    | false => exact reportsFailure_cons (c := 'f') (by decide)
  | integer n =>
    obtain ⟨c, w, hchars, hfirst, -⟩ := Json.integerChars_cons n.value
    have htext : (Json.integer n).compact = String.ofList (c :: (w ++ [])) := by
      show String.ofList (Json.integerChars n.value ++ []) = _
      rw [hchars, List.cons_append]
    rw [htext]
    exact reportsFailure_cons (hfirst.ne (by decide))
  | string s => exact absurd rfl (hstring s)
  | array plain => exact reportsFailure_cons (c := '[') (by decide)
  | object plain sorted => exact reportsFailure_cons (c := '\x7b') (by decide)

/-- A document without doubles that is no text and does not nest too deep comes to the same as its text:
to the records of its objects if it is a list of them, to none if it is null, to an error of the
protocol otherwise. A text that begins with `Error` is the engine's error, whatever else it holds. -/
theorem parseRecords_compact (document : Json) (hplain : document.Plain)
    (hdepth : document.nesting ≤ Json.depthLimit) (hstring : ∀ s, document ≠ .string s) :
    (∀ outcome, parseRecords document = outcome ↔ Delivers document outcome) ∧
      parseRecords (.string document.compact) = parseRecords document ∧
      ∀ rest, parseRecords (.string ("Error" ++ rest)) = .error (.engine ("Error" ++ rest)) := by
  refine ⟨fun outcome => ?_, ?_, fun rest => ?_⟩
  · rw [parseRecords_of_not_string hstring]
    exact delivers_iff.symm
  · rw [parseRecords_of_not_string hstring, parseRecords, not_reportsFailure_compact hplain hstring]
    simp only [Json.read?_compact hplain hdepth]
    rfl
  · have hreport : reportsFailure ("Error" ++ rest) = true := by
      rw [reportsFailure, String.toList_append]
      exact List.isPrefixOf_iff_prefix.mpr (List.prefix_append _ _)
    rw [parseRecords, hreport]
    rfl

/-- A list with an object in front of an item that is none, and another object behind. -/
theorem parseRecords_compact_stray :
    let tree : Record := [("age_years", .integer ⟨7, by decide⟩), ("code", .string "C\"1")]
    let document : Json := .array [.object tree, .array [.null], .object []]
    let text := "[\x7b\"age_years\":7,\"code\":\"C\\\"1\"\x7d,[null],\x7b\x7d]"
    let e := Error.protocol "expected a row object, got [null]"
    document.Plain ∧ document.nesting ≤ Json.depthLimit ∧ (∀ s, document ≠ .string s) ∧
      parseRecords document = .error e ∧ parseRecords (.string text) = .error e ∧
      parseRecords (.string ("Error" ++ text)) = .error (.engine ("Error" ++ text)) := by
  intro tree document text e
  have htree : (Json.object tree).Plain := by
    refine .object ?_ (by decide +kernel)
    exact List.forall_mem_cons.mpr ⟨.integer _, List.forall_mem_singleton.mpr (.string _)⟩
  have hlist : (Json.array [.null]).Plain := .array (List.forall_mem_singleton.mpr .null)
  have hempty : (Json.object []).Plain :=
    .object (fun member h => absurd h List.not_mem_nil) List.Pairwise.nil
  have hplain : document.Plain :=
    .array (List.forall_mem_cons.mpr ⟨htree,
      List.forall_mem_cons.mpr ⟨hlist, List.forall_mem_singleton.mpr hempty⟩⟩)
  have hdepth : document.nesting ≤ Json.depthLimit := by decide +kernel
  have hstring : ∀ s, document ≠ .string s := fun s => by simp [document]
  obtain ⟨hrules, hsame, herror⟩ := parseRecords_compact document hplain hdepth hstring
  have htext : document.compact = text := by decide +kernel
  have hfailed : parseRecords document = .error e :=
    (hrules _).mpr (.stray [tree] [.object []] fun members => by simp)
  rw [htext, hfailed] at hsame
  exact ⟨hplain, hdepth, hstring, hfailed, hsame, herror text⟩

end AqlGateway
