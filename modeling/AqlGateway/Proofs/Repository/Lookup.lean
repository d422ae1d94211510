import AqlGateway.Proofs.Repository.Records

/-!
# Look-ups and counts

The engine may apply the condition of a select, apply it in part or ignore it. The store looks at the trees
again, so that this is of no consequence.

* `Remote.Narrows` — records with some of them left out, none of which holds a wanted tree;
* `Remote.firstOf` — the first wanted tree, or that there is none;
* `Narrows.filter_eq`, `Narrows.firstOf_eq` — the wanted trees, and the first of them, are the same;
* `runFrom_findOne` — what a look-up makes of an answer;
* `key_of_findOne` — whatever the engine answers, a tree that is found has the key;
* `answers_narrowed` — each look-up and each count ends alike with all records and with fewer.
-/

namespace AqlGateway.Remote

open Aql

/-! ### Records left out -/

section Narrowing

variable {wanted : Tree → Bool} {fewer all : List Record}

/-- Records with some of them left out, but none that holds a wanted tree. -/
structure Narrows (wanted : Tree → Bool) (fewer all : List Record) : Prop where
  sublist : fewer.Sublist all
  kept : (all.filter fun record => wanted (Tree.ofRecord record)).Sublist fewer

/-- The wanted trees are the same. -/
theorem Narrows.filter_eq (h : Narrows wanted fewer all) :
    (fewer.map Tree.ofRecord).filter wanted = (all.map Tree.ofRecord).filter wanted := by
  rw [List.filter_map, List.filter_map]
  apply congrArg (List.map Tree.ofRecord)
  have hback := h.kept.filter fun record => wanted (Tree.ofRecord record)
  rw [List.filter_filter] at hback
  simp only [Bool.and_self] at hback
  exact (h.sublist.filter _).antisymm hback

/-- The first wanted tree; where there is none, the error tells what was looked for. -/
def firstOf (wanted : Tree → Bool) (field value : String) (trees : List Tree) : Except Error Tree :=
  match trees.find? wanted with
  | some tree => .ok tree
  | none => .error (notFound field value)

/-- The first wanted tree is the same, and so is the error where there is none. -/
theorem Narrows.firstOf_eq (h : Narrows wanted fewer all) (field value : String) :
    firstOf wanted field value (fewer.map Tree.ofRecord)
      = firstOf wanted field value (all.map Tree.ofRecord) := by
  have hfirst : (fewer.map Tree.ofRecord).find? wanted = (all.map Tree.ofRecord).find? wanted := by
    rw [← List.head?_filter, ← List.head?_filter, h.filter_eq]
  rw [firstOf, firstOf, hfirst]

end Narrowing

/-! ### Outcomes -/

section Outcomes

variable {σ : Type} {engine : Engine σ} {state : σ} {records : List Record}

/-- A look-up finds the first tree with the key. -/
theorem runFrom_findOne {field value : String} {key : Tree → String}
    (hvalid : (Statement.select Tree.table "*" (some (.eq field (.text value)))).validate = .ok ())
    (h : Answers engine state (.select Tree.table "*" (some (.eq field (.text value)))) records) :
    (runFrom state (findOne engine field key value)).1
      = firstOf (fun tree => key tree == value) field value (records.map Tree.ofRecord) := by
  have htrees := runFrom_within_ok "failed to query tree" (runFrom_selectTrees_ok hvalid h)
  rw [findOne, runFrom_bind_ok _ htrees, firstOf]
  cases (records.map Tree.ofRecord).find? (fun tree => key tree == value) <;> rfl

/-- Whatever the engine answers, a tree that is found has the key. -/
theorem key_of_findOne {field value : String} {key : Tree → String} {tree : Tree}
    (h : (runFrom state (findOne engine field key value)).1 = .ok tree) : key tree = value := by
  obtain ⟨trees, behind, hfound⟩ := runFrom_bind_inv h
  cases hfind : trees.find? (fun tree => key tree == value) with
  | none =>
    rw [hfind] at hfound
    exact absurd hfound (by simp [runFrom])
  | some first =>
    rw [hfind] at hfound
    obtain rfl : first = tree := Except.ok.inj hfound
    have hkey : (key first == value) = true := List.find?_some (p := fun tree => key tree == value) hfind
    exact eq_of_beq hkey

end Outcomes

/-! ### All records and fewer -/

section Alike

variable {σ τ : Type} (engine : Engine σ) (state : σ) (other : Engine τ) (narrow : τ)
  (all fewer : List Record)

/-- One engine answers a statement with all records, the other one leaves out some that hold no wanted
tree. -/
structure AnswersFewer (statement : Statement) (wanted : Tree → Bool) : Prop where
  whole : Answers engine state statement all
  narrowed : Answers other narrow statement fewer
  narrows : Narrows wanted fewer all

variable {engine state other narrow}

/-- An operation ends with an outcome with either engine. -/
def EndAlike {α : Type} (state : σ) (narrow : τ) (whole : EngineM σ α) (narrowed : EngineM τ α)
    (outcome : Except Error α) : Prop :=
  (runFrom state whole).1 = outcome ∧ (runFrom narrow narrowed).1 = outcome

/-- Both operations count the wanted trees among all. -/
def CountWanted (state : σ) (narrow : τ) (whole : EngineM σ Int64) (narrowed : EngineM τ Int64)
    (wanted : Tree → Bool) (trees : List Tree) : Prop :=
  ∃ count, EndAlike state narrow whole narrowed (.ok count) ∧
    (trees.countP wanted < 2 ^ 63 → count.toInt = trees.countP wanted)

variable {all fewer}

/-- A look-up ends alike with both engines: the first wanted tree is among the records of either. -/
theorem endAlike_findOne {field value : String} {key : Tree → String}
    (hvalid : (Statement.select Tree.table "*" (some (.eq field (.text value)))).validate = .ok ())
    (h : AnswersFewer engine state other narrow all fewer
      (.select Tree.table "*" (some (.eq field (.text value)))) fun tree => key tree == value) :
    EndAlike state narrow (findOne engine field key value) (findOne other field key value)
      (firstOf (fun tree => key tree == value) field value (all.map Tree.ofRecord)) := by
  refine ⟨runFrom_findOne hvalid h.whole, ?_⟩
  rw [runFrom_findOne hvalid h.narrowed, h.narrows.firstOf_eq]

theorem countWanted_countMatching {filter : TreeFilter}
    (hvalid : (Statement.select Tree.table "*" filter.predicate?).validate = .ok ())
    (h : AnswersFewer engine state other narrow all fewer
      (.select Tree.table "*" filter.predicate?) filter.accepts) :
    CountWanted state narrow (countMatching engine filter) (countMatching other filter)
      filter.accepts (all.map Tree.ofRecord) := by
  have hwhole := runFrom_countMatching_of_answers hvalid h.whole
  have hnarrowed := runFrom_countMatching_of_answers hvalid h.narrowed
  rw [h.narrows.filter_eq] at hnarrowed
  refine ⟨_, ⟨hwhole, hnarrowed⟩, ?_⟩
  rw [List.countP_eq_length_filter]
  exact toInt_countOf

end Alike

/-- Look-ups and counts end alike with an engine that answers with all records and with one that leaves
out records whose trees are not asked for: with the first tree that has the id or the code, or the error
that there is none, and with the number of trees that match. A tree that is found has the id or the code,
whatever the engine answers. -/
theorem answers_narrowed {σ τ : Type} (engine : Engine σ) (state : σ) (other : Engine τ) (narrow : τ)
    (all fewer : List Record) :
    let trees := all.map Tree.ofRecord
    let asked := AnswersFewer engine state other narrow all fewer
    (∀ id, asked (sent (.findById id)) (fun tree => tree.id == id) →
      EndAlike state narrow ((store engine).findById id) ((store other).findById id)
        (firstOf (fun tree => tree.id == id) "id" id trees)) ∧
    (∀ code, asked (sent (.findByCode code)) (fun tree => tree.code == code) →
      EndAlike state narrow ((store engine).findByCode code) ((store other).findByCode code)
        (firstOf (fun tree => tree.code == code) "code" code trees)) ∧
    (∀ location, asked (sent (.countByLocation location)) (fun tree => tree.locationId == location) →
      CountWanted state narrow ((store engine).countByLocation location)
        ((store other).countByLocation location) (fun tree => tree.locationId == location) trees) ∧
    (∀ status, asked (sent (.countByStatus status)) (fun tree => tree.status == some status) →
      CountWanted state narrow ((store engine).countByStatus status)
        ((store other).countByStatus status) (fun tree => tree.status == some status) trees) ∧
    (∀ id tree, (runFrom state ((store engine).findById id)).1 = .ok tree → tree.id = id) ∧
    (∀ code tree, (runFrom state ((store engine).findByCode code)).1 = .ok tree → tree.code = code) := by
  intro trees asked
  refine ⟨fun id h => ?_, fun code h => ?_, fun location h => ?_, fun status h => ?_,
    fun id tree h => key_of_findOne h, fun code tree h => key_of_findOne h⟩
  · exact endAlike_findOne (validate_sent (.findById id)) h
  · exact endAlike_findOne (validate_sent (.findByCode code)) h
  · rw [← TreeFilter.accepts_location] at h ⊢
    exact countWanted_countMatching (validate_sent (.countByLocation location)) h
  · rw [← TreeFilter.accepts_status] at h ⊢
    exact countWanted_countMatching (validate_sent (.countByStatus status)) h

/-- The engine of fewer records leaves out the only tree that is neither asked for nor counted. -/
theorem answers_narrowed_second :
    let first : Record := [("id", .string "T1"), ("status", .string "SEHAT")]
    let second : Record := [("id", .string "T2"), ("status", .string "SAKIT")]
    let third : Record := [("code", .string "C003"), ("id", .string "T2"), ("status", .string "sakit")]
    let all := [first, second, third]
    let fewer := [second, third]
    AnswersFewer recordsEngine all recordsEngine fewer all fewer (sent (.findById "T2"))
        (fun tree => tree.id == "T2") ∧
      EndAlike all fewer ((store recordsEngine).findById "T2") ((store recordsEngine).findById "T2")
        (.ok (Tree.ofRecord second)) ∧
      ∃ count : Int64, count.toInt = 2 ∧ EndAlike all fewer ((store recordsEngine).countByStatus .sick)
        ((store recordsEngine).countByStatus .sick) (.ok count) := by
  intro first second third all fewer
  have hleft : fewer.Sublist all := List.sublist_cons_self first fewer
  have hfirst : ((Tree.ofRecord first).id == "T2") = false := by decide +kernel
  have hsecond : ((Tree.ofRecord second).id == "T2") = true := by decide +kernel
  have hid : AnswersFewer recordsEngine all recordsEngine fewer all fewer (sent (.findById "T2"))
      (fun tree => tree.id == "T2") := by
    refine ⟨answers_recordsEngine all _, answers_recordsEngine fewer _, hleft, ?_⟩
    rw [List.filter_cons_of_neg (by rw [hfirst]; decide)]
    exact List.filter_sublist
  have hhealthy : ((Tree.ofRecord first).status == some .sick) = false := by decide +kernel
  have hstatus : AnswersFewer recordsEngine all recordsEngine fewer all fewer (sent (.countByStatus .sick))
      (fun tree => tree.status == some .sick) := by
    refine ⟨answers_recordsEngine all _, answers_recordsEngine fewer _, hleft, ?_⟩
    rw [List.filter_cons_of_neg (by rw [hhealthy]; decide)]
    exact List.filter_sublist
  have halike := answers_narrowed recordsEngine all recordsEngine fewer all fewer
  have hfound : firstOf (fun tree => tree.id == "T2") "id" "T2" (all.map Tree.ofRecord)
      = .ok (Tree.ofRecord second) := by
    simp [firstOf, all, hfirst, hsecond]
  have hcount : (all.map Tree.ofRecord).countP (fun tree => tree.status == some .sick) = 2 := by
    decide +kernel
  obtain ⟨count, hends, htold⟩ := halike.2.2.2.1 .sick hstatus
  rw [hcount] at htold
  exact ⟨hid, hfound ▸ halike.1 "T2" hid, count, htold (by decide), hends⟩

end AqlGateway.Remote
