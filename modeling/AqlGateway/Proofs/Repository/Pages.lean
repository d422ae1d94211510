import AqlGateway.Proofs.Repository.Records

/-!
# Pages of a list

A list is read in pages of one size, one behind another, while the engine goes on answering with the same
records. Every page is an answer of its own: the trees are fetched and filtered anew, and cut then.

* `TreeFilter.atPage` — the criteria of a filter with one of its pages;
* `flatten_windows`, `pairwise_windows` — windows of one size side by side;
* `Divides` — pages that put together are a list, each of them full in front of another;
* `Remote.Steady` — the engine answers with the same records however often it is asked;
* `Remote.runFrom_mapM_findAll` — one list after another;
* `pages_partition` — the pages put together are the list without pages.
-/

namespace AqlGateway

open Aql

/-! ### Windows -/

section Windows

variable {α : Type} (items : List α) (n : Nat)

/-- Windows side by side are a front of the list. -/
theorem flatten_windows (count : Nat) :
    ((List.range count).map fun k => (items.drop (k * n)).take n).flatten
      = items.take (count * n) := by
  induction count with
  | zero => simp
  | succ count ih =>
    rw [List.range_succ, List.map_append, List.flatten_append, ih, Nat.succ_mul, List.take_add]
    simp

/-- A window in front of one that has an item is full. -/
theorem pairwise_windows (count : Nat) :
    ((List.range count).map fun k => (items.drop (k * n)).take n).Pairwise
      fun page later => later ≠ [] → page.length = n := by
  rw [List.pairwise_map]
  refine List.pairwise_lt_range.imp fun {j k} hjk hlater => ?_
  have hinside : k * n < items.length := by
    by_contra hbehind
    rw [List.drop_eq_nil_of_le (by omega), List.take_nil] at hlater
    exact hlater rfl
  have hnext : j * n + n ≤ k * n := by
    rw [← Nat.succ_mul]
    exact Nat.mul_le_mul_right n hjk
  rw [List.length_take, List.length_drop]
  omega

end Windows

/-! ### Pages -/

namespace TreeFilter

/-- The criteria of a filter, with a page of some size that has others of this size in front of it. -/
def atPage (filter : TreeFilter) (n before : Nat) : TreeFilter :=
  { filter with limit := n, offset := before * n }

variable (filter : TreeFilter) (trees : List Tree)

/-- The limit and the offset do not matter for what is selected from. -/
theorem selected_with (limit offset : Nat) :
    { filter with limit, offset }.selected trees
      = { limit, offset : TreeFilter }.paginate (trees.filter fun tree => filter.Meets tree) := by
  rw [← paginate_accepts, ← filter_accepts]
  rfl

theorem selected_whole :
    { filter with limit := 0, offset := 0 }.selected trees
      = trees.filter fun tree => filter.Meets tree := by
  rw [selected_with, paginate, if_pos rfl, List.drop_zero]

/-- The page of a filter is a window of the trees that meet it. -/
theorem selected_atPage {n : Nat} (hn : 0 < n) (before : Nat) :
    (filter.atPage n before).selected trees
      = ((trees.filter fun tree => filter.Meets tree).drop (before * n)).take n := by
  rw [atPage, selected_with, paginate, if_neg (Nat.ne_of_gt hn)]

/-- Behind the last tree, nothing is selected. -/
theorem selected_behind {offset : Nat} (limit : Nat)
    (h : (trees.filter fun tree => filter.Meets tree).length ≤ offset) :
    { filter with limit, offset }.selected trees = [] := by
  rw [selected_with, paginate]
  show (if limit = 0 then _ else _) = _
  rw [List.drop_eq_nil_of_le h, List.take_nil, ite_self]

end TreeFilter

/-- Pages that put together are a list, as far as they reach, and the whole of it if they are enough. A page
in front of one that has a tree is full. -/
structure Divides (n : Nat) (pages : List (List Tree)) (trees : List Tree) : Prop where
  front : pages.flatten = trees.take (pages.length * n)
  whole : trees.length ≤ pages.length * n → pages.flatten = trees
  full : pages.Pairwise fun page later => later ≠ [] → page.length = n

/-- Windows one behind the other divide a list into pages. -/
theorem divides_windows (trees : List Tree) (n count : Nat) :
    Divides n ((List.range count).map fun k => (trees.drop (k * n)).take n) trees where
  front := by rw [flatten_windows, List.length_map, List.length_range]
  whole h := by
    rw [List.length_map, List.length_range] at h
    rw [flatten_windows, List.take_of_length_le h]
  full := pairwise_windows trees n count

/-! ### One page behind another -/

namespace Remote

section Pages

variable {σ : Type} (engine : Engine σ) (state : σ) (records : List Record)

/-- The engine when it has been asked for all trees a number of times. -/
def afterLists (engine : Engine σ) (state : σ) : Nat → σ
  | 0 => state
  | asked + 1 => afterLists engine (leftBy engine state (sent (.findAll {}))) asked

/-- The engine answers with the same records however often it is asked for all trees. -/
def Steady : Prop :=
  ∀ asked, Answers engine (afterLists engine state asked) (sent (.findAll {})) records

/-- Lists the trees of the first pages, one page behind another. -/
def readPages (filter : TreeFilter) (n count : Nat) : EngineM σ (List (List Tree)) :=
  ((List.range count).map (filter.atPage n)).mapM (store engine).findAll

variable {engine state records}

/-- Behind a list the engine is as steady as in front of it. -/
theorem Steady.behind (h : Steady engine state records) :
    Steady engine (leftBy engine state (sent (.findAll {}))) records := fun asked => h (asked + 1)

/-- One list after another, each of them has the trees that its filter selects. -/
theorem runFrom_mapM_findAll (h : Steady engine state records) (filters : List TreeFilter) :
    (runFrom state (filters.mapM (store engine).findAll)).1
      = .ok (filters.map fun filter => filter.selected (records.map Tree.ofRecord)) := by
  induction filters generalizing state with
  | nil => rfl
  | cons filter rest ih =>
    have hfirst : runFrom state ((store engine).findAll filter)
        = (.ok (filter.selected (records.map Tree.ofRecord)),
            leftBy engine state (sent (.findAll {}))) :=
      runFrom_findAll_of_answers filter (h 0)
    have hrest := ih h.behind
    rw [List.mapM_cons, runFrom_bind_ok _ hfirst]
    cases hrun : runFrom (leftBy engine state (sent (.findAll {})))
        (rest.mapM (store engine).findAll) with
    | mk outcome behind =>
      rw [hrun] at hrest
      obtain rfl : outcome = _ := hrest
      rw [runFrom_bind_ok _ hrun]
      rfl

end Pages

/-- While the engine answers with the same records, the pages of any size put together are the list without
pages, which has the trees that meet the criteria in the order of the engine. Each page in front of the last
one is full, and behind the last tree a page of any size is empty. -/
theorem pages_partition {σ : Type} (engine : Engine σ) (state : σ) (records : List Record)
    (h : Steady engine state records) (filter : TreeFilter) {n : Nat} (hn : 0 < n) :
    let matching := (records.map Tree.ofRecord).filter fun tree => filter.Meets tree
    (runFrom state ((store engine).findAll { filter with limit := 0, offset := 0 })).1 = .ok matching ∧
    (∀ count, ∃ pages, (runFrom state (readPages engine filter n count)).1 = .ok pages ∧
      pages.length = count ∧ Divides n pages matching) ∧
    (∀ limit offset, matching.length ≤ offset →
      (runFrom state ((store engine).findAll { filter with limit, offset })).1 = .ok []) := by
  intro matching
  have hlist (asked : TreeFilter) : (runFrom state ((store engine).findAll asked)).1
      = .ok (asked.selected (records.map Tree.ofRecord)) :=
    congrArg Prod.fst (runFrom_findAll_of_answers asked (h 0))
  refine ⟨?_, fun count => ?_, fun limit offset hbehind => ?_⟩
  · rw [hlist, TreeFilter.selected_whole]
  · refine ⟨(List.range count).map fun k => (matching.drop (k * n)).take n, ?_, by simp,
      divides_windows matching n count⟩
    rw [readPages, runFrom_mapM_findAll h, List.map_map]
    refine congrArg Except.ok (List.map_congr_left fun k _ => ?_)
    exact filter.selected_atPage _ hn k
  · rw [hlist, filter.selected_behind _ limit hbehind]

theorem steady_recordsEngine (records : List Record) : Steady recordsEngine records records := by
  intro asked
  have hsame : afterLists recordsEngine records asked = records := by
    induction asked with
    | zero => rfl
    | succ asked ih => exact ih
  rw [hsame]
  exact answers_recordsEngine records _

/-- Three of four trees stand at the location. Two pages of two have them all, and there is no third page. -/
theorem pages_partition_two :
    let tree (id location : String) : Record := [("id", .string id), ("location_id", .string location)]
    let records := [tree "T1" "L1", tree "T2" "L1", tree "T3" "L2", tree "T4" "L1"]
    let filter : TreeFilter := { locationId := some "L1" }
    Steady recordsEngine records records ∧
      (∃ pages, (runFrom records (readPages recordsEngine filter 2 2)).1 = .ok pages ∧
        pages.length = 2 ∧ pages.flatten.map Tree.id = ["T1", "T2", "T4"]) ∧
      (runFrom records ((store recordsEngine).findAll { filter with limit := 2, offset := 4 })).1
        = .ok [] := by
  intro tree records filter
  have hmatching : ((records.map Tree.ofRecord).filter fun tree => filter.Meets tree).map Tree.id
      = ["T1", "T2", "T4"] := by
    decide +kernel
  have hlength : ((records.map Tree.ofRecord).filter fun tree => filter.Meets tree).length = 3 := by
    simpa using congrArg List.length hmatching
  obtain ⟨-, hpages, hbehind⟩ :=
    pages_partition recordsEngine records records (steady_recordsEngine records) filter
      (show 0 < 2 by decide)
  obtain ⟨pages, hread, hcount, hdivides⟩ := hpages 2
  refine ⟨steady_recordsEngine records, ⟨pages, hread, hcount, ?_⟩, hbehind 2 4 (by omega)⟩
  rw [hdivides.whole (by omega), hmatching]

end Remote

end AqlGateway
