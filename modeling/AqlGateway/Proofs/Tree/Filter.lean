import AqlGateway.Proofs.Aql.Rendering
import AqlGateway.Proofs.Tree.Row
import AqlGateway.Tree.Filter

/-!
# Criteria and pages

* `TreeFilter.Meets` — a tree meets every criterion that is set;
* `TreeFilter.selected` — the trees of a list that meet the criteria, as far as they are on the page;
* `TreeFilter.criteria` — the columns that are compared, and the values that they must have;
* `Predicate.compares_all?` — how a conjunction of equalities is written;
* `all_criteria` — a row that holds a tree meets the criteria exactly when the tree does.
-/

namespace AqlGateway

open Aql

namespace TreeFilter

variable {filter : TreeFilter} {tree : Tree}

/-- A tree meets every criterion that is set. -/
structure Meets (filter : TreeFilter) (tree : Tree) : Prop where
  location : ∀ l, filter.locationId = some l → tree.locationId = l
  species : ∀ s, filter.speciesId = some s → tree.speciesId = s
  status : ∀ s, filter.status = some s → tree.status = some s

theorem agrees_iff {α : Type} [DecidableEq α] {criterion : Option α} {value : α} :
    agrees criterion value = true ↔ ∀ wanted, criterion = some wanted → value = wanted := by
  cases criterion with
  | none => simp [agrees]
  | some wanted => simp [agrees, eq_comm]

/-- A filter accepts the trees that meet all of its criteria. -/
theorem accepts_iff : filter.accepts tree = true ↔ filter.Meets tree := by
  rw [accepts, Bool.and_eq_true, Bool.and_eq_true, agrees_iff, agrees_iff, agrees_iff]
  constructor
  · rintro ⟨⟨hlocation, hspecies⟩, hstatus⟩
    exact ⟨hlocation, hspecies, fun s hs => hstatus (some s) (by rw [hs]; rfl)⟩
  · rintro ⟨hlocation, hspecies, hstatus⟩
    refine ⟨⟨hlocation, hspecies⟩, fun wanted hwanted => ?_⟩
    obtain ⟨s, hs, rfl⟩ := Option.map_eq_some_iff.mp hwanted
    exact hstatus s hs

theorem accepts_location (location : String) :
    accepts { locationId := some location } = fun tree => tree.locationId == location := by
  funext tree
  rw [Bool.eq_iff_iff, accepts_iff, beq_iff_eq]
  constructor
  · intro h
    exact h.location location rfl
  · intro h
    exact { location := by simp [h], species := by simp, status := by simp }

theorem accepts_status (status : Status) :
    accepts { status := some status } = fun tree => tree.status == some status := by
  funext tree
  rw [Bool.eq_iff_iff, accepts_iff, beq_iff_eq]
  constructor
  · intro h
    exact h.status status rfl
  · intro h
    exact { location := by simp, species := by simp, status := by simp [h] }

instance : Decidable (filter.Meets tree) := decidable_of_iff _ accepts_iff

/-- The trees of a list that meet the criteria, without those in front of the offset, and no more of
them than the limit, unless that is zero. -/
def selected (filter : TreeFilter) (trees : List Tree) : List Tree :=
  let behind := (trees.filter fun tree => filter.Meets tree).drop filter.offset
  if filter.limit = 0 then behind else behind.take filter.limit

theorem filter_accepts (filter : TreeFilter) (trees : List Tree) :
    trees.filter filter.accepts = trees.filter fun tree => filter.Meets tree :=
  List.filter_congr fun tree _ => by rw [Bool.eq_iff_iff, accepts_iff, decide_eq_true_iff]

/-- Filtering and paging select the trees. -/
theorem paginate_accepts (filter : TreeFilter) (trees : List Tree) :
    filter.paginate (trees.filter filter.accepts) = filter.selected trees := by
  rw [filter_accepts]
  rfl

/-! ### Criteria as conditions -/

/-- The columns that are compared, and the values that they must have. -/
def criteria (filter : TreeFilter) : List Assignment :=
  (filter.locationId.map fun l => Assignment.mk "location_id" (.text l)).toList
    ++ (filter.speciesId.map fun s => Assignment.mk "species_id" (.text s)).toList
    ++ (filter.status.map fun s => Assignment.mk "status" (Tree.statusValue s)).toList

def equality (a : Assignment) : Predicate := .eq a.column a.value

/-- The equalities of a filter compare the columns of its criteria with their values. -/
theorem equalities_eq (filter : TreeFilter) : filter.equalities = filter.criteria.map equality := by
  rw [equalities, criteria]
  cases filter.locationId <;> cases filter.speciesId <;> cases filter.status <;> rfl

theorem column_of_mem_criteria {a : Assignment} (h : a ∈ filter.criteria) :
    a.column ∈ Tree.columns := by
  rw [criteria, List.mem_append, List.mem_append] at h
  rcases h with (h | h) | h
  all_goals
    obtain ⟨x, -, rfl⟩ := Option.map_eq_some_iff.mp (Option.mem_toList.mp h)
    simp [Tree.columns]

end TreeFilter

/-! ### Conjunctions of equalities -/

namespace Aql.Predicate

/-- What a conjunction of equalities is written as, and what it compares. -/
structure Compares (p : Predicate) (l : List Assignment) : Prop where
  leafTexts : ∀ n, p.leafTexts n = assignmentTexts n l
  values : p.values = l.map Assignment.value
  columns : p.columns = l.map Assignment.column

theorem assignmentTexts_append (n : Nat) (l m : List Assignment) :
    assignmentTexts n (l ++ m) = assignmentTexts n l ++ assignmentTexts (n + l.length) m := by
  induction l generalizing n with
  | nil => rfl
  | cons a rest ih =>
    rw [List.cons_append, assignmentTexts, assignmentTexts, ih, List.length_cons, List.cons_append,
      Nat.add_right_comm, Nat.add_assoc]

theorem Compares.and_equality {p : Predicate} {l : List Assignment} (h : p.Compares l)
    (a : Assignment) : (p.and (TreeFilter.equality a)).Compares (l ++ [a]) where
  leafTexts n := by
    rw [Predicate.leafTexts, h.leafTexts, h.values, List.length_map, assignmentTexts_append]
    rfl
  values := by
    rw [Predicate.values, h.values, List.map_append]
    rfl
  columns := by
    rw [Predicate.columns, h.columns, List.map_append]
    rfl

theorem compares_foldl {p : Predicate} {l : List Assignment} (h : p.Compares l)
    (rest : List Assignment) :
    ((rest.map TreeFilter.equality).foldl Predicate.and p).Compares (l ++ rest) := by
  induction rest generalizing p l with
  | nil => simpa using h
  | cons a rest ih =>
    have hnext := ih (h.and_equality a)
    rwa [List.append_assoc] at hnext

/-- The conjunction of a list of equalities compares them all. -/
theorem compares_all? {l : List Assignment} {p : Predicate}
    (h : Predicate.all? (l.map TreeFilter.equality) = some p) : p.Compares l := by
  cases l with
  | nil => exact absurd h (by simp [Predicate.all?])
  | cons a rest =>
    obtain rfl := Option.some.inj h
    exact compares_foldl (l := [a]) ⟨fun _ => rfl, rfl, rfl⟩ rest

theorem all?_eq_none_iff {l : List Assignment} :
    Predicate.all? (l.map TreeFilter.equality) = none ↔ l = [] := by
  cases l <;> simp [Predicate.all?]

end Aql.Predicate

/-! ### Rows -/

namespace TreeFilter

variable {row : Row} {tree : Tree}

/-- Whether a row has the value of a criterion, which must not be a null. -/
def hasValue (row : Row) (a : Assignment) : Bool := !a.value.isNull && row.said a.column == a.value

theorem name_injective {s t : Status} (h : s.name = t.name) : s = t := by
  have hs := Tree.ofField_name s
  rw [h, Tree.ofField_name] at hs
  exact (Option.some.inj hs).symm

theorem hasValue_text {column s : String} (h : row.said column = .text s) (wanted : String) :
    hasValue row ⟨column, .text wanted⟩ = decide (wanted = s) := by
  rw [Bool.eq_iff_iff, hasValue, h]
  show (true && (Value.text s == Value.text wanted)) = true ↔ _
  rw [Bool.true_and, beq_iff_eq, decide_eq_true_iff]
  exact ⟨fun heq => (Value.text.inj heq).symm, fun heq => by rw [heq]⟩

/-- A status is compared by its name; an unset one is null, which equals nothing. -/
theorem hasValue_status
    (h : row.said "status" = Tree.optionalValue Tree.statusValue tree.status) (wanted : Status) :
    hasValue row ⟨"status", Tree.statusValue wanted⟩ = decide (some wanted = tree.status) := by
  cases hstatus : tree.status with
  | none =>
    rw [hstatus] at h
    rw [hasValue, h]
    rfl
  | some status =>
    rw [hstatus] at h
    rw [Tree.statusValue, hasValue_text h, Bool.eq_iff_iff]
    simp only [decide_eq_true_iff, Option.some.injEq]
    exact ⟨name_injective, congrArg Status.name⟩

/-- A criterion that is not set is met. -/
theorem all_criterion {α β : Type} [DecidableEq β] {criterion : Option α} {wanted : α → β}
    {value : β} {compare : α → Assignment}
    (h : ∀ a, hasValue row (compare a) = decide (wanted a = value)) :
    (criterion.map compare).toList.all (hasValue row) = agrees (criterion.map wanted) value := by
  cases criterion with
  | none => rfl
  | some a => simp [agrees, h]

/-- A row that holds a tree has the values of the criteria exactly when the tree meets them. -/
theorem all_criteria (h : row.Holds tree) (filter : TreeFilter) :
    filter.criteria.all (hasValue row) = filter.accepts tree := by
  have hlocation : row.said "location_id" = .text tree.locationId :=
    h (_, .text tree.locationId) (by simp [Tree.columns, Tree.values])
  have hspecies : row.said "species_id" = .text tree.speciesId :=
    h (_, .text tree.speciesId) (by simp [Tree.columns, Tree.values])
  have hstatus : row.said "status" = Tree.optionalValue Tree.statusValue tree.status :=
    h (_, Tree.optionalValue Tree.statusValue tree.status) (by simp [Tree.columns, Tree.values])
  rw [criteria, List.all_append, List.all_append, all_criterion (hasValue_text hlocation),
    all_criterion (hasValue_text hspecies), all_criterion (hasValue_status hstatus), accepts]
  simp only [Option.map_id']

end TreeFilter

end AqlGateway
