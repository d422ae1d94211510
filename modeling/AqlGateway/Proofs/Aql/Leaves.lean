import AqlGateway.Proofs.Aql.Rendering

/-!
# The leaves of a condition

What is written for a condition depends on its leaves and their order, not on how conjunctions group
them.

* `Leaf`, `Predicate.parts` — the equalities and free texts of a predicate from left to right;
* `Leaf.numberedTexts`, `Leaf.literalText` — what is written for leaves, with placeholders and with
  literals;
* `Predicate.leafTexts_parts`, `values_parts`, `columns_parts`, `render_inline` — texts, values and columns
  of a predicate are those of its leaves;
* `Predicate.parts_all?` — a conjunction of a list has the leaves of its members;
* `Predicate.render_parts` — so two predicates with the same leaves are rendered alike.
-/

namespace AqlGateway.Aql

open Text

inductive Leaf
  /-- A column has a value. -/
  | equality (column : String) (value : Value)
  /-- Free text, taken as it is. -/
  | free (text : String)
  deriving DecidableEq, Repr

namespace Leaf

def toPredicate : Leaf → Predicate
  | equality column value => .eq column value
  | free text => .raw text

def column? : Leaf → Option String
  | equality column _ => some column
  | free _ => none

def value? : Leaf → Option Value
  | equality _ value => some value
  | free _ => none

/-- The texts of leaves behind the first `n` values: the `j`-th equality has the number `n + j`. -/
def numberedTexts : (n : Nat) → List Leaf → List String
  | _, [] => []
  | n, equality column _ :: rest =>
    (column ++ "=" ++ placeholder (n + 1)) :: numberedTexts (n + 1) rest
  | n, free text :: rest => text :: numberedTexts n rest

def literalText : Leaf → String
  | equality column value => column ++ "=" ++ value.literal
  | free text => text

/-- Leaves are numbered behind the values of the leaves in front of them. -/
theorem numberedTexts_append (n : Nat) (front behind : List Leaf) :
    numberedTexts n (front ++ behind)
      = numberedTexts n front ++ numberedTexts (n + (front.filterMap value?).length) behind := by
  induction front generalizing n with
  | nil => rfl
  | cons leaf front ih =>
    cases leaf with
    | equality column value =>
      show _ :: numberedTexts (n + 1) (front ++ behind)
        = _ :: (numberedTexts (n + 1) front
          ++ numberedTexts (n + ((front.filterMap value?).length + 1)) behind)
      rw [ih, Nat.add_right_comm n 1, Nat.add_assoc n]
    | free text =>
      show text :: numberedTexts n (front ++ behind) = text :: (numberedTexts n front
        ++ numberedTexts (n + (front.filterMap value?).length) behind)
      rw [ih]

end Leaf

namespace Predicate

/-- The equalities and free texts of a predicate from left to right. -/
def parts : Predicate → List Leaf
  | eq column value => [.equality column value]
  | and left right => left.parts ++ right.parts
  | raw text => [.free text]

theorem parts_ne_nil (p : Predicate) : p.parts ≠ [] := by
  induction p with
  | eq column value => exact List.cons_ne_nil _ _
  | and left right ihl ihr => exact List.append_ne_nil_of_left_ne_nil ihl _
  | raw text => exact List.cons_ne_nil _ _

theorem leaves_parts (p : Predicate) : p.leaves = p.parts.map Leaf.toPredicate := by
  induction p with
  | eq column value => rfl
  | and left right ihl ihr => rw [leaves, parts, List.map_append, ihl, ihr]
  | raw text => rfl

/-! ### What is written for leaves -/

theorem values_parts (p : Predicate) : p.values = p.parts.filterMap Leaf.value? := by
  induction p with
  | eq column value => rfl
  | and left right ihl ihr => rw [values, parts, List.filterMap_append, ihl, ihr]
  | raw text => rfl

theorem columns_parts (p : Predicate) : p.columns = p.parts.filterMap Leaf.column? := by
  induction p with
  | eq column value => rfl
  | and left right ihl ihr => rw [columns, parts, List.filterMap_append, ihl, ihr]
  | raw text => rfl

/-- Numbering along a tree is numbering along its leaves: a left side hands on as many numbers as it
has values. -/
theorem leafTexts_parts (p : Predicate) (n : Nat) : p.leafTexts n = Leaf.numberedTexts n p.parts := by
  induction p generalizing n with
  | eq column value => rfl
  | and left right ihl ihr =>
    rw [leafTexts, parts, Leaf.numberedTexts_append, ihl, ihr, left.values_parts]
  | raw text => rfl

/-- With literals, a predicate is the conjunction of its leaves. -/
theorem render_inline (p : Predicate) (values : List Value) :
    (p.render .inline).run values = (joinWith " AND " (p.parts.map Leaf.literalText), values) := by
  induction p with
  | eq column value => rfl
  | and left right ihl ihr =>
    have hleft : left.parts.map Leaf.literalText ≠ [] := by simpa using left.parts_ne_nil
    have hright : right.parts.map Leaf.literalText ≠ [] := by simpa using right.parts_ne_nil
    rw [render, run_bind, ihl, run_bind, ihr, parts, List.map_append, joinWith_append hleft hright]
    rfl
  | raw text => rfl

/-- With placeholders it is that as well, numbered behind the values that were collected before. -/
theorem render_placeholders (p : Predicate) (values : List Value) :
    (p.render .placeholders).run values
      = (joinWith " AND " (Leaf.numberedTexts values.length p.parts),
          values ++ p.parts.filterMap Leaf.value?) := by
  rw [p.render_run, numberedText, p.leafTexts_parts, p.values_parts]

/-- A predicate is rendered as its leaves say. -/
theorem render_congr {p q : Predicate} (h : q.parts = p.parts) (rendering : Rendering) :
    q.render rendering = p.render rendering := by
  funext values
  cases rendering with
  | inline =>
    have hq := q.render_inline values
    rw [h, ← p.render_inline values] at hq
    exact hq
  | placeholders =>
    have hq := q.render_placeholders values
    rw [h, ← p.render_placeholders values] at hq
    exact hq

/-! ### Conjunctions of lists -/

theorem parts_foldl (p : Predicate) (rest : List Predicate) :
    (rest.foldl and p).parts = p.parts ++ rest.flatMap parts := by
  induction rest generalizing p with
  | nil => exact (List.append_nil _).symm
  | cons q rest ih =>
    rw [List.foldl_cons, ih, parts, List.flatMap_cons, List.append_assoc]

/-- A conjunction of a list has the leaves of its members in order. -/
theorem parts_all? {l : List Predicate} {p : Predicate} (h : all? l = some p) :
    p.parts = l.flatMap parts := by
  cases l with
  | nil => exact absurd h (by simp [all?])
  | cons q rest =>
    obtain rfl : rest.foldl and q = p := Option.some.inj h
    exact parts_foldl q rest

/-- The conjunction of the leaves of a predicate has the same leaves. -/
theorem exists_all?_leaves (p : Predicate) : ∃ q, all? p.leaves = some q ∧ q.parts = p.parts := by
  have hparts (l : List Leaf) : (l.map Leaf.toPredicate).flatMap parts = l := by
    induction l with
    | nil => rfl
    | cons leaf l ih =>
      rw [List.map_cons, List.flatMap_cons, ih]
      cases leaf <;> rfl
  rw [leaves_parts]
  cases hall : all? (p.parts.map Leaf.toPredicate) with
  | none =>
    cases hp : p.parts with
    | nil => exact absurd hp p.parts_ne_nil
    | cons leaf rest =>
      rw [hp] at hall
      exact absurd hall (by simp [all?])
  | some q => exact ⟨q, rfl, (parts_all? hall).trans (hparts p.parts)⟩

/-- Behind any number of values, a predicate is written as the conjunction of its leaves from left to
right, and the values and the columns of its equalities are collected in that order. Predicates with the
same leaves are rendered alike, among them the conjunction of the list of leaves. -/
theorem render_parts (p : Predicate) :
    (∀ values : List Value, (p.render .placeholders).run values
      = (joinWith " AND " (Leaf.numberedTexts values.length p.parts),
          values ++ p.parts.filterMap Leaf.value?)) ∧
      (∀ values : List Value, (p.render .inline).run values
        = (joinWith " AND " (p.parts.map Leaf.literalText), values)) ∧
      p.columns = p.parts.filterMap Leaf.column? ∧
      (∀ q : Predicate, q.parts = p.parts → ∀ rendering,
        q.render rendering = p.render rendering ∧ q.columns = p.columns) ∧
      ∃ q, all? p.leaves = some q ∧ ∀ rendering,
        q.render rendering = p.render rendering ∧ q.columns = p.columns := by
  have hcolumns {q : Predicate} (h : q.parts = p.parts) : q.columns = p.columns := by
    rw [q.columns_parts, h, p.columns_parts]
  obtain ⟨q, hall, hq⟩ := p.exists_all?_leaves
  refine ⟨p.render_placeholders, p.render_inline, p.columns_parts, ?_, q, hall, ?_⟩
  · intro q h rendering
    exact ⟨render_congr h rendering, hcolumns h⟩
  · intro rendering
    exact ⟨render_congr hq rendering, hcolumns hq⟩

/-- Two equalities with a free text between them, grouped in both ways behind one value. -/
theorem render_parts_regrouped :
    let front := eq "code" (.text "C001")
    let middle := raw "health_score < 50"
    let back := eq "location_id" (.text "L1")
    ((front.and middle).and back).parts = (front.and (middle.and back)).parts ∧
      ((front.and middle).and back).render .placeholders
        = (front.and (middle.and back)).render .placeholders ∧
      ((front.and (middle.and back)).render .placeholders).run [.integer 40]
        = ("code=$2 AND health_score < 50 AND location_id=$3",
            [.integer 40, .text "C001", .text "L1"]) := by
  intro front middle back
  have hparts : ((front.and middle).and back).parts = (front.and (middle.and back)).parts := rfl
  obtain ⟨hnumbered, -, -, hsame, -⟩ := render_parts (front.and (middle.and back))
  refine ⟨hparts, (hsame _ hparts .placeholders).1, (hnumbered _).trans ?_⟩
  exact Prod.ext (by decide) rfl

end Predicate

end AqlGateway.Aql
