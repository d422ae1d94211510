import Mathlib.Data.List.Forall2
import AqlGateway.Proofs.Json.Spelling

/-!
# JSON texts read back

* `Json.Plain` — a value without doubles, with the members of objects in the order of their keys;
* `Json.nesting` — the levels that arrays and objects nest;
* `Json.Means` — a tree means a value, if so many levels are read;
* `Plain.exists_spells` — the text of a plain value is read as a tree that means the value;
* `read?_compact` — so the value is read back from its text.
-/

namespace AqlGateway

open Text JsonText

namespace Json

/-! ### Plain values -/

/-- A value without doubles, whose objects hold their members in the order of the keys. -/
inductive Plain : Json → Prop
  | null : Plain .null
  | bool (b : Bool) : Plain (.bool b)
  | integer (n : JsonInteger) : Plain (.integer n)
  | string (s : String) : Plain (.string s)
  | array {items : List Json} (plain : ∀ item ∈ items, Plain item) : Plain (.array items)
  | object {members : List (String × Json)} (plain : ∀ member ∈ members, Plain member.2)
    (sorted : members.Pairwise fun m n => m.1 < n.1) : Plain (.object members)

mutual

/-- The levels that arrays and objects nest. -/
def nesting (value : Json) : Nat :=
  match value with
  | array items => itemsNesting items + 1
  | object members => membersNesting members + 1
  | _ => 0

def itemsNesting (items : List Json) : Nat :=
  match items with
  | [] => 0
  | item :: more => max (nesting item) (itemsNesting more)

def membersNesting (members : List (String × Json)) : Nat :=
  match members with
  | [] => 0
  | (_, value) :: more => max (nesting value) (membersNesting more)

end

/-! ### Meanings -/

/-- A key behind all others is inserted at the end. -/
theorem insert_last {key : String} {value : Json} {members : List (String × Json)}
    (h : ∀ m ∈ members, m.1 < key) : insert key value members = members ++ [(key, value)] := by
  induction members with
  | nil => rfl
  | cons m members ih =>
    obtain ⟨hm, hmembers⟩ := List.forall_mem_cons.mp h
    have hne : key ≠ m.1 := fun heq => String.lt_irrefl key (heq ▸ hm)
    have hnot : ¬ key < m.1 := String.lt_asymm hm
    rw [insert, if_neg hne, if_neg hnot, ih hmembers]
    rfl

/-- Members in the order of their keys are kept as they are. -/
theorem membersOf_sorted {members : List (String × Json)}
    (h : members.Pairwise fun m n => m.1 < n.1) : membersOf members = members := by
  have hfold : ∀ rest front : List (String × Json),
      (front ++ rest).Pairwise (fun m n => m.1 < n.1) →
        rest.foldl (fun acc m => insert m.1 m.2 acc) front = front ++ rest := by
    intro rest
    induction rest with
    | nil => exact fun front _ => (List.append_nil front).symm
    | cons m rest ih =>
      intro front hsorted
      have hlast : ∀ n ∈ front, n.1 < m.1 := fun n hn =>
        (List.pairwise_append.mp hsorted).2.2 n hn m List.mem_cons_self
      rw [List.append_cons] at hsorted
      show rest.foldl _ (insert m.1 m.2 front) = _
      rw [insert_last hlast, ih _ hsorted, ← List.append_cons]
  exact hfold members [] h

/-- The tree `t` means the value `j`, if so many levels are read. -/
def Means (j : Json) (t : JsonText) : Prop := ∀ depth, nesting j ≤ depth → meaning? depth t = some j

/-- A key of a tree is written as the key of a member, whose value its value means. -/
def MeansMember (member : String × Json) (tree : List Char × JsonText) : Prop :=
  tree.1 = escaped member.1.toList ∧ Means member.2 tree.2

/-- An array means its items, one level further down. -/
theorem means_array {items : List Json} {trees : List JsonText}
    (h : List.Forall₂ Means items trees) : Means (.array items) (.array trees) := by
  have hitems : ∀ depth, itemsNesting items ≤ depth → itemsMeaning? depth trees = some items := by
    intro depth
    induction h with
    | nil => exact fun _ => rfl
    | @cons item tree items trees hitem _ ih =>
      intro hdepth
      have hdepth : max (nesting item) (itemsNesting items) ≤ depth := hdepth
      rw [itemsMeaning?, hitem depth (by omega), ih (by omega)]
      rfl
  intro depth hdepth
  have hdepth : itemsNesting items + 1 ≤ depth := hdepth
  rw [meaning?, if_neg (by omega), hitems (depth - 1) (by omega)]
  rfl

/-- An object means its members if their keys are in order. -/
theorem means_object {members : List (String × Json)} {trees : List (List Char × JsonText)}
    (h : List.Forall₂ MeansMember members trees) (hsorted : members.Pairwise fun m n => m.1 < n.1) :
    Means (.object members) (.object trees) := by
  have hmembers : ∀ depth, membersNesting members ≤ depth →
      membersMeaning? depth trees = some members := by
    clear hsorted
    intro depth
    induction h with
    | nil => exact fun _ => rfl
    | @cons member tree members trees hmember _ ih =>
      intro hdepth
      have hdepth : max (nesting member.2) (membersNesting members) ≤ depth := hdepth
      obtain ⟨raw, tree⟩ := tree
      obtain ⟨rfl, hvalue⟩ : raw = escaped member.1.toList ∧ Means member.2 tree := hmember
      rw [membersMeaning?, text?_escaped, hvalue depth (by omega), ih (by omega)]
      rfl
  intro depth hdepth
  have hdepth : membersNesting members + 1 ≤ depth := hdepth
  rw [meaning?, if_neg (by omega), hmembers (depth - 1) (by omega), Option.map_some, ofMembers,
    membersOf_sorted hsorted]

theorem exists_forall₂ {α β : Type} {R : α → β → Prop} {l : List α} (h : ∀ a ∈ l, ∃ b, R a b) :
    ∃ m, List.Forall₂ R l m := by
  induction l with
  | nil => exact ⟨[], .nil⟩
  | cons a l ih =>
    obtain ⟨⟨b, hb⟩, hl⟩ := List.forall_mem_cons.mp h
    obtain ⟨m, hm⟩ := ih hl
    exact ⟨b :: m, .cons hb hm⟩

/-- The text of a plain value is read as a tree that means the value. -/
theorem Plain.exists_spells {j : Json} (h : Plain j) : ∃ t, Spells j t ∧ Means j t := by
  induction h with
  | null => exact ⟨_, spells_null, fun _ _ => rfl⟩
  | bool b => exact ⟨_, spells_bool b, fun _ _ => rfl⟩
  | integer n =>
    refine ⟨_, spells_integer n, fun depth _ => ?_⟩
    rw [meaning?, JsonNumeral.meaning?_ofInt]
    rfl
  | string s =>
    refine ⟨_, spells_string s, fun depth _ => ?_⟩
    rw [meaning?, text?_escaped]
    rfl
  | array _ ih =>
    obtain ⟨trees, htrees⟩ := exists_forall₂ ih
    exact ⟨.array trees, spells_array (htrees.imp fun _ _ h => h.1),
      means_array (htrees.imp fun _ _ h => h.2)⟩
  | @object members _ hsorted ih =>
    have hmembers : ∀ member ∈ members,
        ∃ tree, SpellsMember member tree ∧ MeansMember member tree := by
      intro member hmember
      obtain ⟨t, hspells, hmeans⟩ := ih member hmember
      exact ⟨(escaped member.1.toList, t), ⟨rfl, hspells⟩, rfl, hmeans⟩
    obtain ⟨trees, htrees⟩ := exists_forall₂ hmembers
    exact ⟨.object trees, spells_object (htrees.imp fun _ _ h => h.1),
      means_object (htrees.imp fun _ _ h => h.2) hsorted⟩

/-! ### Whole texts -/

/-- The member of a tree whose key is a string. -/
def namedMember (member : String × JsonText) : List Char × JsonText :=
  (escaped member.1.toList, member.2)

/-- The keys of members are the strings that they are named for. -/
theorem keys?_namedMember (members : List (String × JsonText)) :
    keys? (members.map namedMember) = some members := by
  induction members with
  | nil => rfl
  | cons member members ih =>
    show (text? (escaped member.1.toList)).bind _ = _
    rw [text?_escaped, Option.bind_some, ih]
    rfl

/-- A text is read as the tree that it spells. -/
theorem ofChars?_compact {j : Json} {t : JsonText} (h : Spells j t) :
    JsonText.ofChars? j.compact.toList = some t := by
  have hread := h.read (2 * (render j []).length + 2) [] stops_nil (by omega)
  rw [compact, String.toList_ofList, JsonText.ofChars?, hread]
  rfl

/-- The text of a plain value that does not nest too deep is read as the value. -/
theorem read?_compact {j : Json} (h : Plain j) (hdepth : j.nesting ≤ depthLimit) :
    read? j.compact = some j := by
  obtain ⟨t, hspells, hmeans⟩ := h.exists_spells
  rw [read?, JsonText.read?, ofChars?_compact hspells]
  exact hmeans depthLimit hdepth

end Json

end AqlGateway
