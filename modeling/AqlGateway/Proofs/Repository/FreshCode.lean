import AqlGateway.Proofs.Repository.Records
import AqlGateway.Proofs.Tree.Code

/-!
# Fresh codes

The remote store makes the next code from the highest number of a code in a record. Fields that are no
texts, and texts without a number, are passed over; no tree has the code that is made.

* `codeNumber?_compact` — the text of a value that is no string does not look like a code;
* `Remote.HasNumber` — the code of a record is a text with a number;
* `codeNumber?_code` — the code that a tree is given has the number of its record, if there is one;
* `foldl_max_spec`, `highestNumber_spec` — the highest number is one of the numbers, or zero;
* `Remote.IsHighest` — the highest number of the codes in records;
* `nextCode_fresh` — the next code has the next number, and is none of the codes of the trees.
-/

namespace AqlGateway

open Text

/-! ### Values that are no strings -/

section Texts

variable {s : List Char}

theorem notMem_digits (n : Nat) : 'C' ∉ Nat.toDigits 10 n := fun hmem =>
  absurd (Nat.isDigit_of_mem_toDigits (by decide) (by decide) hmem) (by decide)

theorem notMem_signText (negative : Bool) : 'C' ∉ (Binary64.signText negative).toList := by
  cases negative <;> decide

theorem notMem_positional {whole : List Char} (hwhole : 'C' ∉ whole) (hs : 'C' ∉ s) (point : Int) :
    'C' ∉ Binary64.positional whole s point := by
  rw [Binary64.positional]
  split
  · simp [Binary64.zeros, hs]
  · split
    · simp [Binary64.zeros, hs, hwhole]
    · have htake : 'C' ∉ s.take point.toNat := fun h => hs (List.mem_of_mem_take h)
      have hdrop : 'C' ∉ s.drop point.toNat := fun h => hs (List.mem_of_mem_drop h)
      simp [htake, hdrop]

theorem notMem_scientific (hs : 'C' ∉ s) (point : Int) : 'C' ∉ Binary64.scientific s point := by
  have htake : 'C' ∉ s.take 1 := fun h => hs (List.mem_of_mem_take h)
  have hfraction : 'C' ∉ (if s.length ≤ 1 then [] else '.' :: s.drop 1) := by
    split
    · exact List.not_mem_nil
    · intro hmem
      rcases List.mem_cons.mp hmem with hpoint | hdrop
      · exact absurd hpoint (by decide)
      · exact hs (List.mem_of_mem_drop hdrop)
  have hexponent := notMem_digits (point - 1).natAbs
  rw [Binary64.scientific]
  simp only [List.mem_append, List.mem_cons, not_or, Binary64.digitsOf]
  refine ⟨⟨htake, hfraction⟩, by decide, ?_, hexponent⟩
  split <;> decide

/-- The number of a record is written without the letter that codes begin with. -/
theorem notMem_jsonText (x : Binary64) : 'C' ∉ x.jsonText.toList := by
  cases x with
  | nan => decide
  | infinite negative => cases negative <;> decide
  | finite negative code =>
    have hsign := notMem_signText negative
    rw [Binary64.jsonText]
    split
    · simp [hsign]
    · rw [String.toList_append, String.toList_ofList, List.mem_append, not_or]
      refine ⟨hsign, ?_⟩
      split
      · exact notMem_positional (by decide) (notMem_digits _) _
      · exact notMem_scientific (notMem_digits _) _

/-- The text of a value that is no string has no number, since it does not begin as a code does. -/
theorem codeNumber?_compact {value : Json} (h : ∀ text, value ≠ .string text) :
    Tree.codeNumber? value.compact = none := by
  have hbegins : ∀ rest, value.compact.toList ≠ 'C' :: rest := by
    intro rest hcode
    rw [Json.compact, String.toList_ofList] at hcode
    cases value with
    | string text => exact h text rfl
    | integer n =>
      have hcode : Json.integerChars n.value ++ [] = 'C' :: rest := hcode
      rw [List.append_nil] at hcode
      have hmem : 'C' ∈ Json.integerChars n.value := hcode ▸ List.mem_cons_self
      rw [Json.integerChars] at hmem
      split at hmem <;> simp [notMem_digits] at hmem
    | real x =>
      have hcode : x.jsonText.toList ++ [] = 'C' :: rest := hcode
      rw [List.append_nil] at hcode
      exact notMem_jsonText x (hcode ▸ List.mem_cons_self)
    | bool b => cases b <;> exact absurd (List.cons.inj hcode).1 (by decide)
    | null => exact absurd (List.cons.inj hcode).1 (by decide)
    | array items => exact absurd (List.cons.inj hcode).1 (by decide)
    | object members => exact absurd (List.cons.inj hcode).1 (by decide)
  rw [Tree.codeNumber?]
  split
  · next rest hcode => exact absurd hcode (hbegins rest)
  · rfl

end Texts

namespace Remote

/-! ### Numbers in records -/

section Numbers

variable {record : Record} {records : List Record} {n : UInt64}

/-- The code of a record is a text with a number. -/
def HasNumber (record : Record) (n : UInt64) : Prop :=
  ∃ code, Json.lookup? "code" record = some (.string code) ∧ Tree.codeNumber? code = some n

/-- Only a text under the key of the code has a number; other values are written without the
letter. -/
theorem recordNumber?_eq_some_iff : recordNumber? record = some n ↔ HasNumber record n := by
  rw [recordNumber?, HasNumber]
  constructor
  · intro h
    split at h
    · next code hlookup => exact ⟨code, hlookup, h⟩
    · exact absurd h (by simp)
  · rintro ⟨code, hlookup, hnumber⟩
    rw [hlookup]
    exact hnumber

/-- The code that a tree is given has the number of its record, if there is one. -/
theorem codeNumber?_code (record : Record) :
    Tree.codeNumber? (Tree.ofRecord record).code = recordNumber? record := by
  show Tree.codeNumber? (getString record "code") = recordNumber? record
  rw [getString, recordNumber?]
  cases Json.lookup? "code" record with
  | none => rfl
  | some value =>
    cases value with
    | string code => rfl
    | null => rfl
    | _ => exact codeNumber?_compact (fun _ => by simp)

/-! ### The highest number -/

theorem toNat_max (m n : UInt64) : (max m n).toNat = max m.toNat n.toNat := by
  show (if m ≤ n then n else m).toNat = max m.toNat n.toNat
  split
  · next hle =>
    rw [UInt64.le_iff_toNat_le] at hle
    omega
  · next hlt =>
    rw [UInt64.not_le, UInt64.lt_iff_toNat_lt] at hlt
    omega

/-- The highest of some numbers and a start is the start or one of them, and none is higher. -/
theorem foldl_max_spec (l : List UInt64) (start : UInt64) :
    (l.foldl max start = start ∨ l.foldl max start ∈ l) ∧ start.toNat ≤ (l.foldl max start).toNat ∧
      ∀ n ∈ l, n.toNat ≤ (l.foldl max start).toNat := by
  induction l generalizing start with
  | nil => exact ⟨.inl rfl, Nat.le_refl _, fun n hn => absurd hn List.not_mem_nil⟩
  | cons m rest ih =>
    obtain ⟨hmem, hstart, hrest⟩ := ih (max start m)
    rw [toNat_max] at hstart
    rw [List.foldl_cons]
    refine ⟨?_, by omega, ?_⟩
    · rcases hmem with heq | hmem
      · rw [heq]
        show (if start ≤ m then m else start) = start ∨ (if start ≤ m then m else start) ∈ m :: rest
        split
        · exact .inr List.mem_cons_self
        · exact .inl rfl
      · exact .inr (List.mem_cons_of_mem m hmem)
    · intro n hn
      rcases List.mem_cons.mp hn with rfl | hn
      · omega
      · exact hrest n hn

/-- A code in one of the records has a number. -/
def Found (records : List Record) (n : UInt64) : Prop := ∃ record ∈ records, HasNumber record n

/-- The highest number of the codes in records. -/
def IsHighest (records : List Record) (n : UInt64) : Prop :=
  Found records n ∧ ∀ m, Found records m → m ≤ n

theorem mem_numbers_iff : n ∈ records.filterMap recordNumber? ↔ Found records n := by
  rw [List.mem_filterMap]
  exact exists_congr fun record => and_congr_right fun _ => recordNumber?_eq_some_iff

/-- No number that is found is above the highest. -/
theorem le_highestNumber (h : Found records n) : n.toNat ≤ (highestNumber records).toNat :=
  (foldl_max_spec _ 0).2.2 n (mem_numbers_iff.mpr h)

/-- The highest number is the highest that is found, or zero where none is. -/
theorem highestNumber_spec (records : List Record) :
    IsHighest records (highestNumber records) ∨
      (∀ n, ¬ Found records n) ∧ highestNumber records = 0 := by
  by_cases hfound : ∃ n, Found records n
  · left
    refine ⟨?_, fun m hm => UInt64.le_iff_toNat_le.mpr (le_highestNumber hm)⟩
    rcases (foldl_max_spec (records.filterMap recordNumber?) 0).1 with hzero | hmem
    · -- Nothing is below zero, so that a number that is found is zero itself.
      obtain ⟨n, hn⟩ := hfound
      have hle := le_highestNumber hn
      rw [highestNumber, hzero] at hle
      obtain rfl : n = 0 := UInt64.toNat_inj.mp (Nat.le_zero.mp hle)
      rw [highestNumber, hzero]
      exact hn
    · exact mem_numbers_iff.mp hmem
  · right
    refine ⟨not_exists.mp hfound, ?_⟩
    have hnone : records.filterMap recordNumber? = [] := by
      refine List.eq_nil_iff_forall_not_mem.mpr fun n hn => hfound ⟨n, mem_numbers_iff.mp hn⟩
    rw [highestNumber, hnone]
    rfl

/-- The largest 64-bit number is the highest exactly where it is found. -/
theorem highestNumber_eq_largest_iff :
    highestNumber records = 18446744073709551615 ↔ Found records 18446744073709551615 := by
  constructor
  · intro h
    rcases highestNumber_spec records with hhighest | ⟨-, hzero⟩
    · exact h ▸ hhighest.1
    · exact absurd (h.symm.trans hzero) (by decide)
  · intro h
    have hle : 18446744073709551615 ≤ (highestNumber records).toNat := le_highestNumber h
    have hlt : (highestNumber records).toNat < 18446744073709551616 := (highestNumber records).toNat_lt_size
    apply UInt64.toNat_inj.mp
    show (highestNumber records).toNat = 18446744073709551615
    omega

end Numbers

/-! ### The next code -/

section Next

variable {σ : Type} {engine : Engine σ} {state : σ} {records : List Record}

theorem runFrom_nextCode (h : Answers engine state (sent .nextCode) records) :
    (runFrom state ((store engine).nextCode)).1 = Tree.nextCodeAfter (highestNumber records) := by
  have hselect := runFrom_within_ok "failed to query codes"
    (runFrom_select_ok (validate_sent .nextCode) h)
  show (runFrom state (nextCode engine)).1 = _
  rw [nextCode, runFrom_bind_ok _ hselect]
  cases Tree.nextCodeAfter (highestNumber records) <;> rfl

/-- With any records, the codes are exhausted exactly where one of them has the largest 64-bit number.
Otherwise the next code has the number behind the highest one, or the number one where there is none. It is
the code of none of the trees, and has a higher number than every one of their codes that has one. -/
theorem nextCode_fresh (h : Answers engine state (sent .nextCode) records) :
    let outcome := (runFrom state ((store engine).nextCode)).1
    (outcome = .error (.codesExhausted 18446744073709551615) ↔ Found records 18446744073709551615) ∧
    (¬ Found records 18446744073709551615 → ∃ (code : String) (n : UInt64), outcome = .ok code ∧
      code = Tree.formatCode n ∧ Tree.codeNumber? code = some n ∧
      ((∃ m, IsHighest records m ∧ n.toNat = m.toNat + 1) ∨ (∀ m, ¬ Found records m) ∧ n = 1) ∧
      ∀ record ∈ records, (Tree.ofRecord record).code ≠ code ∧
        ∀ m, Tree.codeNumber? (Tree.ofRecord record).code = some m → m < n) := by
  intro outcome
  have houtcome : outcome = Tree.nextCodeAfter (highestNumber records) := runFrom_nextCode h
  rw [houtcome]
  constructor
  · rw [Tree.nextCodeAfter_eq_error_iff, ← highestNumber_eq_largest_iff]
    constructor
    · exact fun hexhausted => hexhausted.1
    · exact fun hlargest => ⟨hlargest, by rw [hlargest]⟩
  · intro hroom
    cases hnext : Tree.nextCodeAfter (highestNumber records) with
    | error e =>
      have hlargest := (Tree.nextCodeAfter_eq_error_iff.mp hnext).1
      exact absurd (highestNumber_eq_largest_iff.mp hlargest) hroom
    | ok code =>
      obtain ⟨n, hn, rfl⟩ := Tree.nextCodeAfter_eq_ok_iff.mp hnext
      have hnumber := Tree.codeNumber_formatCode n
      have hbelow : ∀ record ∈ records, ∀ m,
          Tree.codeNumber? (Tree.ofRecord record).code = some m → m < n := by
        intro record hrecord m hm
        -- The number of a code in a tree is that of its record, whatever the record holds there.
        rw [codeNumber?_code, recordNumber?_eq_some_iff] at hm
        have hle := le_highestNumber ⟨record, hrecord, hm⟩
        exact UInt64.lt_iff_toNat_lt.mpr (by omega)
      refine ⟨_, n, rfl, rfl, hnumber, ?_, fun record hrecord => ⟨?_, hbelow record hrecord⟩⟩
      · rcases highestNumber_spec records with hhighest | ⟨hnone, hzero⟩
        · exact .inl ⟨_, hhighest, hn⟩
        · rw [hzero] at hn
          exact .inr ⟨hnone, UInt64.toNat_inj.mp hn⟩
      · -- A code that is there already has a number below its own.
        intro hcode
        rw [← hcode] at hnumber
        exact absurd (hbelow record hrecord n hnumber) (UInt64.lt_irrefl n)

end Next

/-- Zeros in front and a text behind do not matter; a number above 64 bits is passed over, as is a field that
is no text. -/
theorem nextCode_fresh_among_others :
    let records : List Record := [[("code", .string "C0099")], [("code", .string "C7x")],
      [("code", .integer ⟨500, by decide⟩)], [("code", .string "C99999999999999999999")], []]
    Answers recordsEngine records (sent .nextCode) records ∧ ¬ Found records 18446744073709551615 ∧
      IsHighest records 99 ∧ (runFrom records ((store recordsEngine).nextCode)).1 = .ok "C100" := by
  intro records
  have hanswers := answers_recordsEngine records (sent .nextCode)
  have hnumbers : records.filterMap recordNumber? = [99, 7] := by decide +kernel
  have hfound : ∀ n, Found records n ↔ n = 99 ∨ n = 7 := by
    intro n
    rw [← mem_numbers_iff, hnumbers]
    simp
  have hroom : ¬ Found records 18446744073709551615 := by
    rw [hfound]
    decide
  have hhighest : IsHighest records 99 := by
    refine ⟨(hfound 99).mpr (.inl rfl), fun m hm => ?_⟩
    rcases (hfound m).mp hm with rfl | rfl <;> decide
  obtain ⟨code, n, houtcome, hcode, -, hnext, -⟩ := (nextCode_fresh hanswers).2 hroom
  have hn : n = 100 := by
    rcases hnext with ⟨m, ⟨hm, hle⟩, hn⟩ | ⟨hnone, -⟩
    · have hmax := hle 99 hhighest.1
      rcases (hfound m).mp hm with rfl | rfl
      · exact UInt64.toNat_inj.mp hn
      · exact absurd hmax (by decide)
    · exact absurd hhighest.1 (hnone 99)
  have hformat : Tree.formatCode 100 = "C100" := by decide +kernel
  rw [hcode, hn, hformat] at houtcome
  exact ⟨hanswers, hroom, hhighest, houtcome⟩

end Remote

end AqlGateway
