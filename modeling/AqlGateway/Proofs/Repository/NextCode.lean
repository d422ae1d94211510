import Mathlib.Data.List.Sort
import AqlGateway.Proofs.Executor.Session
import AqlGateway.Proofs.Tree.Code
import AqlGateway.Repository.Relational

/-!
# Codes that are handed out

The next code is made from the stored code that stands highest in the order of texts. That order
agrees with the order of the numbers as long as the codes have one length.

* `descending`, `topCode?`, `topNumber` — the stored codes in the order of their bytes, the highest of
  them, and its number;
* `Ranks` — a database that answers the query for the highest code by that order;
* `Overtaken` — a stored code has the number behind that of the highest;
* `runIn_nextCode` — the next code is the one behind the highest;
* `overtaken_iff` — where codes that were all handed out go wrong;
* `nextCode_free_iff` — when the next code is free.
-/

namespace AqlGateway.Relational

open Aql Text.Utf8

/-! ### The order of the database -/

/-- Codes in the descending order of their bytes. -/
def descending (codes : List String) : List String :=
  codes.insertionSort fun a b => encode b ≤ encode a

/-- The code that stands highest. -/
def topCode? (codes : List String) : Option String := (descending codes).head?

/-- The number of the code that stands highest; zero when there is none. -/
def topNumber (codes : List String) : UInt64 := ((topCode? codes).bind Tree.codeNumber?).getD 0

def highestQuery : BoundQuery := ⟨"SELECT code FROM trees WHERE 1=1 ORDER BY code DESC LIMIT 1", []⟩

def highestRows (codes : List String) : List Row :=
  ((descending codes).take 1).map fun code => ⟨["code"], [.text code]⟩

/-- A stored code has the number behind that of the highest. -/
def Overtaken (codes : List String) : Prop :=
  ∃ n, Tree.formatCode n ∈ codes ∧ n.toNat = (topNumber codes).toNat + 1

variable {codes : List String} {code : String}

theorem mem_of_topCode? (h : topCode? codes = some code) : code ∈ codes :=
  (List.perm_insertionSort _ codes).mem_iff.mp (List.mem_of_mem_head? h)

/-- The code that stands highest is the greatest by its bytes, which need not be by its number. -/
theorem le_of_topCode? (h : topCode? codes = some code) {other : String} (hother : other ∈ codes) :
    encode other ≤ encode code := by
  have hsorted := List.pairwise_insertionSort (fun a b => encode b ≤ encode a) codes
  have hmem : other ∈ descending codes :=
    (List.perm_insertionSort _ codes).mem_iff.mpr hother
  obtain ⟨rest, hrest⟩ := List.head?_eq_some_iff.mp h
  rw [descending] at hrest hmem
  rw [hrest] at hsorted hmem
  rcases List.mem_cons.mp hmem with rfl | hmem
  · exact List.le_refl _
  · exact (List.pairwise_cons.mp hsorted).1 other hmem

theorem exists_topCode (hmem : code ∈ codes) : ∃ top, topCode? codes = some top := by
  have hmem : code ∈ descending codes := (List.perm_insertionSort _ codes).mem_iff.mpr hmem
  rw [topCode?]
  cases hsorted : descending codes with
  | nil => exact absurd (hsorted ▸ hmem) List.not_mem_nil
  | cons top rest => exact ⟨top, rfl⟩

/-! ### The code behind the highest -/

/-- The code behind the highest is free unless a stored code has its number. -/
theorem notMem_iff_not_overtaken (h : Tree.nextCodeAfter (topNumber codes) = .ok code) :
    code ∉ codes ↔ ¬ Overtaken codes := by
  obtain ⟨n, hn, rfl⟩ := Tree.nextCodeAfter_eq_ok_iff.mp h
  refine not_congr ⟨fun hmem => ⟨n, hmem, hn⟩, ?_⟩
  rintro ⟨m, hmem, hm⟩
  rwa [UInt64.toNat_inj.mp (hn.trans hm.symm)]

/-- A code that stands highest and also has the highest number is not overtaken. -/
theorem not_overtaken (h : ∀ n, Tree.formatCode n ∈ codes → n ≤ topNumber codes) :
    ¬ Overtaken codes := by
  rintro ⟨n, hmem, hn⟩
  have hle := UInt64.le_iff_toNat_le.mp (h n hmem)
  omega

theorem topNumber_of_topCode? {n : UInt64} (h : topCode? codes = some (Tree.formatCode n)) :
    topNumber codes = n := by
  rw [topNumber, h]
  show (Tree.codeNumber? (Tree.formatCode n)).getD 0 = n
  rw [Tree.codeNumber_formatCode]
  rfl

/-- Codes that were all handed out are overtaken exactly where the highest of them has nines alone,
three or more, and the code behind it, which is longer and begins with a one, is stored too. -/
theorem overtaken_iff (hall : ∀ code ∈ codes, ∃ n, code = Tree.formatCode n) :
    Overtaken codes ↔ ∃ (k : Nat) (m n : UInt64), 3 ≤ k ∧ n.toNat = 10 ^ k ∧ m.toNat + 1 = n.toNat
      ∧ topCode? codes = some (Tree.formatCode m) ∧ Tree.formatCode n ∈ codes := by
  constructor
  · rintro ⟨n, hmem, hn⟩
    obtain ⟨top, htop⟩ := exists_topCode hmem
    obtain ⟨m, rfl⟩ := hall top (mem_of_topCode? htop)
    rw [topNumber_of_topCode? htop] at hn
    have hlength : (Date.padded 3 m.toNat).length ≠ (Date.padded 3 (m.toNat + 1)).length := by
      intro heq
      rw [← hn] at heq
      have hlt := Tree.formatCode_lt (by omega) heq
      exact le_of_topCode? htop hmem hlt
    obtain ⟨k, hk, hpow⟩ := Tree.eq_pow_of_length_ne (by decide) hlength
    exact ⟨k, m, n, hk, hn.trans hpow, hn.symm, htop, hmem⟩
  · rintro ⟨k, m, n, -, -, hn, htop, hmem⟩
    exact ⟨n, hmem, by rw [topNumber_of_topCode? htop, hn]⟩

/-! ### The answer of the database -/

section Session

variable {σ : Type}

/-- In one of its states a database answers the query for the highest code by the order of bytes. -/
def Ranks (backend : Backend σ) (state : σ) (codes : List String) : Prop :=
  ∃ cursor, (backend.query highestQuery state).1 = .ok cursor
    ∧ cursor.remaining = (highestRows codes).map .ok

theorem prepare_highestCode (mode : Mode) :
    prepare mode (.select Tree.table "code" (some highestCode)) = .ok highestQuery := by
  cases mode <;> decide +kernel

/-- The number in the first row of the answer is the number of the highest code. -/
theorem rowNumber_highestRows (codes : List String) :
    rowNumber (highestRows codes).head? = topNumber codes := by
  rw [highestRows, topNumber, topCode?]
  cases descending codes <;> rfl

/-- The next code is the one behind the highest; there is none only behind the last number. -/
theorem runIn_nextCode (executor : Executor σ) (session : Session σ)
    (h : Ranks executor.backend session.state codes) :
    (session.runIn (nextCode executor)).1 = Tree.nextCodeAfter (topNumber codes) := by
  obtain ⟨cursor, hquery, hremaining⟩ := h
  have hfirst : cursor.first = .ok (highestRows codes).head? := by
    rw [Cursor.first_eq, hremaining]
    cases highestRows codes <;> rfl
  have hselect : session.runIn (executor.select Tree.table "code" (some highestCode))
      = (.ok cursor, ⟨(executor.backend.query highestQuery session.state).2,
          session.history ++ [.call highestQuery]⟩) := by
    rw [Executor.select, Executor.query, Executor.prepareFor, prepare_highestCode, pure_bind,
      Session.runIn_call, hquery]
  rw [nextCode, Session.runIn_bind_ok _ hselect]
  simp only [hfirst, rowNumber_highestRows]
  cases Tree.nextCodeAfter (topNumber codes) <;> rfl

/-- Of a database that ranks its codes by their bytes, the next code is the one behind the highest. It
is free exactly when the highest code is not overtaken. That is so whenever the highest code also has
the highest number; of codes that were all handed out, it is so unless the highest has nines alone,
three or more, and the longer code behind it is stored too. -/
theorem nextCode_free_iff (executor : Executor σ) (session : Session σ)
    (h : Ranks executor.backend session.state codes) :
    (session.runIn (nextCode executor)).1 = Tree.nextCodeAfter (topNumber codes)
    ∧ (∀ code, (session.runIn (nextCode executor)).1 = .ok code → (code ∉ codes ↔ ¬ Overtaken codes))
    ∧ ((∀ n, Tree.formatCode n ∈ codes → n ≤ topNumber codes) → ¬ Overtaken codes)
    ∧ ((∀ code ∈ codes, ∃ n, code = Tree.formatCode n) →
        (Overtaken codes ↔ ∃ (k : Nat) (m n : UInt64), 3 ≤ k ∧ n.toNat = 10 ^ k
          ∧ m.toNat + 1 = n.toNat ∧ topCode? codes = some (Tree.formatCode m)
          ∧ Tree.formatCode n ∈ codes)) := by
  have houtcome := runIn_nextCode executor session h
  refine ⟨houtcome, fun code hcode => ?_, not_overtaken, overtaken_iff⟩
  exact notMem_iff_not_overtaken (houtcome.symm.trans hcode)

end Session

/-- A database with nothing but codes. -/
def codesBackend : Backend (List String) where
  execute _ := pure (.ok 0)
  query _ := do
    let codes ← get
    pure (.ok (Cursor.ofRows (highestRows codes)))
  queryRow _ := pure (.ok none)

theorem ranks_codesBackend (codes : List String) : Ranks codesBackend codes codes :=
  ⟨Cursor.ofRows (highestRows codes), rfl, rfl⟩

/-- Codes of one length, with gaps between their numbers. -/
theorem nextCode_free_past_gaps :
    Ranks codesBackend ["C007", "C041"] ["C007", "C041"]
    ∧ (Session.runIn ⟨["C007", "C041"], []⟩ (nextCode ⟨codesBackend, .strict⟩)).1 = .ok "C042"
    ∧ "C042" ∉ ["C007", "C041"] := by
  have hranks := ranks_codesBackend ["C007", "C041"]
  have hnumber : topNumber ["C007", "C041"] = 41 := by decide +kernel
  obtain ⟨houtcome, hfree, -, -⟩ :=
    nextCode_free_iff ⟨codesBackend, .strict⟩ ⟨["C007", "C041"], []⟩ hranks
  have hcode : Tree.nextCodeAfter (topNumber ["C007", "C041"]) = .ok "C042" := by
    rw [hnumber]
    decide +kernel
  refine ⟨hranks, houtcome.trans hcode, (hfree _ (houtcome.trans hcode)).mpr ?_⟩
  rintro ⟨n, hmem, hn⟩
  rw [hnumber] at hn
  obtain rfl : n = 42 := UInt64.toNat_inj.mp hn
  exact absurd hmem (by decide +kernel)

/-- With C1000 stored, C999 still stands highest, and C1000 is handed out again. -/
theorem nextCode_taken :
    Ranks codesBackend ["C1000", "C999"] ["C1000", "C999"]
    ∧ (Session.runIn ⟨["C1000", "C999"], []⟩ (nextCode ⟨codesBackend, .strict⟩)).1 = .ok "C1000"
    ∧ "C1000" ∈ ["C1000", "C999"] := by
  have hranks := ranks_codesBackend ["C1000", "C999"]
  refine ⟨hranks, ?_, by decide⟩
  rw [runIn_nextCode _ _ hranks]
  decide +kernel

end AqlGateway.Relational
