import AqlGateway.Proofs.Calendar.Digits
import AqlGateway.Proofs.Text.ByteOrder
import AqlGateway.Tree.Code

/-!
# Codes and their numbers

* `HasNumber` — the rule: `C`, then a run of digits, as long as possible, that spells the number;
* `codeNumber?_eq_some_iff` — the number of a code is the one that follows the rule, if it fits 64 bits;
* `hasNumber_formatCode`, `codeNumber_formatCode` — the number of a written code is read back;
* `formatCode_lt` — codes of one length have the order of their numbers;
* `eq_pow_of_length_ne` — a code is not as long as the next one only where the number of the next one
  is a power of ten;
* `nextCodeAfter_eq_ok_iff`, `nextCodeAfter_eq_error_iff` — the next code has the next number, which only
  the largest number lacks;
* `codes_numbered` — codes and 64-bit numbers correspond.
-/

namespace AqlGateway.Tree

open Date Text Text.Utf8

variable {n : Nat}

/-! ### Written numbers -/

/-- A number is longer than the one before only if it is a power of ten. -/
theorem eq_pow_of_length_ne {width : Nat} (hwidth : 0 < width)
    (h : (Date.padded width n).length ≠ (Date.padded width (n + 1)).length) :
    ∃ k, width ≤ k ∧ n + 1 = 10 ^ k := by
  refine ⟨(Date.padded width n).length, ?_, ?_⟩
  · rw [length_padded]
    exact Nat.le_max_left _ _
  · have hlength {k : Nat} (hk : 0 < k) (m : Nat) :
        (Nat.toDigits 10 m).length ≤ k ↔ m < 10 ^ k :=
      Nat.length_toDigits_le_iff (by decide) hk
    rw [length_padded, length_padded] at h
    rw [length_padded]
    have hpos : 0 < max width (Nat.toDigits 10 n).length := by omega
    have hlow := (hlength hpos n).mp (Nat.le_max_right _ _)
    have hmono : (Nat.toDigits 10 n).length ≤ (Nat.toDigits 10 (n + 1)).length := by
      have hnext := Nat.length_toDigits_pos (b := 10) (n := n + 1)
      exact (hlength hnext n).mpr (Nat.lt_of_succ_lt ((hlength hnext (n + 1)).mp (Nat.le_refl _)))
    have hhigh : ¬ n + 1 < 10 ^ max width (Nat.toDigits 10 n).length := by
      intro hlt
      have hfits := (hlength hpos (n + 1)).mpr hlt
      omega
    omega

/-! ### The number of a code -/

/-- A code has a number when its `C` is in front of digits that spell it and of no further digit. -/
def HasNumber (code : String) (n : Nat) : Prop :=
  ∃ digits rest, code.toList = 'C' :: (digits ++ rest) ∧ digits ≠ [] ∧
    (∀ c ∈ digits, c.isDigit = true) ∧ Stops Char.isDigit rest ∧ Nat.ofDigitChars 10 digits 0 = n

/-- Digits have a 64-bit number if there are any and what they spell fits. -/
theorem wordOfDigits?_eq_some_iff {digits : List Char} {n : UInt64} :
    wordOfDigits? digits = some n ↔ digits ≠ [] ∧ Nat.ofDigitChars 10 digits 0 = n.toNat := by
  rw [wordOfDigits?, ← number_eq_ofDigitChars, ← List.isEmpty_eq_false_iff]
  cases digits.isEmpty with
  | true => simp
  | false =>
    by_cases hfits : number digits < UInt64.size
    · have hnumber : (UInt64.ofNat (number digits)).toNat = number digits :=
        UInt64.toNat_ofNat_of_lt' hfits
      simp only [Bool.false_eq_true, if_false, if_pos hfits, Option.some.injEq, true_and]
      rw [← UInt64.toNat_inj, hnumber]
    · have hsize := n.toNat_lt_size
      simp only [Bool.false_eq_true, if_false, if_neg hfits, true_and]
      constructor
      · intro h
        exact absurd h (by simp)
      · intro h
        omega

/-- The number of a code is the one that its digits spell, if it fits 64 bits. -/
theorem codeNumber?_eq_some_iff {code : String} {n : UInt64} :
    codeNumber? code = some n ↔ HasNumber code n.toNat := by
  rw [codeNumber?, HasNumber]
  constructor
  · intro h
    split at h
    · next s hcode =>
      obtain ⟨hne, hn⟩ := wordOfDigits?_eq_some_iff.mp h
      refine ⟨s.takeWhile Char.isDigit, s.dropWhile Char.isDigit, ?_, hne, ?_, stops_dropWhile, hn⟩
      · rw [List.takeWhile_append_dropWhile]
        exact hcode
      · exact fun c hc => mem_takeWhile hc
    · exact absurd h (by simp)
  · rintro ⟨digits, rest, hcode, hne, hdigits, hrest, hn⟩
    rw [hcode]
    show wordOfDigits? ((digits ++ rest).takeWhile Char.isDigit) = some n
    rw [takeWhile_run hdigits hrest]
    exact wordOfDigits?_eq_some_iff.mpr ⟨hne, hn⟩

/-! ### Codes -/

/-- A written code has its number, whatever follows that is no digit. -/
theorem hasNumber_formatCode (n : UInt64) (rest : String) (hrest : Stops Char.isDigit rest.toList) :
    HasNumber (formatCode n ++ rest) n.toNat := by
  refine ⟨padded 3 n.toNat, rest.toList, ?_, padded_ne_nil 3 _, fun _ hc => isDigit_of_mem_padded hc,
    hrest, ofDigitChars_padded 3 _⟩
  rw [formatCode, String.toList_append, String.toList_ofList, List.cons_append]

/-- The number of a written code is read back. -/
theorem codeNumber_formatCode (n : UInt64) : codeNumber? (formatCode n) = some n := by
  have hnumber := hasNumber_formatCode n "" stops_nil
  rw [String.append_empty] at hnumber
  exact codeNumber?_eq_some_iff.mpr hnumber

theorem encode_formatCode (n : UInt64) :
    encode (formatCode n) = byte 'C' :: (Date.padded 3 n.toNat).map byte := by
  rw [formatCode, encode_ofList, List.map_cons]
  intro c hc
  rcases List.mem_cons.mp hc with rfl | hc
  · decide
  · exact Nat.lt_of_le_of_lt (digit_bounds (isDigit_of_mem_padded hc)).2 (by decide)

/-- Codes of one length have the order of their numbers. -/
theorem formatCode_lt {m n : UInt64} (hlt : m.toNat < n.toNat)
    (hlength : (Date.padded 3 m.toNat).length = (Date.padded 3 n.toNat).length) :
    encode (formatCode m) < encode (formatCode n) := by
  rw [encode_formatCode, encode_formatCode, List.cons_lt_cons_iff]
  refine .inr ⟨rfl, digits_lt hlength (fun _ => isDigit_of_mem_padded)
    (fun _ => isDigit_of_mem_padded) (n := 0) ?_⟩
  rwa [ofDigitChars_padded, ofDigitChars_padded]

/-! ### The next code -/

theorem nextCodeAfter_eq_ok_iff {m : UInt64} {code : String} :
    nextCodeAfter m = .ok code ↔
      ∃ n : UInt64, n.toNat = m.toNat + 1 ∧ code = formatCode n := by
  rw [nextCodeAfter]
  split
  · next hlt =>
    have hnext : (m + 1).toNat = m.toNat + 1 := by
      rw [UInt64.toNat_add]
      exact Nat.mod_eq_of_lt hlt
    constructor
    · intro h
      exact ⟨m + 1, hnext, (Except.ok.inj h).symm⟩
    · rintro ⟨n, hn, rfl⟩
      rw [UInt64.toNat_inj.mp (hn.trans hnext.symm)]
  · next hge =>
    refine ⟨fun h => absurd h (by simp), ?_⟩
    rintro ⟨n, hn, -⟩
    have hsize := n.toNat_lt_size
    omega

/-- There is no code behind the one with the largest number. -/
theorem nextCodeAfter_eq_error_iff {m : UInt64} {e : Error} :
    nextCodeAfter m = .error e ↔ m = 18446744073709551615 ∧ e = .codesExhausted m := by
  have hlargest : m = 18446744073709551615 ↔ ¬ m.toNat + 1 < UInt64.size := by
    have hsize := m.toNat_lt_size
    rw [← UInt64.toNat_inj]
    show m.toNat = 18446744073709551615 ↔ ¬ m.toNat + 1 < 18446744073709551616
    rw [show UInt64.size = 18446744073709551616 from rfl] at hsize
    omega
  rw [nextCodeAfter, hlargest]
  split
  · next hlt => simp [hlt]
  · next hge => simp [hge, eq_comm]

/-- Every number but the largest has a next code. -/
theorem exists_nextCode {m : UInt64} (h : m ≠ 18446744073709551615) :
    ∃ n : UInt64, n.toNat = m.toNat + 1 ∧ nextCodeAfter m = .ok (formatCode n) := by
  cases hnext : nextCodeAfter m with
  | error e => exact absurd (nextCodeAfter_eq_error_iff.mp hnext).1 h
  | ok code =>
    obtain ⟨n, hn, hcode⟩ := nextCodeAfter_eq_ok_iff.mp hnext
    exact ⟨n, hn, by rw [hcode]⟩

/-- Codes and 64-bit numbers correspond. A written code has its number, whatever text without a leading
digit is behind it, so no two numbers have the same code. A text has a number exactly when its digits
spell one that fits. Every number but the largest is followed by a code with the next one. -/
theorem codes_numbered :
    (∀ (n : UInt64) (rest : String), Stops Char.isDigit rest.toList →
      codeNumber? (formatCode n ++ rest) = some n) ∧
      Function.Injective formatCode ∧
      (∀ (code : String) (n : UInt64), codeNumber? code = some n ↔ HasNumber code n.toNat) ∧
      ∀ m : UInt64,
        (nextCodeAfter m = .error (.codesExhausted m) ↔ m = 18446744073709551615) ∧
        (m ≠ 18446744073709551615 → ∃ (code : String) (n : UInt64), nextCodeAfter m = .ok code ∧
          codeNumber? code = some n ∧ n.toNat = m.toNat + 1) := by
  refine ⟨?_, ?_, fun code n => codeNumber?_eq_some_iff, fun m => ⟨?_, ?_⟩⟩
  · intro n rest hrest
    exact codeNumber?_eq_some_iff.mpr (hasNumber_formatCode n rest hrest)
  · intro m n h
    have hnumber := codeNumber_formatCode m
    rw [h, codeNumber_formatCode] at hnumber
    exact (Option.some.inj hnumber).symm
  · rw [nextCodeAfter_eq_error_iff]
    exact and_iff_left rfl
  · intro hm
    obtain ⟨n, hn, hcode⟩ := exists_nextCode hm
    exact ⟨formatCode n, n, hcode, codeNumber_formatCode n, hn⟩

/-- The number in front of the largest one and a text behind its code. -/
theorem codes_numbered_last :
    let last : UInt64 := 18446744073709551614
    Stops Char.isDigit " (12)".toList ∧ codeNumber? (formatCode last ++ " (12)") = some last ∧
      last ≠ 18446744073709551615 ∧
      ∃ (code : String) (n : UInt64), nextCodeAfter last = .ok code ∧ codeNumber? code = some n ∧
        n.toNat = 18446744073709551615 := by
  intro last
  have hrest : Stops Char.isDigit " (12)".toList := by decide
  have hlast : last ≠ 18446744073709551615 := by decide
  obtain ⟨hread, -, -, hnext⟩ := codes_numbered
  exact ⟨hrest, hread last _ hrest, hlast, (hnext last).2 hlast⟩

end AqlGateway.Tree
