import Mathlib.Algebra.Order.Ring.Nat
import Mathlib.Tactic.Ring
import AqlGateway.Proofs.Text.Utf8

/-!
# The order of bytes

* `encode_ofList` — a text of characters below 128 has one byte for each;
* `ofDigitChars_bounds` — the number of digits behind a number lies in a range that the number of
  digits fixes;
* `digits_lt` — digits of one length have the order of their numbers.
-/

namespace AqlGateway.Text.Utf8

variable {s t : List Char}

/-! ### Bytes -/

/-- The byte of a character below 128. -/
def byte (c : Char) : UInt8 := c.val.toUInt8

theorem encode_ofList (h : ∀ c ∈ s, c.toNat < 128) : encode (String.ofList s) = s.map byte := by
  rw [encode_eq_flatMap, String.toList_ofList]
  induction s with
  | nil => rfl
  | cons c s ih =>
    have hvalue : c.val ≤ 127 := UInt32.le_iff_toNat_le.mpr (Nat.lt_succ_iff.mp (h c (by simp)))
    rw [List.flatMap_cons, ih fun d hd => h d (by simp [hd]),
      String.utf8EncodeChar_eq_singleton (Char.utf8Size_eq_one_iff.mpr hvalue)]
    rfl

/-! ### Digits -/

theorem digit_bounds {c : Char} (h : c.isDigit = true) : 48 ≤ c.toNat ∧ c.toNat ≤ 57 :=
  Char.isDigit_iff_toNat.mp h

theorem toNat_byte {c : Char} (h : c.isDigit = true) : (byte c).toNat = c.toNat := by
  have hbounds := digit_bounds h
  show c.toNat % 256 = c.toNat
  omega

/-- Further digits stay within the last place in front of them. -/
theorem ofDigitChars_bounds (hs : ∀ c ∈ s, c.isDigit = true) (n : Nat) :
    n * 10 ^ s.length ≤ Nat.ofDigitChars 10 s n ∧
      Nat.ofDigitChars 10 s n < (n + 1) * 10 ^ s.length := by
  induction s generalizing n with
  | nil => simp [Nat.ofDigitChars]
  | cons c s ih =>
    rw [Nat.ofDigitChars_cons, List.length_cons]
    have hc := digit_bounds (hs c (by simp))
    have hzero : '0'.toNat = 48 := rfl
    obtain ⟨hlow, hhigh⟩ := ih (fun d hd => hs d (by simp [hd])) (10 * n + (c.toNat - '0'.toNat))
    constructor
    · calc n * 10 ^ (s.length + 1) = 10 * n * 10 ^ s.length := by ring
        _ ≤ (10 * n + (c.toNat - '0'.toNat)) * 10 ^ s.length :=
          Nat.mul_le_mul_right _ (Nat.le_add_right _ _)
        _ ≤ _ := hlow
    · calc _ < (10 * n + (c.toNat - '0'.toNat) + 1) * 10 ^ s.length := hhigh
        _ ≤ (10 * n + 10) * 10 ^ s.length := Nat.mul_le_mul_right _ (by omega)
        _ = (n + 1) * 10 ^ (s.length + 1) := by ring

/-- Digits of one length have the order of their numbers. -/
theorem digits_lt (hlength : s.length = t.length) (hs : ∀ c ∈ s, c.isDigit = true)
    (ht : ∀ c ∈ t, c.isDigit = true) {n : Nat}
    (hlt : Nat.ofDigitChars 10 s n < Nat.ofDigitChars 10 t n) : s.map byte < t.map byte := by
  induction s generalizing t n with
  | nil =>
    rw [List.eq_nil_of_length_eq_zero hlength.symm] at hlt
    exact absurd hlt (Nat.lt_irrefl _)
  | cons a s ih =>
    cases t with
    | nil => exact absurd hlength (by simp)
    | cons b t =>
      have hrest : s.length = t.length := Nat.succ.inj hlength
      have hs' : ∀ c ∈ s, c.isDigit = true := fun c hc => hs c (by simp [hc])
      have ht' : ∀ c ∈ t, c.isDigit = true := fun c hc => ht c (by simp [hc])
      have ha := hs a (by simp)
      have hb := ht b (by simp)
      rw [Nat.ofDigitChars_cons, Nat.ofDigitChars_cons] at hlt
      rw [List.map_cons, List.map_cons, List.cons_lt_cons_iff, UInt8.lt_iff_toNat_lt,
        toNat_byte ha, toNat_byte hb]
      rcases Nat.lt_trichotomy a.toNat b.toNat with hless | heq | hmore
      · exact .inl hless
      · obtain rfl : a = b := Char.toNat_inj.mp heq
        exact .inr ⟨rfl, ih hrest hs' ht' hlt⟩
      · -- The first digit decides: the rest of the smaller one cannot catch up.
        have hzero : '0'.toNat = 48 := rfl
        have hbounds := digit_bounds hb
        have hupper := (ofDigitChars_bounds ht' (10 * n + (b.toNat - '0'.toNat))).2
        have hlower := (ofDigitChars_bounds hs' (10 * n + (a.toNat - '0'.toNat))).1
        have hstep : (10 * n + (b.toNat - '0'.toNat) + 1) * 10 ^ t.length
            ≤ (10 * n + (a.toNat - '0'.toNat)) * 10 ^ s.length := by
          rw [hrest]
          exact Nat.mul_le_mul_right _ (by omega)
        omega

end AqlGateway.Text.Utf8
