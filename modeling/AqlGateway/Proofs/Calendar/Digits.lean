import Mathlib.Algebra.Order.Ring.Nat
import AqlGateway.Calendar.Instant
import AqlGateway.Proofs.Text.Trim

/-!
# Numbers with zeros in front

* `number_padded` — the digits of a number spell the number, whatever zeros are in front of them;
* `length_padded`, `length_padded_of_lt` — how many digits there are;
* `readNumber?_padded`, `readDigits?_padded` — the number is read where it is written.
-/

namespace AqlGateway.Date

open Text

variable {width n : Nat} {s r : List Char}

/-! ### Writing -/

theorem number_eq_ofDigitChars (digits : List Char) :
    number digits = Nat.ofDigitChars 10 digits 0 := by
  unfold number Nat.ofDigitChars
  congr 1
  funext n c
  rw [Nat.mul_comm]

theorem isDigit_of_mem_padded {c : Char} (hc : c ∈ padded width n) : c.isDigit = true := by
  rw [padded, List.mem_append, List.mem_replicate] at hc
  rcases hc with ⟨-, rfl⟩ | hc
  · decide
  · exact Nat.isDigit_of_mem_toDigits (by decide) (by decide) hc

theorem length_padded (width n : Nat) :
    (padded width n).length = max width (Nat.toDigits 10 n).length := by
  rw [padded, List.length_append, List.length_replicate]
  omega

theorem length_padded_of_lt (hwidth : 0 < width) (hn : n < 10 ^ width) :
    (padded width n).length = width := by
  have hdigits := (Nat.length_toDigits_le_iff (by decide) hwidth).mpr hn
  rw [length_padded]
  omega

theorem padded_ne_nil (width n : Nat) : padded width n ≠ [] :=
  List.append_ne_nil_of_right_ne_nil _ Nat.toDigits_ne_nil

theorem ofDigitChars_zeros (count : Nat) (s : List Char) :
    Nat.ofDigitChars 10 (List.replicate count '0' ++ s) 0 = Nat.ofDigitChars 10 s 0 := by
  induction count with
  | zero => rfl
  | succ count ih =>
    rw [List.replicate_succ, List.cons_append, Nat.ofDigitChars_cons]
    exact ih

/-- A padded number spells the number. -/
theorem ofDigitChars_padded (width n : Nat) : Nat.ofDigitChars 10 (padded width n) 0 = n := by
  rw [padded, ofDigitChars_zeros, Nat.ofDigitChars_toDigits (by decide) (by decide)]

theorem number_padded (width n : Nat) : number (padded width n) = n := by
  rw [number_eq_ofDigitChars, ofDigitChars_padded]

/-! ### Reading -/

theorem takeWhile_padded (hr : Stops Char.isDigit r) :
    (padded width n ++ r).takeWhile Char.isDigit = padded width n :=
  takeWhile_run (fun _ hc => isDigit_of_mem_padded hc) hr

theorem takeWhile_padded_self (width n : Nat) :
    (padded width n).takeWhile Char.isDigit = padded width n := by
  have hrun : (padded width n ++ []).takeWhile Char.isDigit = padded width n :=
    takeWhile_padded stops_nil
  rwa [List.append_nil] at hrun

theorem isBlank_of_isDigit {c : Char} (hc : c.isDigit = true) : isBlank c = false := by
  have hbounds : 48 ≤ c.toNat ∧ c.toNat ≤ 57 := Char.isDigit_iff_toNat.mp hc
  simp only [isBlank, Bool.or_eq_false_iff, Bool.and_eq_false_iff, decide_eq_false_iff_not,
    beq_eq_false_iff_ne]
  omega

/-- A number has no blanks in front. -/
theorem trimStart_padded (width n : Nat) (r : List Char) :
    trimStart (padded width n ++ r) = padded width n ++ r := by
  refine dropWhile_of_stops (stops_append (fun c hc => ?_) (padded_ne_nil width n))
  exact isBlank_of_isDigit (isDigit_of_mem_padded (List.mem_of_mem_head? hc))

/-- A number in its full width is read back, even in front of further digits. -/
theorem readNumber?_padded (hwidth : 0 < width) (hn : n < 10 ^ width) (r : List Char) :
    readNumber? width (padded width n ++ r) = some (n, r) := by
  have hlength := length_padded_of_lt hwidth hn
  have htake : (padded width n ++ r).take width = padded width n := List.take_left' hlength
  rw [readNumber?, htake, takeWhile_padded_self, number_padded, List.drop_left]
  exact if_neg (by simpa using padded_ne_nil width n)

theorem readPair?_padded (hn : n < 100) (r : List Char) :
    readPair? (padded 2 n ++ r) = some (n, r) := by
  rw [readPair?, trimStart_padded, readNumber?_padded (by decide) hn]

theorem behind?_mark (mark : Char) (s : List Char) : behind? false mark (mark :: s) = some s :=
  if_pos rfl

end AqlGateway.Date

namespace AqlGateway.Instant

open Date

variable {width n : Nat}

theorem readDigits?_padded (hwidth : 0 < width) (hn : n < 10 ^ width) (r : List Char) :
    readDigits? width (padded width n ++ r) = some (n, r) := by
  have hlength := length_padded_of_lt hwidth hn
  have htake : (padded width n ++ r).take width = padded width n := List.take_left' hlength
  have hall : (padded width n).all Char.isDigit = true :=
    List.all_eq_true.mpr fun _ hc => isDigit_of_mem_padded hc
  rw [readDigits?, htake, if_pos ⟨hlength, hall⟩, number_padded, List.drop_left' hlength]

end AqlGateway.Instant
