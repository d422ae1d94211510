import Mathlib.Data.Nat.Log
import Mathlib.Tactic.Ring
import AqlGateway.Binary64.Basic

/-!
# Whole numbers as doubles

A double has 53 significant bits. A whole number with more of them is rounded to so many; what it is read
back as lies on a grid that gets wider with the number.

* `roundHalfEven_near` — a rounded quotient is off by no more than half a step;
* `spacing`, `nearestWhole` — the grid around a whole number, and the number of the grid next to it;
* `unitsOn_nearestCode` — the magnitude nearest to a whole number is this number of the grid;
* `Representable` — 53 bits with zeros behind them; `nearestWhole_eq_iff` — these numbers stay as they are;
* `truncate_ofInt_eq_iff` — which integers are read back from their doubles;
* `truncate_ofInt_near` — the others are off by no more than 512;
* `truncate_ofInt` — whole numbers up to `2⁵³` of either sign are read back.
-/

namespace AqlGateway.Binary64

/-! ### Rounding to a multiple of a step -/

section Rounding

variable {step : Nat} (hstep : 0 < step)

include hstep

/-- A whole number of steps has no fraction to be rounded. -/
theorem roundHalfEven_mul (n : Nat) : roundHalfEven (n * step) step = n := by
  rw [roundHalfEven, Nat.mul_mod_left, Nat.mul_div_cancel n hstep]
  exact if_pos hstep

/-- A rounded quotient is off by no more than half a step. -/
theorem roundHalfEven_near (n : Nat) :
    2 * (roundHalfEven n step * step) ≤ 2 * n + step ∧
      2 * n ≤ 2 * (roundHalfEven n step * step) + step := by
  have hdivision : n / step * step + n % step = n := by
    rw [Nat.mul_comm]
    exact Nat.div_add_mod n step
  have hrest := Nat.mod_lt n hstep
  have hnext : (n / step + 1) * step = n / step * step + step := Nat.succ_mul _ _
  rw [roundHalfEven]
  split
  · omega
  · split
    · rw [hnext]
      omega
    · split
      · omega
      · rw [hnext]
        omega

theorem le_roundHalfEven {m n : Nat} (h : m * step ≤ n) : m ≤ roundHalfEven n step := by
  by_contra hlt
  have hsteps := Nat.mul_le_mul_right step (Nat.succ_le_of_lt (Nat.not_le.mp hlt))
  rw [Nat.succ_mul] at hsteps
  have hnear := (roundHalfEven_near hstep n).2
  omega

theorem roundHalfEven_le {m n : Nat} (h : n ≤ m * step) : roundHalfEven n step ≤ m := by
  by_contra hlt
  have hsteps := Nat.mul_le_mul_right step (Nat.succ_le_of_lt (Nat.not_le.mp hlt))
  rw [Nat.succ_mul] at hsteps
  have hnear := (roundHalfEven_near hstep n).1
  omega

end Rounding

/-- Finer units change neither the quotient nor how it is rounded. -/
theorem roundHalfEven_scale {k : Nat} (hk : 0 < k) (n step : Nat) :
    roundHalfEven (n * k) (step * k) = roundHalfEven n step := by
  have hrest : 2 * (n % step * k) = 2 * (n % step) * k := (Nat.mul_assoc ..).symm
  rw [roundHalfEven, roundHalfEven, Nat.mul_div_mul_right _ _ hk, Nat.mul_mod_mul_right]
  simp only [hrest, Nat.mul_lt_mul_right hk]

/-! ### The grid around a whole number -/

/-- The distance of the numbers with `width` bits behind their first one, around `n`. -/
def spacing (width n : Nat) : Nat := 2 ^ (n.log2 - width)

/-- The number with `width` bits behind its first one that is nearest to `n`. -/
def nearestWhole (width n : Nat) : Nat := roundHalfEven n (spacing width n) * spacing width n

/-- A number with 53 bits, behind which there are zeros alone. -/
def Representable (n : Nat) : Prop := ∃ m k : Nat, m < 2 ^ 53 ∧ n = m * 2 ^ k

theorem spacing_pos (width n : Nat) : 0 < spacing width n := Nat.two_pow_pos _

theorem log2_lt {n k : Nat} (hk : 0 < k) (hn : n < 2 ^ k) : n.log2 < k := by
  rcases Nat.eq_zero_or_pos n with rfl | hpos
  · exact hk
  · exact (Nat.log2_lt (by omega)).mpr hn

theorem log2_mul_two_pow {n : Nat} (hpos : 0 < n) (k : Nat) : (n * 2 ^ k).log2 = n.log2 + k := by
  have hprod : n * 2 ^ k ≠ 0 := Nat.mul_ne_zero (by omega) (Nat.ne_of_gt (Nat.two_pow_pos k))
  refine (Nat.log2_eq_iff hprod).mpr ⟨?_, ?_⟩
  · rw [Nat.pow_add]
    exact Nat.mul_le_mul_right _ (Nat.log2_self_le (by omega))
  · rw [Nat.add_right_comm, Nat.pow_add]
    exact Nat.mul_lt_mul_of_pos_right Nat.lt_log2_self (Nat.two_pow_pos k)

/-- Numbers with 53 bits are the multiples of their own spacing. -/
theorem spacing_dvd_iff {n : Nat} : spacing 52 n ∣ n ↔ Representable n := by
  constructor
  · rintro ⟨m, hm⟩
    have hbits : spacing 52 n * m < spacing 52 n * 2 ^ 53 := by
      rw [← hm, spacing, ← Nat.pow_add]
      exact Nat.lt_of_lt_of_le Nat.lt_log2_self (Nat.pow_le_pow_right (by decide) (by omega))
    exact ⟨m, n.log2 - 52, Nat.lt_of_mul_lt_mul_left hbits, hm.trans (Nat.mul_comm _ _)⟩
  · rintro ⟨m, k, hm, rfl⟩
    rcases Nat.eq_zero_or_pos m with rfl | hpos
    · simp
    · have hlog : m.log2 < 53 := log2_lt (by decide) hm
      rw [spacing, log2_mul_two_pow hpos]
      exact Dvd.dvd.mul_left (Nat.pow_dvd_pow 2 (by omega)) m

/-- The representable numbers are those that stay as they are. -/
theorem nearestWhole_eq_iff {n : Nat} : nearestWhole 52 n = n ↔ Representable n := by
  rw [← spacing_dvd_iff]
  constructor
  · intro h
    exact Dvd.intro_left _ h
  · intro hdvd
    have hround := roundHalfEven_mul (spacing_pos 52 n) (n / spacing 52 n)
    rw [Nat.div_mul_cancel hdvd] at hround
    rw [nearestWhole, hround, Nat.div_mul_cancel hdvd]

/-! ### The nearest magnitude -/

/-- The code of a magnitude whose significant bits fill their width, the power of two behind them
included. -/
theorem unitsOn_significand {width shift m : Nat} (hlow : 2 ^ width ≤ m) (hhigh : m ≤ 2 ^ (width + 1)) :
    unitsOn width (shift * 2 ^ width + m) = m * 2 ^ shift := by
  have hfull {shift m : Nat} (hlow : 2 ^ width ≤ m) (hhigh : m < 2 ^ (width + 1)) :
      unitsOn width (shift * 2 ^ width + m) = m * 2 ^ shift := by
    obtain ⟨fraction, rfl⟩ := Nat.exists_eq_add_of_le hlow
    have hfraction : fraction < 2 ^ width := by
      rw [Nat.pow_succ] at hhigh
      omega
    have hcode : shift * 2 ^ width + (2 ^ width + fraction) = fraction + (shift + 1) * 2 ^ width := by ring
    rw [unitsOn, Nat.pow_eq, Nat.pow_eq, hcode, Nat.add_mul_div_right _ _ (Nat.two_pow_pos width),
      Nat.add_mul_mod_self_right, Nat.div_eq_of_lt hfraction, Nat.mod_eq_of_lt hfraction]
    simp
  rcases Nat.lt_or_eq_of_le hhigh with hlt | rfl
  · exact hfull hlow hlt
  · -- The power of two is the first magnitude of the next exponent.
    have hnext : shift * 2 ^ width + 2 ^ (width + 1) = (shift + 1) * 2 ^ width + 2 ^ width := by ring
    rw [hnext, hfull (Nat.le_refl _) (Nat.pow_lt_pow_right (by decide) (by omega))]
    ring

section Nearest

variable {width lowest n : Nat} (hlowest : width ≤ lowest)

include hlowest

/-- The significant bits of a whole number, counted in small enough units, and rounded. -/
theorem exists_significand (hpos : 0 < n) :
    ∃ m, 2 ^ width ≤ m ∧ m ≤ 2 ^ (width + 1) ∧
      nearestCode width lowest n 1 = (n.log2 + lowest - width) * 2 ^ width + m ∧
      m * 2 ^ (n.log2 + lowest - width) = nearestWhole width n * 2 ^ lowest := by
  have hlow : 2 ^ n.log2 ≤ n := Nat.log2_self_le (by omega)
  have hhigh : n < 2 ^ (n.log2 + 1) := Nat.lt_log2_self
  have hstep : 0 < 2 ^ (n.log2 + lowest - width) := Nat.two_pow_pos _
  refine ⟨roundHalfEven (n * 2 ^ lowest) (2 ^ (n.log2 + lowest - width)), ?_, ?_, ?_, ?_⟩
  · apply le_roundHalfEven hstep
    calc 2 ^ width * 2 ^ (n.log2 + lowest - width) = 2 ^ n.log2 * 2 ^ lowest := by
          rw [← Nat.pow_add, ← Nat.pow_add]
          congr 1
          omega
      _ ≤ n * 2 ^ lowest := Nat.mul_le_mul_right _ hlow
  · apply roundHalfEven_le hstep
    calc n * 2 ^ lowest ≤ 2 ^ (n.log2 + 1) * 2 ^ lowest := Nat.mul_le_mul_right _ (Nat.le_of_lt hhigh)
      _ = 2 ^ (width + 1) * 2 ^ (n.log2 + lowest - width) := by
          rw [← Nat.pow_add, ← Nat.pow_add]
          congr 1
          omega
  · rw [nearestCode, Nat.pow_eq, Nat.pow_eq, Nat.pow_eq, Nat.div_one, log2_mul_two_pow hpos, Nat.one_mul]
  · by_cases hwide : width ≤ n.log2
    · have hunits : 2 ^ (n.log2 + lowest - width) = spacing width n * 2 ^ lowest := by
        rw [spacing, ← Nat.pow_add]
        congr 1
        omega
      rw [hunits, roundHalfEven_scale (Nat.two_pow_pos lowest), nearestWhole, Nat.mul_assoc]
    · -- A number that is not too wide is a whole number of its units.
      have hone : spacing width n = 1 := by
        rw [spacing, Nat.sub_eq_zero_of_le (by omega), Nat.pow_zero]
      have hself : nearestWhole width n = n := by
        rw [nearestWhole, hone, Nat.mul_one, ← Nat.mul_one n, roundHalfEven_mul Nat.one_pos, Nat.mul_one]
      have hunits : n * 2 ^ lowest
          = n * 2 ^ (width - n.log2) * 2 ^ (n.log2 + lowest - width) := by
        rw [Nat.mul_assoc, ← Nat.pow_add]
        congr 2
        omega
      rw [hself, hunits, roundHalfEven_mul hstep]

/-- The magnitude nearest to a whole number is the number of the grid that is nearest to it. -/
theorem unitsOn_nearestCode (n : Nat) :
    unitsOn width (nearestCode width lowest n 1) = nearestWhole width n * 2 ^ lowest := by
  rcases Nat.eq_zero_or_pos n with rfl | hpos
  · simp [nearestCode, nearestWhole, roundHalfEven, unitsOn]
  · obtain ⟨m, hlow, hhigh, hcode, hunits⟩ := exists_significand hlowest hpos
    rw [hcode, unitsOn_significand hlow hhigh, hunits]

theorem nearestCode_le (n : Nat) : nearestCode width lowest n 1 ≤ (n.log2 + lowest + 2) * 2 ^ width := by
  rcases Nat.eq_zero_or_pos n with rfl | hpos
  · simp [nearestCode, roundHalfEven]
  · obtain ⟨m, -, hhigh, hcode, -⟩ := exists_significand hlowest hpos
    rw [hcode]
    calc (n.log2 + lowest - width) * 2 ^ width + m ≤ (n.log2 + lowest) * 2 ^ width + 2 ^ (width + 1) :=
          Nat.add_le_add (Nat.mul_le_mul_right _ (by omega)) hhigh
      _ = (n.log2 + lowest + 2) * 2 ^ width := by ring

end Nearest

/-! ### There and back -/

theorem unitsInOne_eq : unitsInOne = 2 ^ unitPlaces := by
  delta unitsInOne
  rw [Nat.pow_eq]

/-- Clamping goes to the nearer end of the range. -/
theorem toInt_clamp64 (n : Int) :
    (clamp64 n).toInt = max (-9223372036854775808) (min n 9223372036854775807) := by
  have hmin : Int64.minValue.toInt = -9223372036854775808 := by decide
  have hmax : Int64.maxValue.toInt = 9223372036854775807 := by decide
  rw [clamp64, hmin, hmax]
  split
  · omega
  · split
    · omega
    · rw [Int64.toInt_ofInt_of_le (by omega) (by omega)]
      omega

/-- The whole part of the double of a whole number is the number of the grid that is nearest to it. -/
theorem truncate_ofInt_eq {n : Int} (hn : n.natAbs < 2 ^ 64) :
    (ofInt n).truncate = clamp64 (if n < 0 then -(nearestWhole 52 n.natAbs : Int)
      else nearestWhole 52 n.natAbs) := by
  have hlog : n.natAbs.log2 < 64 := log2_lt (by decide) hn
  have hfits : nearestCode 52 unitPlaces n.natAbs 1 < codeCount :=
    Nat.lt_of_le_of_lt (nearestCode_le (by decide) _)
      (Nat.mul_lt_mul_of_pos_right (by rw [unitPlaces]; omega) (Nat.two_pow_pos 52))
  have hwhole : wholePart (nearestCode 52 unitPlaces n.natAbs 1) = nearestWhole 52 n.natAbs := by
    rw [wholePart, unitsOf, unitsOn_nearestCode (by decide), unitsInOne_eq,
      Nat.mul_div_cancel _ (Nat.two_pow_pos unitPlaces)]
  rw [ofInt, ofRatio, if_neg Nat.one_ne_zero, ofCode, dif_pos hfits, truncate]
  simp only [decide_eq_true_eq, hwhole]

/-- Rounding does not lead beyond a power of two. -/
theorem nearestWhole_le {n : Nat} (hn : n ≤ 2 ^ 63) : nearestWhole 52 n ≤ 2 ^ 63 := by
  have hlog : n.log2 < 64 := log2_lt (by decide) (by omega)
  have hgrid : 2 ^ (63 - (n.log2 - 52)) * spacing 52 n = 2 ^ 63 := by
    rw [spacing, ← Nat.pow_add]
    congr 1
    omega
  have hround : roundHalfEven n (spacing 52 n) ≤ 2 ^ (63 - (n.log2 - 52)) :=
    roundHalfEven_le (spacing_pos 52 n) (hgrid ▸ hn)
  calc nearestWhole 52 n ≤ 2 ^ (63 - (n.log2 - 52)) * spacing 52 n := Nat.mul_le_mul_right _ hround
    _ = 2 ^ 63 := hgrid

/-- A 64-bit integer is the whole part of its double exactly if it is representable, or the largest of
all, at which the range ends. -/
theorem truncate_ofInt_eq_iff (n : Int64) :
    (ofInt n.toInt).truncate = n ↔ Representable n.toInt.natAbs ∨ n = Int64.maxValue := by
  have hlow : -9223372036854775808 ≤ n.toInt := n.minValue_le_toInt
  have hhigh : n.toInt ≤ 9223372036854775807 := n.toInt_le
  have hround : nearestWhole 52 n.toInt.natAbs ≤ 2 ^ 63 := nearestWhole_le (by omega)
  rw [← nearestWhole_eq_iff, ← Int64.toInt_inj, ← Int64.toInt_inj, truncate_ofInt_eq (by omega),
    toInt_clamp64, Int64.toInt_maxValue]
  constructor
  · intro h
    split at h <;> omega
  · rintro (hexact | hmax)
    · split <;> omega
    · -- The largest integer is rounded beyond the range, and held at its end.
      have hbeyond : nearestWhole 52 9223372036854775807 = 2 ^ 63 := by decide +kernel
      rw [hmax]
      show max _ (min ((nearestWhole 52 9223372036854775807 : Nat) : Int) _) = _
      rw [hbeyond]
      decide

/-- What is lost of a 64-bit integer is no more than half the distance between the largest doubles in
the range. -/
theorem truncate_ofInt_near (n : Int64) : ((ofInt n.toInt).truncate.toInt - n.toInt).natAbs ≤ 512 := by
  have hlow : -9223372036854775808 ≤ n.toInt := n.minValue_le_toInt
  have hhigh : n.toInt ≤ 9223372036854775807 := n.toInt_le
  by_cases hend : n.toInt.natAbs = 2 ^ 63
  · have hexact : (ofInt n.toInt).truncate = n :=
      (truncate_ofInt_eq_iff n).mpr (.inl ⟨1, 63, by decide, hend⟩)
    rw [hexact, Int.sub_self]
    decide
  · have hlog : n.toInt.natAbs.log2 < 63 := log2_lt (by decide) (by omega)
    have hspacing : spacing 52 n.toInt.natAbs ≤ 2 ^ 10 := Nat.pow_le_pow_right (by decide) (by omega)
    have hnear : 2 * nearestWhole 52 n.toInt.natAbs ≤ 2 * n.toInt.natAbs + spacing 52 n.toInt.natAbs ∧
        2 * n.toInt.natAbs ≤ 2 * nearestWhole 52 n.toInt.natAbs + spacing 52 n.toInt.natAbs :=
      roundHalfEven_near (spacing_pos 52 _) _
    rw [truncate_ofInt_eq (by omega), toInt_clamp64]
    split <;> omega

/-- A whole number within `2⁵³` of zero is the whole part of its double. -/
theorem truncate_ofInt {n : Int64} (hn : n.toInt.natAbs ≤ 2 ^ 53) : (ofInt n.toInt).truncate = n := by
  apply (truncate_ofInt_eq_iff n).mpr
  left
  rcases Nat.lt_or_eq_of_le hn with hlt | heq
  · exact ⟨_, 0, hlt, (Nat.mul_one _).symm⟩
  · exact ⟨2 ^ 52, 1, by decide, heq⟩

/-- The largest number up to which all are read back, and the next one. -/
example : (ofInt 9007199254740992).truncate = 9007199254740992 ∧
    (ofInt 9007199254740993).truncate = 9007199254740992 := by decide +kernel

end AqlGateway.Binary64
