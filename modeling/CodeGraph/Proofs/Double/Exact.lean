import Mathlib.Algebra.Order.Field.Basic
import Mathlib.Algebra.Order.Ring.Rat
import CodeGraph.Proofs.Double.Range

/-!
# The values of doubles

Every finite double is its own nearest double (`scaledMagnitude_unitsOf`).  As rounding is monotone,
a whole number that is at most a double rounds to one that is (`rank_ofInt_le`), so that whole
numbers and doubles keep their order when the former are rounded.  They become equal if rounding
moves one onto the other (`RoundedOnto`), and otherwise the order is that of their values
(`compare_rank_ofInt_iff`).  Up to `2 ^ 53` nothing is moved (`toRat_ofInt`).
-/

namespace CodeGraph.Double

variable {x y : Double} {i : Int}

/-! ### Magnitudes -/

/-- **A number of units that is a double is its own nearest double.** -/
theorem scaledMagnitude_unitsOf (magnitude : Nat) :
    scaledMagnitude (unitsOf magnitude) 1 = magnitude := by
  have hPos : 0 < runLength := by decide
  rw [unitsOf]
  split
  · next hSmall =>
    have hRun : magnitude.log2 - 52 = 0 := by
      by_cases hZero : magnitude = 0
      · rw [hZero, Nat.log2_zero]
      · have hLog := (Nat.log2_lt hZero).2 (runLength_eq ▸ hSmall)
        omega
    have hRound := roundDiv_mul magnitude Nat.one_pos
    rw [Nat.mul_one] at hRound
    simp only [scaledMagnitude, Nat.div_one, hRun, Nat.zero_mul, Nat.zero_add, Nat.shiftLeft_zero,
      hRound]
  · next hLarge =>
    have hMod := Nat.mod_lt magnitude hPos
    have hQuotient : 1 ≤ magnitude / runLength :=
      (Nat.le_div_iff_mul_le hPos).2 (by omega)
    have hExact := @scaledMagnitude_exact (runLength + magnitude % runLength)
      (magnitude / runLength - 1) 1 Nat.one_pos (Nat.le_add_right _ _) (by omega)
    rw [Nat.shiftLeft_eq, ← Nat.mul_one (_ * 2 ^ _), hExact, ← Nat.add_assoc,
      ← Nat.succ_mul, Nat.succ_eq_add_one, Nat.sub_add_cancel hQuotient]
    exact Nat.div_add_mod' magnitude runLength

theorem unitsOf_injective : Function.Injective unitsOf :=
  Function.LeftInverse.injective (g := (scaledMagnitude · 1)) scaledMagnitude_unitsOf

theorem nearestMagnitude_le {n magnitude : Nat} (h : n * unitsInOne ≤ unitsOf magnitude) :
    nearestMagnitude n 1 ≤ magnitude := by
  rw [nearestMagnitude_eq, ← scaledMagnitude_unitsOf magnitude]
  exact scaledMagnitude_mono Nat.one_pos h

theorem le_nearestMagnitude {n magnitude : Nat} (h : unitsOf magnitude ≤ n * unitsInOne) :
    magnitude ≤ nearestMagnitude n 1 := by
  rw [nearestMagnitude_eq, ← scaledMagnitude_unitsOf magnitude]
  exact scaledMagnitude_mono Nat.one_pos h

/-! ### Values -/

def toRat (x : Double) : ℚ := x.units / unitsInOne

theorem le_toRat_iff : (i : ℚ) ≤ x.toRat ↔ i * unitsInOne ≤ x.units := by
  have hPos : (0 : ℚ) < (unitsInOne : ℚ) := by exact_mod_cast unitsInOne_pos
  rw [toRat, le_div_iff₀ hPos]
  exact_mod_cast Iff.rfl

theorem toRat_le_iff : x.toRat ≤ (i : ℚ) ↔ x.units ≤ i * unitsInOne := by
  have hPos : (0 : ℚ) < (unitsInOne : ℚ) := by exact_mod_cast unitsInOne_pos
  rw [toRat, div_le_iff₀ hPos]
  exact_mod_cast Iff.rfl

theorem toRat_inj : x.toRat = y.toRat ↔ x.units = y.units := by
  have hNe : (unitsInOne : ℚ) ≠ 0 := by exact_mod_cast unitsInOne_pos.ne'
  rw [toRat, toRat, div_left_inj' hNe]
  exact_mod_cast Iff.rfl

theorem unitsOf_eq_zero {magnitude : Nat} (h : unitsOf magnitude = 0) : magnitude = 0 :=
  unitsOf_injective (h.trans (by decide : 0 = unitsOf 0))

/-- **Doubles have one value just if they are numerically equal.** -/
theorem toRat_eq_iff : x.toRat = y.toRat ↔ x.rank = y.rank := by
  have hSame : unitsOf x.magnitude = unitsOf y.magnitude ↔ x.magnitude = y.magnitude :=
    unitsOf_injective.eq_iff
  have hx : unitsOf x.magnitude = 0 ↔ x.magnitude = 0 :=
    ⟨unitsOf_eq_zero, fun h => by rw [h]; rfl⟩
  have hy : unitsOf y.magnitude = 0 ↔ y.magnitude = 0 :=
    ⟨unitsOf_eq_zero, fun h => by rw [h]; rfl⟩
  rw [toRat_inj, units, units, rank, rank]
  split <;> split <;> omega

@[simp] theorem units_neg (x : Double) : x.neg.units = -x.units := by
  cases h : x.negative <;> simp [units, neg, h]

@[simp] theorem rank_neg (x : Double) : x.neg.rank = -x.rank := by
  cases h : x.negative <;> simp [rank, neg, h]

/-! ### Whole numbers -/

theorem rank_ofInt (i : Int) : (ofInt i).rank =
    if i < 0 then -((min (nearestMagnitude i.natAbs 1) top : Nat) : Int)
    else ((min (nearestMagnitude i.natAbs 1) top : Nat) : Int) := by
  simp only [ofInt, nearest, ofMagnitude, rank, decide_eq_true_eq]

theorem nearestMagnitude_zero : nearestMagnitude 0 1 = 0 :=
  Nat.le_zero.1 (nearestMagnitude_le (by rw [Nat.zero_mul]; exact Nat.zero_le _))

theorem rank_ofInt_neg (i : Int) : (ofInt (-i)).rank = -(ofInt i).rank := by
  rw [rank_ofInt, rank_ofInt, Int.natAbs_neg]
  rcases Int.lt_trichotomy i 0 with hlt | rfl | hgt
  · rw [if_neg (by omega), if_pos hlt, Int.neg_neg]
  · rw [Int.natAbs_zero, nearestMagnitude_zero]
    rfl
  · rw [if_pos (by omega), if_neg (by omega)]

/-- **A whole number that is at most a double rounds to one that is.** -/
theorem rank_ofInt_le (hFinite : y.isFinite = true) (h : (i : ℚ) ≤ y.toRat) :
    (ofInt i).rank ≤ y.rank := by
  have hTop : y.magnitude < top := by simpa [isFinite] using hFinite
  rw [le_toRat_iff, units] at h
  rw [rank_ofInt, rank]
  by_cases hi : i < 0
  · have hAbs : ((i.natAbs * unitsInOne : Nat) : Int) = -(i * unitsInOne) := by
      rw [Nat.cast_mul, Int.ofNat_natAbs_of_nonpos (Int.le_of_lt hi), Int.neg_mul]
    rw [if_pos hi]
    by_cases hSign : y.negative = true
    · rw [if_pos hSign] at h ⊢
      have hLe := @le_nearestMagnitude i.natAbs y.magnitude (by omega)
      omega
    · rw [if_neg hSign]
      omega
  · have hAbs : ((i.natAbs * unitsInOne : Nat) : Int) = i * unitsInOne := by
      rw [Nat.cast_mul, Int.natAbs_of_nonneg (by omega)]
    rw [if_neg hi]
    by_cases hSign : y.negative = true
    · -- the double is at most zero and at least the number, so both are zero
      rw [if_pos hSign] at h ⊢
      have hZero := @unitsOf_eq_zero y.magnitude (by omega)
      have hLe := @nearestMagnitude_le i.natAbs 0 (by omega)
      omega
    · rw [if_neg hSign] at h ⊢
      have hLe := @nearestMagnitude_le i.natAbs y.magnitude (by omega)
      omega

theorem rank_le_rank_ofInt (hFinite : y.isFinite = true) (h : y.toRat ≤ (i : ℚ)) :
    y.rank ≤ (ofInt i).rank := by
  have hNeg : ((-i : Int) : ℚ) ≤ y.neg.toRat := by
    rw [toRat_le_iff] at h
    rw [le_toRat_iff, units_neg, Int.neg_mul]
    exact Int.neg_le_neg h
  have hLe := rank_ofInt_le (y := y.neg) hFinite hNeg
  rw [rank_ofInt_neg, rank_neg] at hLe
  omega

/-- The whole number is rounded to the value of the double, and has another value. -/
def RoundedOnto (i : Int) (y : Double) : Prop := (ofInt i).toRat = y.toRat ∧ (i : ℚ) ≠ y.toRat

/-- **A whole number that is rounded is compared as it is, unless it is rounded onto the other.** -/
theorem compare_rank_ofInt_iff (hFinite : y.isFinite = true) :
    compare (ofInt i).rank y.rank = compare (i : ℚ) y.toRat ↔ ¬RoundedOnto i y := by
  rw [RoundedOnto, toRat_eq_iff]
  rcases lt_trichotomy (i : ℚ) y.toRat with hlt | heq | hgt
  · have hLe := rank_ofInt_le hFinite hlt.le
    rw [compare_lt_iff_lt.2 hlt, compare_lt_iff_lt]
    constructor
    · exact fun hLt h => hLt.ne h.1
    · exact fun h => lt_of_le_of_ne hLe fun hEq => h ⟨hEq, hlt.ne⟩
  · have hEq := le_antisymm (rank_ofInt_le hFinite heq.le) (rank_le_rank_ofInt hFinite heq.ge)
    rw [compare_eq_iff_eq.2 heq, compare_eq_iff_eq]
    exact iff_of_true hEq fun h => h.2 heq
  · have hLe := rank_le_rank_ofInt hFinite hgt.le
    rw [compare_gt_iff_gt.2 hgt, compare_gt_iff_gt]
    constructor
    · exact fun hLt h => hLt.ne' h.1
    · exact fun h => lt_of_le_of_ne hLe fun hEq => h ⟨hEq.symm, hgt.ne'⟩

/-! ### Numbers that are not moved -/

theorem unitsOf_exact {digits run : Nat} (hLow : runLength ≤ digits)
    (hHigh : digits < 2 * runLength) : unitsOf (run * runLength + digits) = digits * 2 ^ run := by
  have hPos : 0 < runLength := by decide
  have hSum : run * runLength + digits = (digits - runLength) + runLength * (run + 1) := by
    rw [Nat.mul_add, Nat.mul_one, Nat.mul_comm runLength run]
    omega
  have hRest : digits - runLength < runLength := by omega
  rw [unitsOf, if_neg (by omega), hSum, Nat.add_mul_mod_self_left, Nat.add_mul_div_left _ _ hPos,
    Nat.mod_eq_of_lt hRest, Nat.div_eq_of_lt hRest, Nat.zero_add, Nat.add_sub_cancel,
    Nat.shiftLeft_eq, Nat.add_sub_cancel' hLow]

/-- A whole number up to `2 ^ 53` has `53` digits and then zeros. -/
theorem exists_digits {n : Nat} (hPos : 0 < n) (h : n ≤ 2 ^ 53) :
    ∃ digits run, runLength ≤ digits ∧ digits < 2 * runLength ∧
      n * unitsInOne = digits * 2 ^ run := by
  have hTwice : 2 * runLength = 2 ^ 53 := by decide
  rcases Nat.lt_or_eq_of_le h with hlt | rfl
  · obtain ⟨j, hj⟩ := Nat.exists_eq_add_of_le
      (Nat.le_of_lt_succ ((Nat.log2_lt (Nat.ne_of_gt hPos)).2 hlt))
    obtain ⟨run, hRun⟩ := Nat.exists_eq_add_of_le (show j ≤ 1074 by omega)
    have hLog := Nat.log2_self_le (Nat.ne_of_gt hPos)
    have hNext := @Nat.lt_log2_self n
    refine ⟨n * 2 ^ j, run, ?_, ?_, ?_⟩
    · rw [runLength_eq, hj, Nat.pow_add]
      exact Nat.mul_le_mul_right _ hLog
    · rw [hTwice, show 53 = n.log2 + 1 + j by omega, Nat.pow_add]
      exact Nat.mul_lt_mul_of_pos_right hNext (Nat.two_pow_pos j)
    · rw [unitsInOne_eq hRun.symm, Nat.pow_add, Nat.mul_assoc]
  · obtain ⟨k, hk⟩ : ∃ k, k = 1074 := ⟨_, rfl⟩
    refine ⟨runLength, k + 1, Nat.le_refl _, by decide, ?_⟩
    rw [unitsInOne_eq hk, runLength_eq]
    ring

theorem unitsOf_nearestMagnitude {n : Nat} (h : n ≤ 2 ^ 53) :
    unitsOf (nearestMagnitude n 1) = n * unitsInOne := by
  rcases Nat.eq_zero_or_pos n with rfl | hPos
  · rw [nearestMagnitude_zero, Nat.zero_mul]
    rfl
  · obtain ⟨digits, run, hLow, hHigh, hUnits⟩ := exists_digits hPos h
    have hExact := @scaledMagnitude_exact digits run 1 Nat.one_pos hLow hHigh
    rw [Nat.mul_one] at hExact
    rw [nearestMagnitude_eq, hUnits, hExact, unitsOf_exact hLow hHigh]

theorem magnitude_ofInt (h : i.natAbs ≤ 2 ^ 64) :
    (ofInt i).magnitude = nearestMagnitude i.natAbs 1 := by
  have hFinite : min (nearestMagnitude i.natAbs 1) top < top := of_decide_eq_true (isFinite_ofInt h)
  exact Nat.min_eq_left (by omega)

theorem units_ofInt (h : i.natAbs ≤ 2 ^ 53) : (ofInt i).units = i * unitsInOne := by
  have hMagnitude : unitsOf (ofInt i).magnitude = i.natAbs * unitsInOne := by
    rw [magnitude_ofInt (Nat.le_trans h (Nat.pow_le_pow_right Nat.two_pos (by decide))),
      unitsOf_nearestMagnitude h]
  have hSign : (ofInt i).negative = decide (i < 0) := rfl
  rw [units, hMagnitude, hSign, Nat.cast_mul]
  split
  · next hNeg => rw [Int.ofNat_natAbs_of_nonpos (Int.le_of_lt (of_decide_eq_true hNeg)),
      Int.neg_mul, Int.neg_neg]
  · next hNonneg => rw [Int.natAbs_of_nonneg (by simpa using hNonneg)]

/-- **Up to `2 ^ 53` a whole number is a double.** -/
theorem toRat_ofInt (h : i.natAbs ≤ 2 ^ 53) : (ofInt i).toRat = i :=
  le_antisymm (toRat_le_iff.2 (units_ofInt h).le) (le_toRat_iff.2 (units_ofInt h).ge)

theorem not_roundedOnto (h : i.natAbs ≤ 2 ^ 53) : ¬RoundedOnto i y := by
  rintro ⟨hOnto, hNe⟩
  rw [toRat_ofInt h] at hOnto
  exact hNe hOnto

end CodeGraph.Double
