import CodeGraph.Proofs.Double.Rounding

/-!
# Results that stay finite

The greatest finite double is `maxUnits` units.  It is its own nearest double, and rounding is
monotone, so a number of at most so many units rounds to a finite one (`isFinite_nearest`).  Whole
numbers of 64 bits are far below (`isFinite_ofNat`), and a division by a number that is at least one
does not leave the range (`isFinite_div`).
-/

namespace CodeGraph.Double

/-! ### Exact magnitudes -/

theorem scaledMagnitude_exact {digits run den : Nat} (hDen : 0 < den) (hLow : runLength ≤ digits)
    (hHigh : digits < 2 * runLength) :
    scaledMagnitude (digits * 2 ^ run * den) den = run * runLength + digits := by
  have hDigits : digits ≠ 0 := by
    rw [runLength_eq] at hLow
    have hPow := Nat.two_pow_pos 52
    omega
  have hNe : digits * 2 ^ run ≠ 0 := Nat.mul_ne_zero hDigits (Nat.two_pow_pos run).ne'
  have hLog : (digits * 2 ^ run).log2 = run + 52 := by
    rw [runLength_eq] at hLow hHigh
    refine (Nat.log2_eq_iff hNe).2 ⟨?_, ?_⟩
    · calc 2 ^ (run + 52) = 2 ^ 52 * 2 ^ run := by ring
        _ ≤ digits * 2 ^ run := Nat.mul_le_mul_right _ hLow
    · calc digits * 2 ^ run < 2 * 2 ^ 52 * 2 ^ run :=
            Nat.mul_lt_mul_of_pos_right hHigh (Nat.two_pow_pos run)
        _ = 2 ^ (run + 52 + 1) := by ring
  have hScaled : digits * 2 ^ run * den = digits * (den * 2 ^ run) := by ring
  simp only [scaledMagnitude, Nat.mul_div_cancel _ hDen, hLog, Nat.add_sub_cancel, Nat.shiftLeft_eq]
  rw [hScaled, roundDiv_mul _ (Nat.mul_pos hDen (Nat.two_pow_pos run))]

def maxUnits : Nat := (2 * runLength - 1) * 2 ^ 2045

-- the exponents stand as variables from here on, so that nothing evaluates the powers

theorem maxUnits_eq {k : Nat} (h : k = 2045) : maxUnits = (2 * runLength - 1) * 2 ^ k := by
  rw [h, maxUnits]

theorem unitsInOne_eq {k : Nat} (h : k = 1074) : unitsInOne = 2 ^ k := by
  rw [← Nat.one_shiftLeft, h, unitsInOne]

theorem unitsInOne_pos : 0 < unitsInOne := by
  obtain ⟨k, hk⟩ : ∃ k, k = 1074 := ⟨_, rfl⟩
  rw [unitsInOne_eq hk]
  exact Nat.two_pow_pos k

theorem nearestMagnitude_lt_top {num den : Nat} (hDen : 0 < den)
    (h : num * unitsInOne ≤ maxUnits * den) : nearestMagnitude num den < top := by
  obtain ⟨run, hRun⟩ : ∃ run, run = 2045 := ⟨_, rfl⟩
  have hPos : 0 < runLength := by decide
  have hTop : top = 2047 * runLength := by decide
  have hExact : scaledMagnitude (maxUnits * den) den = run * runLength + (2 * runLength - 1) := by
    rw [maxUnits_eq hRun]
    exact scaledMagnitude_exact hDen (by omega) (by omega)
  have hMono := scaledMagnitude_mono hDen h
  rw [nearestMagnitude_eq, hTop]
  rw [hExact, hRun] at hMono
  omega

/-- **What is at most the greatest finite double rounds to a finite one.** -/
theorem isFinite_nearest {num den : Nat} (negative : Bool) (hDen : 0 < den)
    (h : num * unitsInOne ≤ maxUnits * den) : (nearest negative num den).isFinite = true := by
  have hLt := nearestMagnitude_lt_top hDen h
  exact decide_eq_true (show min (nearestMagnitude num den) top < top by omega)

theorem le_maxUnits {n k : Nat} (h : n ≤ 2 ^ k) (hk : k ≤ 2097) : n ≤ maxUnits := by
  obtain ⟨run, hRun⟩ : ∃ run, run = 2045 := ⟨_, rfl⟩
  have hDigits : 2 ^ 52 ≤ 2 * runLength - 1 := by decide
  calc n ≤ 2 ^ k := h
    _ ≤ 2 ^ (52 + run) := Nat.pow_le_pow_right Nat.two_pos (by omega)
    _ = 2 ^ 52 * 2 ^ run := Nat.pow_add 2 52 run
    _ ≤ (2 * runLength - 1) * 2 ^ run := Nat.mul_le_mul_right _ hDigits
    _ = maxUnits := (maxUnits_eq hRun).symm

theorem isFinite_nearest_one {n : Nat} (negative : Bool) (h : n ≤ 2 ^ 64) :
    (nearest negative n 1).isFinite = true := by
  obtain ⟨k, hk⟩ : ∃ k, k = 1074 := ⟨_, rfl⟩
  have hUnits : n * unitsInOne ≤ 2 ^ (64 + k) := by
    rw [unitsInOne_eq hk, Nat.pow_add]
    exact Nat.mul_le_mul_right _ h
  refine isFinite_nearest negative Nat.one_pos ?_
  rw [Nat.mul_one]
  exact le_maxUnits hUnits (by omega)

theorem isFinite_ofNat {n : Nat} (h : n ≤ 2 ^ 64) : (ofNat n).isFinite = true :=
  isFinite_nearest_one _ h

theorem isFinite_ofInt {i : Int} (h : i.natAbs ≤ 2 ^ 64) : (ofInt i).isFinite = true :=
  isFinite_nearest_one _ h

@[simp] theorem isFinite_neg (x : Double) : x.neg.isFinite = x.isFinite := rfl

/-! ### Division -/

theorem unitsOf_le_maxUnits {magnitude : Nat} (h : magnitude < top) :
    unitsOf magnitude ≤ maxUnits := by
  obtain ⟨run, hRun⟩ : ∃ run, run = 2045 := ⟨_, rfl⟩
  have hTop : top = 2047 * runLength := by decide
  have hPos : 0 < runLength := by decide
  rw [unitsOf]
  split
  · next hSmall => exact le_maxUnits (Nat.le_of_lt (runLength_eq ▸ hSmall)) (by omega)
  · have hQuotient : magnitude / runLength < 2047 :=
      (Nat.div_lt_iff_lt_mul hPos).2 (by omega)
    have hDigits : runLength + magnitude % runLength ≤ 2 * runLength - 1 := by
      have hMod := Nat.mod_lt magnitude hPos
      omega
    rw [Nat.shiftLeft_eq, maxUnits_eq hRun]
    exact Nat.mul_le_mul hDigits (Nat.pow_le_pow_right Nat.two_pos (by omega))

theorem unitsInOne_le_unitsOf {magnitude : Nat} (h : 1023 * runLength ≤ magnitude) :
    unitsInOne ≤ unitsOf magnitude := by
  obtain ⟨run, hRun⟩ : ∃ run, run = 1022 := ⟨_, rfl⟩
  have hPos : 0 < runLength := by decide
  have hQuotient : 1023 ≤ magnitude / runLength := (Nat.le_div_iff_mul_le hPos).2 h
  have hDigits : 2 ^ 52 ≤ runLength + magnitude % runLength := by
    rw [← runLength_eq]
    omega
  rw [unitsOf, if_neg (by omega), Nat.shiftLeft_eq,
    unitsInOne_eq (show 52 + run = 1074 by omega), Nat.pow_add]
  exact Nat.mul_le_mul hDigits (Nat.pow_le_pow_right Nat.two_pos (by omega))

theorem natAbs_units (x : Double) : x.units.natAbs = unitsOf x.magnitude := by
  rw [units]
  split <;> simp

theorem nearestMagnitude_one : nearestMagnitude 1 1 = 1023 * runLength := by
  obtain ⟨run, hRun⟩ : ∃ run, run = 1022 := ⟨_, rfl⟩
  have hUnits : 1 * unitsInOne = runLength * 2 ^ run * 1 := by
    rw [Nat.one_mul, Nat.mul_one, unitsInOne_eq (show 52 + run = 1074 by omega), Nat.pow_add,
      runLength_eq]
  have hPos : 0 < runLength := by decide
  rw [nearestMagnitude_eq, hUnits,
    scaledMagnitude_exact Nat.one_pos (Nat.le_refl _) (by omega), hRun]
  omega

theorem unitsInOne_le_units_ofNat {n : Nat} (h : 0 < n) : unitsInOne ≤ (ofNat n).units.natAbs := by
  have hMono : nearestMagnitude 1 1 ≤ nearestMagnitude n 1 := nearestMagnitude_mono Nat.one_pos h
  have hTop : 1023 * runLength ≤ top := by decide
  rw [nearestMagnitude_one] at hMono
  rw [natAbs_units]
  refine unitsInOne_le_unitsOf ?_
  show 1023 * runLength ≤ min (nearestMagnitude n 1) top
  omega

/-- **Dividing by a whole number leaves a finite double finite.** -/
theorem isFinite_div {x : Double} (hx : x.isFinite = true) {n : Nat} (hn : 0 < n) :
    (x.div (ofNat n)).isFinite = true := by
  have hUnits : x.units.natAbs ≤ maxUnits := by
    rw [natAbs_units]
    exact unitsOf_le_maxUnits (by simpa [isFinite] using hx)
  have hOne := unitsInOne_le_units_ofNat hn
  exact isFinite_nearest _ (Nat.lt_of_lt_of_le unitsInOne_pos hOne) (Nat.mul_le_mul hUnits hOne)

end CodeGraph.Double
