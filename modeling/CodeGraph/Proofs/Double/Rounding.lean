import Mathlib.Tactic.Ring
import CodeGraph.Double.Basic

/-!
# Rounding keeps the order

Rounding a quotient to the nearest whole number is monotone (`roundDiv_mono`).  A magnitude is a
run of magnitudes that lie equally dense and a rounded quotient within the run: a number of a lower
run rounds at most to the end of that run, where the higher runs start.  So the nearest magnitude
is monotone too (`nearestMagnitude_mono`), and whole numbers keep their order when they become
doubles (`totalRank_ofInt_le`), though not their differences.
-/

namespace CodeGraph.Double

/-! ### Quotients -/

theorem div_le_roundDiv (num den : Nat) : num / den ≤ roundDiv num den := by
  simp only [roundDiv]
  split <;> omega

theorem roundDiv_le_succ (num den : Nat) : roundDiv num den ≤ num / den + 1 := by
  simp only [roundDiv]
  split <;> omega

theorem roundDiv_mono {s t : Nat} (den : Nat) (h : s ≤ t) : roundDiv s den ≤ roundDiv t den := by
  have hDiv : s / den ≤ t / den := Nat.div_le_div_right h
  rcases Nat.lt_or_eq_of_le hDiv with hlt | heq
  · calc roundDiv s den ≤ s / den + 1 := roundDiv_le_succ s den
      _ ≤ t / den := hlt
      _ ≤ roundDiv t den := div_le_roundDiv t den
  · -- one quotient: the remainders are in order, and what rounds up stays rounded up
    have hs := Nat.div_add_mod s den
    have ht := Nat.div_add_mod t den
    have hMod : s % den ≤ t % den := by
      rw [heq] at hs
      omega
    simp only [roundDiv, heq, Bool.or_eq_true, Bool.and_eq_true, decide_eq_true_eq, beq_iff_eq]
    split <;> split <;> omega

theorem roundDiv_mul (k : Nat) {den : Nat} (hDen : 0 < den) : roundDiv (k * den) den = k := by
  have hNot : ¬den < 0 := Nat.not_lt_zero den
  have hNe : ¬0 = den := by omega
  simp [roundDiv, Nat.mul_div_cancel k hDen, hNot, hNe]

/-! ### Magnitudes -/

theorem runLength_eq : runLength = 2 ^ 52 := rfl

theorem log2_mono {m n : Nat} (h : m ≤ n) : m.log2 ≤ n.log2 := by
  by_cases hZero : m = 0
  · rw [hZero, Nat.log2_zero]
    exact Nat.zero_le _
  · exact (Nat.le_log2 (by omega)).2 (Nat.le_trans (Nat.log2_self_le hZero) h)

theorem roundDiv_le_of_log2_le {scaled den run : Nat} (hDen : 0 < den)
    (h : (scaled / den).log2 ≤ run + 52) :
    roundDiv scaled (den <<< run) ≤ 2 * runLength := by
  have hUnit : 0 < den * 2 ^ run := Nat.mul_pos hDen (Nat.two_pow_pos run)
  have hQuotient : scaled / den < 2 ^ (run + 53) :=
    Nat.lt_of_lt_of_le Nat.lt_log2_self (Nat.pow_le_pow_right Nat.two_pos (by omega))
  have hScaled : scaled < 2 ^ (run + 53) * den := (Nat.div_lt_iff_lt_mul hDen).1 hQuotient
  have hEnd : 2 ^ (run + 53) * den = 2 * runLength * (den * 2 ^ run) := by
    rw [runLength_eq]
    ring
  rw [Nat.shiftLeft_eq]
  calc roundDiv scaled (den * 2 ^ run)
      ≤ roundDiv (2 * runLength * (den * 2 ^ run)) (den * 2 ^ run) :=
        roundDiv_mono _ (Nat.le_of_lt (hEnd ▸ hScaled))
    _ = 2 * runLength := roundDiv_mul _ hUnit

theorem le_roundDiv_of_le_log2 {scaled den run : Nat} (hDen : 0 < den)
    (h : run + 52 ≤ (scaled / den).log2) : runLength ≤ roundDiv scaled (den <<< run) := by
  have hUnit : 0 < den * 2 ^ run := Nat.mul_pos hDen (Nat.two_pow_pos run)
  have hNe : scaled / den ≠ 0 := by
    intro hZero
    rw [hZero, Nat.log2_zero] at h
    omega
  have hScaled : 2 ^ (run + 52) * den ≤ scaled :=
    (Nat.le_div_iff_mul_le hDen).1 ((Nat.le_log2 hNe).1 h)
  have hStart : 2 ^ (run + 52) * den = runLength * (den * 2 ^ run) := by
    rw [runLength_eq]
    ring
  rw [Nat.shiftLeft_eq]
  calc runLength = roundDiv (runLength * (den * 2 ^ run)) (den * 2 ^ run) :=
        (roundDiv_mul _ hUnit).symm
    _ ≤ roundDiv scaled (den * 2 ^ run) := roundDiv_mono _ (hStart ▸ hScaled)

def scaledMagnitude (scaled den : Nat) : Nat :=
  let run := (scaled / den).log2 - 52
  run * runLength + roundDiv scaled (den <<< run)

theorem nearestMagnitude_eq (num den : Nat) :
    nearestMagnitude num den = scaledMagnitude (num * unitsInOne) den := rfl

theorem scaledMagnitude_mono {s t den : Nat} (hDen : 0 < den) (h : s ≤ t) :
    scaledMagnitude s den ≤ scaledMagnitude t den := by
  simp only [scaledMagnitude]
  have hLog : (s / den).log2 ≤ (t / den).log2 := log2_mono (Nat.div_le_div_right h)
  generalize hLow : (s / den).log2 - 52 = low
  generalize hHigh : (t / den).log2 - 52 = high
  rcases Nat.lt_or_eq_of_le (show low ≤ high by omega) with hlt | heq
  · have hEnd : roundDiv s (den <<< low) ≤ 2 * runLength :=
      roundDiv_le_of_log2_le hDen (by omega)
    have hStart : runLength ≤ roundDiv t (den <<< high) :=
      le_roundDiv_of_le_log2 hDen (by omega)
    have hRuns : (low + 1) * runLength ≤ high * runLength := Nat.mul_le_mul_right _ hlt
    rw [Nat.add_mul] at hRuns
    omega
  · rw [heq]
    exact Nat.add_le_add_left (roundDiv_mono _ h) _

/-- **The nearest magnitude is monotone.** -/
theorem nearestMagnitude_mono {m n den : Nat} (hDen : 0 < den) (h : m ≤ n) :
    nearestMagnitude m den ≤ nearestMagnitude n den :=
  scaledMagnitude_mono hDen (Nat.mul_le_mul_right _ h)

/-! ### Whole numbers -/

theorem totalRank_ofInt (i : Int) : (ofInt i).totalRank =
    if i < 0 then -((min (nearestMagnitude i.natAbs 1) top : Nat) : Int) - 1
    else ((min (nearestMagnitude i.natAbs 1) top : Nat) : Int) := by
  simp only [ofInt, nearest, ofMagnitude, totalRank, decide_eq_true_eq]

/-- **Whole numbers keep their order as doubles.** -/
theorem totalRank_ofInt_le {i j : Int} (h : i ≤ j) :
    (ofInt i).totalRank ≤ (ofInt j).totalRank := by
  rw [totalRank_ofInt, totalRank_ofInt]
  by_cases hi : i < 0
  · rw [if_pos hi]
    by_cases hj : j < 0
    · have hMagnitude := nearestMagnitude_mono Nat.one_pos (show j.natAbs ≤ i.natAbs by omega)
      rw [if_pos hj]
      omega
    · rw [if_neg hj]
      omega
  · have hMagnitude := nearestMagnitude_mono Nat.one_pos (show i.natAbs ≤ j.natAbs by omega)
    rw [if_neg hi, if_neg (by omega)]
    omega

theorem eq_of_totalRank_eq {x y : Double} (h : x.totalRank = y.totalRank) : x = y := by
  obtain ⟨negative, magnitude, _⟩ := x
  obtain ⟨negative', magnitude', _⟩ := y
  simp only [totalRank] at h
  cases negative <;> cases negative' <;> simp at h ⊢ <;> omega

end CodeGraph.Double
