import CodeGraph.Proofs.Double.Exact

/-!
# Roundings that end below or above a double

What is closer to a double than to the next one above rounds at most to the former
(`scaledMagnitude_le`), and what is closer to the next rounds beyond it (`lt_scaledMagnitude`).  The
double `0.02` is a little more than a fiftieth.  Multiplied by a whole number up to `2 ^ 53` the
excess stays below half the distance of two doubles, and a fiftieth above it, so comparing such a
product with a whole number gives what exact arithmetic gives (`fiftieth_atMost_iff`).
-/

namespace CodeGraph.Double

variable {s den digits run n c : Nat}

/-! ### Common factors -/

theorem roundDiv_mul_mul {k : Nat} (hk : 0 < k) (s den : Nat) :
    roundDiv (s * k) (den * k) = roundDiv s den := by
  have hTwice : 2 * (s % den * k) = 2 * (s % den) * k := (Nat.mul_assoc ..).symm
  have hLess : den * k < 2 * (s % den) * k ↔ den < 2 * (s % den) := Nat.mul_lt_mul_right hk
  have hEqual : 2 * (s % den) * k = den * k ↔ 2 * (s % den) = den := Nat.mul_left_inj hk.ne'
  simp only [roundDiv, Nat.mul_div_mul_right _ _ hk, Nat.mul_mod_mul_right, hTwice, hLess,
    Bool.or_eq_true, Bool.and_eq_true, decide_eq_true_eq, beq_iff_eq, hEqual]

theorem scaledMagnitude_mul_mul {k : Nat} (hk : 0 < k) (s den : Nat) :
    scaledMagnitude (s * k) (den * k) = scaledMagnitude s den := by
  have hShift : ∀ run, (den * k) <<< run = (den <<< run) * k := by
    intro run
    rw [Nat.shiftLeft_eq, Nat.shiftLeft_eq, Nat.mul_right_comm]
  simp only [scaledMagnitude, Nat.mul_div_mul_right _ _ hk, hShift, roundDiv_mul_mul hk]

/-! ### Halfway between two doubles -/

theorem scaledMagnitude_between (hLow : runLength ≤ digits) (hHigh : digits < 2 * runLength)
    (hs : digits * 2 ^ run ≤ s) (hs' : s < (digits + 1) * 2 ^ run) :
    scaledMagnitude s 1 = run * runLength + roundDiv s (2 ^ run) := by
  have hPos : 0 < runLength := by decide
  have hNe : s ≠ 0 := by
    have hUnit := Nat.mul_pos (Nat.lt_of_lt_of_le hPos hLow) (Nat.two_pow_pos run)
    omega
  have hLog : s.log2 = run + 52 := by
    rw [runLength_eq] at hLow hHigh
    refine (Nat.log2_eq_iff hNe).2 ⟨?_, ?_⟩
    · calc 2 ^ (run + 52) = 2 ^ 52 * 2 ^ run := by ring
        _ ≤ digits * 2 ^ run := Nat.mul_le_mul_right _ hLow
        _ ≤ s := hs
    · calc s < (digits + 1) * 2 ^ run := hs'
        _ ≤ 2 * 2 ^ 52 * 2 ^ run := Nat.mul_le_mul_right _ hHigh
        _ = 2 ^ (run + 52 + 1) := by ring
  simp only [scaledMagnitude, Nat.div_one, hLog, Nat.add_sub_cancel, Nat.shiftLeft_eq, Nat.one_mul]

theorem div_mod_between (hs : digits * 2 ^ run ≤ s) (hs' : s < (digits + 1) * 2 ^ run) :
    s / 2 ^ run = digits ∧ s % 2 ^ run + digits * 2 ^ run = s := by
  have hDiv : s / 2 ^ run = digits :=
    Nat.div_eq_of_lt_le hs hs'
  refine ⟨hDiv, ?_⟩
  have hSplit := Nat.mod_add_div' s (2 ^ run)
  rwa [hDiv] at hSplit

/-- **A number below the middle of a double and the next is rounded at most to the former.** -/
theorem scaledMagnitude_le (hLow : runLength ≤ digits) (hHigh : digits < 2 * runLength)
    (h : 2 * s < (2 * digits + 1) * 2 ^ run) :
    scaledMagnitude s 1 ≤ run * runLength + digits := by
  by_cases hs : digits * 2 ^ run ≤ s
  · have hs' : s < (digits + 1) * 2 ^ run := by
      rw [Nat.add_mul, Nat.mul_assoc] at h
      rw [Nat.add_mul]
      omega
    obtain ⟨hDiv, hMod⟩ := div_mod_between hs hs'
    have hBelow : 2 * (s % 2 ^ run) < 2 ^ run := by
      rw [Nat.add_mul, Nat.mul_assoc] at h
      omega
    have hRound : roundDiv s (2 ^ run) = digits := by
      have hNot : ¬2 ^ run < 2 * (s % 2 ^ run) := Nat.not_lt.2 hBelow.le
      simp [roundDiv, hDiv, hNot, hBelow.ne]
    rw [scaledMagnitude_between hLow hHigh hs hs', hRound]
  · have hExact := @scaledMagnitude_exact digits run 1 Nat.one_pos hLow hHigh
    rw [← hExact, Nat.mul_one]
    exact scaledMagnitude_mono Nat.one_pos (Nat.le_of_not_le hs)

/-- The double after one is its digits with one added, also at the end of a run. -/
theorem scaledMagnitude_next (hLow : runLength ≤ digits) (hHigh : digits < 2 * runLength) :
    scaledMagnitude ((digits + 1) * 2 ^ run) 1 = run * runLength + (digits + 1) := by
  by_cases hLast : digits + 1 = 2 * runLength
  · have hPos : 0 < runLength := by decide
    have hExact := @scaledMagnitude_exact runLength (run + 1) 1 Nat.one_pos (Nat.le_refl _)
      (by omega)
    have hSame : (digits + 1) * 2 ^ run = runLength * 2 ^ (run + 1) * 1 := by
      rw [hLast]
      ring
    rw [hSame, hExact, hLast]
    ring
  · have hExact := @scaledMagnitude_exact (digits + 1) run 1 Nat.one_pos (by omega) (by omega)
    rwa [Nat.mul_one] at hExact

/-- **A number above the middle of a double and the next is rounded beyond the former.** -/
theorem lt_scaledMagnitude (hLow : runLength ≤ digits) (hHigh : digits < 2 * runLength)
    (h : (2 * digits + 1) * 2 ^ run < 2 * s) :
    run * runLength + digits < scaledMagnitude s 1 := by
  by_cases hs' : s < (digits + 1) * 2 ^ run
  · have hs : digits * 2 ^ run ≤ s := by
      rw [Nat.add_mul, Nat.mul_assoc] at h
      omega
    obtain ⟨hDiv, hMod⟩ := div_mod_between hs hs'
    have hAbove : 2 ^ run < 2 * (s % 2 ^ run) := by
      rw [Nat.add_mul, Nat.mul_assoc] at h
      omega
    have hRound : roundDiv s (2 ^ run) = digits + 1 := by simp [roundDiv, hDiv, hAbove]
    rw [scaledMagnitude_between hLow hHigh hs hs', hRound]
    omega
  · have hNext := @scaledMagnitude_next digits run hLow hHigh
    have hMono := scaledMagnitude_mono Nat.one_pos (Nat.le_of_not_lt hs')
    omega

/-! ### Fiftieths -/

theorem ofDecimal_fiftieth :
    ofDecimal false 2 (-2) = ⟨false, 1016 * runLength + 5764607523034235, by decide⟩ := by
  decide +kernel

/-- The digits of `0.02`: fifty times them is `6` more than a power of two. -/
theorem units_fiftieth {k : Nat} (hk : k = 1016) :
    (ofDecimal false 2 (-2)).units = (5764607523034235 * 2 ^ k : Nat) := by
  rw [ofDecimal_fiftieth, hk]
  exact congrArg Int.ofNat (unitsOf_exact (by decide) (by decide))

theorem ofNat_eq_ofInt (n : Nat) : ofNat n = ofInt n := by
  rw [ofNat, ofInt, Int.natAbs_natCast, decide_eq_false (Int.not_lt.2 (Int.natCast_nonneg n))]

theorem nearestMagnitude_one_lt_top (h : n ≤ 2 ^ 64) : nearestMagnitude n 1 < top := by
  have hLt : min (nearestMagnitude n 1) top < top := of_decide_eq_true (isFinite_ofNat h)
  omega

theorem rank_nearest (num den : Nat) :
    (nearest false num den).rank = (min (nearestMagnitude num den) top : Nat) := rfl

theorem rank_mul {x y : Double} (hx : x.negative = false) (hy : y.negative = false) :
    (x.mul y).rank = (min (nearestMagnitude (x.units.natAbs * y.units.natAbs)
      (unitsInOne * unitsInOne)) top : Nat) := by
  have hSign : (x.negative != y.negative) = false := by rw [hx, hy, bne_self_eq_false]
  rw [mul, hSign, rank_nearest]

theorem isNaN_nearest (negative : Bool) (num den : Nat) :
    (nearest negative num den).isNaN = false :=
  decide_eq_false (Nat.not_lt.2 (Nat.min_le_right _ _))

theorem rank_mul_fiftieth {k : Nat} (hk : k = 1016) (hn : n ≤ 2 ^ 53) :
    ((ofNat n).mul (ofDecimal false 2 (-2))).rank =
      (min (scaledMagnitude (n * (5764607523034235 * 2 ^ k)) 1) top : Nat) := by
  have hUnits : (ofNat n).units.natAbs = n * unitsInOne := by
    rw [ofNat_eq_ofInt, units_ofInt (by simpa using hn), Int.natAbs_mul, Int.natAbs_natCast,
      Int.natAbs_natCast]
  have hScale : ∀ u, n * unitsInOne * u * unitsInOne = n * u * (unitsInOne * unitsInOne) :=
    fun u => by ring
  have hNearest : nearestMagnitude ((ofNat n).units.natAbs *
      (ofDecimal false 2 (-2)).units.natAbs) (unitsInOne * unitsInOne) =
      scaledMagnitude (n * (5764607523034235 * 2 ^ k)) 1 := by
    rw [nearestMagnitude_eq, hUnits, units_fiftieth hk, Int.natAbs_natCast, hScale]
    have hOne := @scaledMagnitude_mul_mul (unitsInOne * unitsInOne)
      (Nat.mul_pos unitsInOne_pos unitsInOne_pos) (n * (5764607523034235 * 2 ^ k)) 1
    rwa [Nat.one_mul] at hOne
  rw [rank_mul rfl (by rw [ofDecimal_fiftieth]), hNearest]

theorem atMost_iff {x y : Double} (hx : x.isNaN = false) (hy : y.isNaN = false) :
    x.atMost y = true ↔ x.rank ≤ y.rank := by
  rw [atMost, compare?, hx, hy, Bool.or_false, if_neg Bool.false_ne_true, Option.any_some,
    bne_iff_ne, Int.compare_ne_gt]

theorem ofNat_atMost_iff {m : Nat} (hm : m ≤ 2 ^ 53) (hn : n ≤ 2 ^ 53) :
    (ofNat m).atMost (ofNat n) = true ↔ m ≤ n := by
  have hTop : ∀ {k}, k ≤ 2 ^ 53 → nearestMagnitude k 1 < top :=
    fun hk => nearestMagnitude_one_lt_top (Nat.le_trans hk (by decide))
  have hNumber : (ofNat m).isNaN = false := isNaN_nearest ..
  have hNumber' : (ofNat n).isNaN = false := isNaN_nearest ..
  rw [atMost_iff hNumber hNumber', ofNat, ofNat, rank_nearest, rank_nearest, Int.ofNat_le,
    Nat.min_eq_left (hTop hm).le, Nat.min_eq_left (hTop hn).le]
  constructor
  · intro h
    by_contra hNot
    have hEqual := Nat.le_antisymm h (nearestMagnitude_mono Nat.one_pos (Nat.le_of_not_le hNot))
    have hUnits := congrArg unitsOf hEqual
    rw [unitsOf_nearestMagnitude hm, unitsOf_nearestMagnitude hn] at hUnits
    exact hNot (Nat.le_of_mul_le_mul_right hUnits.le unitsInOne_pos)
  · exact nearestMagnitude_mono Nat.one_pos

/-- **Up to `2 ^ 53` a product with `0.02` compares with whole numbers as a fiftieth does.** -/
theorem fiftieth_atMost_iff (hn : n ≤ 2 ^ 53) (hc : c ≤ 2 ^ 53) (hPos : 0 < c) :
    ((ofNat n).mul (ofDecimal false 2 (-2))).atMost (ofNat c) = true ↔ n ≤ 50 * c := by
  obtain ⟨k, hk⟩ : ∃ k, k = 1016 := ⟨_, rfl⟩
  obtain ⟨digits, run, hLow, hHigh, hUnits⟩ := exists_digits hPos hc
  have hExact := @scaledMagnitude_exact digits run 1 Nat.one_pos hLow hHigh
  rw [Nat.mul_one, ← hUnits] at hExact
  have hRank : (ofNat c).rank = (min (run * runLength + digits) top : Nat) := by
    rw [ofNat, rank_nearest, nearestMagnitude_eq, hExact]
  have hFinite : run * runLength + digits < top := by
    rw [← hExact, ← nearestMagnitude_eq]
    exact nearestMagnitude_one_lt_top (Nat.le_trans hc (by decide))
  have hNumber : ((ofNat n).mul (ofDecimal false 2 (-2))).isNaN = false := isNaN_nearest ..
  have hNumber' : (ofNat c).isNaN = false := isNaN_nearest ..
  rw [atMost_iff hNumber hNumber', hRank, rank_mul_fiftieth hk hn, Int.ofNat_le,
    Nat.min_eq_left hFinite.le]
  -- a one is `2 ^ 58` of the units in which `0.02` has its digits
  have hUnit : 0 < 2 ^ k := Nat.two_pow_pos k
  have hStep : 0 < 2 ^ run := Nat.two_pow_pos run
  rw [unitsInOne_eq (show 58 + k = 1074 by omega), Nat.pow_add, Nat.mul_left_comm] at hUnits
  have hMiddle : (2 * digits + 1) * 2 ^ run = 2 * (digits * 2 ^ run) + 2 ^ run := by ring
  have hProduct : 2 * (n * (5764607523034235 * 2 ^ k)) = 11529215046068470 * (n * 2 ^ k) := by ring
  constructor
  · intro h
    by_contra hNot
    -- a fiftieth of a one is more than half the distance of two doubles
    have hMore : (50 * c + 1) * 2 ^ k ≤ n * 2 ^ k := Nat.mul_le_mul_right _ (by omega)
    have hNext : 52 * c * 2 ^ k < 11529215046068470 * 2 ^ k :=
      Nat.mul_lt_mul_of_pos_right (by omega) hUnit
    have hDigits : 2 ^ 52 * 2 ^ run ≤ digits * 2 ^ run := Nat.mul_le_mul_right _ hLow
    rw [Nat.add_mul, Nat.mul_assoc] at hMore
    rw [Nat.mul_assoc] at hNext
    refine absurd h (Nat.not_le.2 (lt_min (lt_scaledMagnitude hLow hHigh ?_) hFinite))
    rw [hMiddle, hProduct]
    omega
  · intro h
    -- what the product is too much is less than half that distance
    have hLess : n * 2 ^ k ≤ 50 * c * 2 ^ k := Nat.mul_le_mul_right _ h
    have hDigits : digits * 2 ^ run ≤ (2 * 2 ^ 52 - 1) * 2 ^ run :=
      Nat.mul_le_mul_right _ (Nat.le_sub_one_of_lt hHigh)
    rw [Nat.mul_assoc] at hLess
    refine Nat.le_trans (Nat.min_le_left _ _) (scaledMagnitude_le hLow hHigh ?_)
    rw [hMiddle, hProduct]
    omega

end CodeGraph.Double
