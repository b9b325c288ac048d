import CodeGraph.Proofs.Double.Halfway

/-!
# Arithmetic on doubles that are not negative

The doubles from zero to infinity are ordered by their magnitudes, and a sum, a product or a
quotient of them is a rounded one of their units (`add_eq`, `mul_eq`, `div_eq`).  So arithmetic
keeps the order, zero and one are neutral (`zero_add`, `one_mul`), and a double that is not zero
divided by itself is one (`div_self`).
-/

namespace CodeGraph.Double

variable {x x' y y' : Double}

/-- The double is a number from zero to infinity. -/
structure Nonneg (x : Double) : Prop where
  positive : x.negative = false
  number : x.magnitude ≤ top

def one : Double := ofNat 1

theorem eq_of_magnitude (hx : x.Nonneg) (hy : y.Nonneg) (h : x.magnitude = y.magnitude) :
    x = y := by
  obtain ⟨negative, magnitude, _⟩ := x
  obtain ⟨negative', magnitude', _⟩ := y
  obtain rfl : negative = false := hx.positive
  obtain rfl : negative' = false := hy.positive
  obtain rfl : magnitude = magnitude' := h
  rfl

theorem nonneg_nearest (num den : Nat) : (nearest false num den).Nonneg :=
  ⟨rfl, Nat.min_le_right _ _⟩

theorem nonneg_zero : zero.Nonneg := ⟨rfl, Nat.zero_le _⟩

theorem nonneg_ofNat (n : Nat) : (ofNat n).Nonneg := nonneg_nearest n 1

theorem nonneg_one : one.Nonneg := nonneg_ofNat 1

theorem Nonneg.units_eq (h : x.Nonneg) : x.units = unitsOf x.magnitude := by
  rw [units, h.positive, if_neg Bool.false_ne_true]

theorem Nonneg.isNaN (h : x.Nonneg) : x.isNaN = false :=
  decide_eq_false (Nat.not_lt.2 h.number)

theorem Nonneg.atMost_iff (hx : x.Nonneg) (hy : y.Nonneg) :
    x.atMost y = true ↔ x.magnitude ≤ y.magnitude := by
  rw [Double.atMost_iff hx.isNaN hy.isNaN, rank, rank, hx.positive, hy.positive,
    if_neg Bool.false_ne_true, if_neg Bool.false_ne_true, Int.ofNat_le]

theorem magnitude_nearest_mono {m n den : Nat} (hDen : 0 < den) (h : m ≤ n) :
    (nearest false m den).magnitude ≤ (nearest false n den).magnitude := by
  have hMono := nearestMagnitude_mono hDen h
  show min _ top ≤ min _ top
  omega

theorem nearest_unitsOf {num den k : Nat} (hx : x.Nonneg) (hk : 0 < k)
    (hNum : num * unitsInOne = unitsOf x.magnitude * k) (hDen : den = k) :
    nearest false num den = x := by
  refine eq_of_magnitude (nonneg_nearest _ _) hx ?_
  have hScaled := scaledMagnitude_mul_mul hk (unitsOf x.magnitude) 1
  rw [Nat.one_mul, scaledMagnitude_unitsOf] at hScaled
  show min (nearestMagnitude num den) top = x.magnitude
  rw [nearestMagnitude_eq, hNum, hDen, hScaled, Nat.min_eq_left hx.number]

theorem unitsOf_mono {m n : Nat} (h : m ≤ n) : unitsOf m ≤ unitsOf n := by
  by_contra hNot
  have hMono := scaledMagnitude_mono Nat.one_pos (Nat.le_of_not_le hNot)
  rw [scaledMagnitude_unitsOf, scaledMagnitude_unitsOf] at hMono
  exact hNot (Nat.le_of_eq (congrArg unitsOf (Nat.le_antisymm h hMono)))

theorem unitsOf_one : unitsOf one.magnitude = unitsInOne := by
  have hOne := unitsOf_nearestMagnitude (show 1 ≤ 2 ^ 53 by decide)
  have hMagnitude : one.magnitude = nearestMagnitude 1 1 :=
    Nat.min_eq_left (nearestMagnitude_one_lt_top (by decide)).le
  rw [hMagnitude, hOne, Nat.one_mul]

/-! ### Sums -/

theorem nearest_zero : nearest false 0 unitsInOne = zero :=
  nearest_unitsOf (k := unitsInOne) nonneg_zero unitsInOne_pos rfl rfl

/-- The absolute value of a sum is the rounded absolute value of the sum of the units. -/
theorem abs_add (x y : Double) :
    (x.add y).abs = nearest false (x.units + y.units).natAbs unitsInOne := by
  have hAdd : x.add y = if x.units + y.units = 0 then
      ofMagnitude (x.negative && y.negative) 0
      else nearest (x.units + y.units < 0) (x.units + y.units).natAbs unitsInOne := rfl
  rw [hAdd]
  split
  · next hZero =>
    rw [hZero, Int.natAbs_zero, nearest_zero]
    rfl
  · rfl

theorem add_eq (hx : x.Nonneg) (hy : y.Nonneg) :
    x.add y = nearest false (unitsOf x.magnitude + unitsOf y.magnitude) unitsInOne := by
  have hUnits : x.units + y.units = (unitsOf x.magnitude + unitsOf y.magnitude : Nat) := by
    rw [hx.units_eq, hy.units_eq, Int.natCast_add]
  have hSign : (x.add y).negative = false := by
    show (if x.units + y.units = 0 then ofMagnitude (x.negative && y.negative) 0
      else nearest (x.units + y.units < 0) _ unitsInOne).negative = false
    rw [hx.positive, hUnits, decide_eq_false (Int.not_lt.2 (Int.natCast_nonneg _))]
    split <;> rfl
  have hAbs : (x.add y).abs = x.add y := by rw [abs, ← hSign]
  rw [← hAbs, abs_add, hUnits, Int.natAbs_natCast]

theorem abs_sub_comm (x y : Double) : (x.sub y).abs = (y.sub x).abs := by
  have hTurn : y.units + x.neg.units = -(x.units + y.neg.units) := by
    rw [units_neg, units_neg]
    omega
  rw [sub, sub, abs_add, abs_add, hTurn, Int.natAbs_neg]

theorem abs_sub_self (x : Double) : (x.sub x).abs = zero := by
  rw [sub, abs_add, units_neg, Int.add_right_neg, Int.natAbs_zero, nearest_zero]

theorem Nonneg.add (hx : x.Nonneg) (hy : y.Nonneg) : (x.add y).Nonneg := by
  rw [add_eq hx hy]
  exact nonneg_nearest _ _

theorem add_mono (hx : x.Nonneg) (hy : y.Nonneg) (hx' : x'.Nonneg) (hy' : y'.Nonneg)
    (hxx' : x.magnitude ≤ x'.magnitude) (hyy' : y.magnitude ≤ y'.magnitude) :
    (x.add y).magnitude ≤ (x'.add y').magnitude := by
  rw [add_eq hx hy, add_eq hx' hy']
  exact magnitude_nearest_mono unitsInOne_pos
    (Nat.add_le_add (unitsOf_mono hxx') (unitsOf_mono hyy'))

theorem add_comm (hx : x.Nonneg) (hy : y.Nonneg) : x.add y = y.add x := by
  rw [add_eq hx hy, add_eq hy hx, Nat.add_comm]

theorem zero_add (hx : x.Nonneg) : zero.add x = x := by
  rw [add_eq nonneg_zero hx]
  refine nearest_unitsOf hx unitsInOne_pos ?_ rfl
  rw [show unitsOf zero.magnitude = 0 from rfl, Nat.zero_add]

theorem le_add_left (hx : x.Nonneg) (hy : y.Nonneg) : y.magnitude ≤ (x.add y).magnitude := by
  have hMono := add_mono nonneg_zero hy hx hy (Nat.zero_le _) (Nat.le_refl _)
  rwa [zero_add hy] at hMono

/-! ### Products -/

theorem mul_eq (hx : x.Nonneg) (hy : y.Nonneg) : x.mul y =
    nearest false (unitsOf x.magnitude * unitsOf y.magnitude) (unitsInOne * unitsInOne) := by
  rw [mul, hx.positive, hy.positive, bne_self_eq_false, natAbs_units, natAbs_units]

theorem Nonneg.mul (hx : x.Nonneg) (hy : y.Nonneg) : (x.mul y).Nonneg := by
  rw [mul_eq hx hy]
  exact nonneg_nearest _ _

theorem one_mul (hx : x.Nonneg) : one.mul x = x := by
  rw [mul_eq nonneg_one hx, unitsOf_one]
  refine nearest_unitsOf hx (Nat.mul_pos unitsInOne_pos unitsInOne_pos) ?_ rfl
  rw [Nat.mul_comm unitsInOne, Nat.mul_assoc]

theorem mul_le (hx : x.Nonneg) (hy : y.Nonneg) (h : x.magnitude ≤ one.magnitude) :
    (x.mul y).magnitude ≤ y.magnitude := by
  have hMono : (x.mul y).magnitude ≤ (one.mul y).magnitude := by
    rw [mul_eq hx hy, mul_eq nonneg_one hy]
    exact magnitude_nearest_mono (Nat.mul_pos unitsInOne_pos unitsInOne_pos)
      (Nat.mul_le_mul_right _ (unitsOf_mono h))
  rwa [one_mul hy] at hMono

/-! ### Quotients -/

theorem div_eq (hx : x.Nonneg) (hy : y.Nonneg) :
    x.div y = nearest false (unitsOf x.magnitude) (unitsOf y.magnitude) := by
  rw [div, hx.positive, hy.positive, bne_self_eq_false, natAbs_units, natAbs_units]

theorem Nonneg.div (hx : x.Nonneg) (hy : y.Nonneg) : (x.div y).Nonneg := by
  rw [div_eq hx hy]
  exact nonneg_nearest _ _

theorem unitsOf_pos_of_ne {m : Nat} (h : 0 < m) : 0 < unitsOf m :=
  Nat.pos_of_ne_zero fun hZero => h.ne' (unitsOf_eq_zero hZero)

theorem div_self (hx : x.Nonneg) (hPos : 0 < x.magnitude) : x.div x = one := by
  rw [div_eq hx hx]
  refine nearest_unitsOf nonneg_one (unitsOf_pos_of_ne hPos) ?_ rfl
  rw [unitsOf_one, Nat.mul_comm]

theorem div_le_one (hx : x.Nonneg) (hy : y.Nonneg) (hPos : 0 < y.magnitude)
    (h : x.magnitude ≤ y.magnitude) : (x.div y).magnitude ≤ one.magnitude := by
  rw [← div_self hy hPos, div_eq hx hy, div_eq hy hy]
  exact magnitude_nearest_mono (unitsOf_pos_of_ne hPos) (unitsOf_mono h)

theorem magnitude_one_pos : 0 < one.magnitude :=
  Nat.pos_of_ne_zero fun h => unitsInOne_pos.ne' (unitsOf_one.symm.trans (congrArg unitsOf h))

theorem ratio_le_one {m n : Nat} (hn : 0 < n) (h : m ≤ n) :
    ((ofNat m).div (ofNat n)).magnitude ≤ one.magnitude :=
  div_le_one (nonneg_ofNat m) (nonneg_ofNat n)
    (Nat.lt_of_lt_of_le magnitude_one_pos (magnitude_nearest_mono Nat.one_pos hn))
    (magnitude_nearest_mono Nat.one_pos h)

theorem ratio_self {n : Nat} (hn : 0 < n) : (ofNat n).div (ofNat n) = one :=
  div_self (nonneg_ofNat n)
    (Nat.lt_of_lt_of_le magnitude_one_pos (magnitude_nearest_mono Nat.one_pos hn))

end CodeGraph.Double
