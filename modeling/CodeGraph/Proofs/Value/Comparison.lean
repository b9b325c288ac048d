import CodeGraph.Proofs.Double.Range
import CodeGraph.Proofs.Value.Order

/-!
# Comparing and sorting

`compare?` compares values as conditions do, and `keyCompare` puts all of them in an order.  Where
the first has an answer the second gives the same, unless it tells the two zeros apart
(`keyCompare_eq_iff`).  What `compare?` leaves open is settled by kinds, and for a float that is no
number by its sign: without one it comes after all numbers, and with one before them
(`Double.totalCompare_of_isNaN`).
-/

namespace CodeGraph

namespace Double

variable {x y : Double}

/-! ### The two orders of doubles -/

/-- The doubles are `0` and `-0`. -/
def OppositeZeros (x y : Double) : Prop :=
  x.isZero = true ∧ y.isZero = true ∧ x.negative ≠ y.negative

theorem OppositeZeros.rank_eq (h : OppositeZeros x y) : x.rank = y.rank := by
  obtain ⟨hx, hy, _⟩ := h
  simp only [isZero, beq_iff_eq] at hx hy
  simp [rank, hx, hy]

theorem totalRank_lt_of_rank_lt (h : x.rank < y.rank) : x.totalRank < y.totalRank := by
  cases hx : x.negative <;> cases hy : y.negative <;> simp [rank, totalRank, hx, hy] at h ⊢ <;>
    omega

theorem totalRank_eq_iff (h : x.rank = y.rank) :
    x.totalRank = y.totalRank ↔ ¬OppositeZeros x y := by
  cases hx : x.negative <;> cases hy : y.negative <;>
    simp [rank, totalRank, OppositeZeros, isZero, hx, hy] at h ⊢ <;> omega

/-- **The order of bit patterns is the numeric order, but for the two zeros.** -/
theorem totalCompare_eq_iff (x y : Double) :
    x.totalCompare y = compare x.rank y.rank ↔ ¬OppositeZeros x y := by
  rcases Int.lt_trichotomy x.rank y.rank with hlt | heq | hgt
  · rw [Int.compare_eq_lt.2 hlt]
    exact iff_of_true (Int.compare_eq_lt.2 (totalRank_lt_of_rank_lt hlt))
      fun h => absurd h.rank_eq (Int.ne_of_lt hlt)
  · rw [Int.compare_eq_eq.2 heq, ← totalRank_eq_iff heq]
    exact Int.compare_eq_eq
  · rw [Int.compare_eq_gt.2 hgt]
    exact iff_of_true (Int.compare_eq_gt.2 (totalRank_lt_of_rank_lt hgt))
      fun h => absurd h.rank_eq (Int.ne_of_gt hgt)

theorem compare?_of_not_isNaN (hx : x.isNaN = false) (hy : y.isNaN = false) :
    x.compare? y = some (compare x.rank y.rank) := by
  simp [compare?, hx, hy]

theorem eq_compare_rank {o : Ordering} (h : x.compare? y = some o) :
    o = compare x.rank y.rank := by
  rw [compare?] at h
  split at h
  · cases h
  · exact (Option.some.inj h).symm

theorem totalCompare_of_isNaN (hx : x.isNaN = true) (hy : y.isNaN = false) :
    x.totalCompare y = if x.negative then .lt else .gt := by
  simp only [isNaN, decide_eq_true_eq, decide_eq_false_iff_not, Nat.not_lt] at hx hy
  cases hSign : x.negative with
  | true =>
    refine Int.compare_eq_lt.2 ?_
    simp only [totalRank, hSign, if_true]
    split <;> omega
  | false =>
    refine Int.compare_eq_gt.2 ?_
    simp only [totalRank, hSign, Bool.false_eq_true, if_false]
    split <;> omega

/-! ### Whole numbers -/

theorem isNaN_of_isFinite (h : x.isFinite = true) : x.isNaN = false := by
  simp only [isFinite, isNaN, decide_eq_true_eq, decide_eq_false_iff_not] at h ⊢
  omega

theorem isNaN_ofInt (i : Int) : (ofInt i).isNaN = false := by
  rw [isNaN, decide_eq_false_iff_not, Nat.not_lt]
  exact Nat.min_le_right _ _

theorem eq_zero_of_isZero_ofInt {i : Int} (h : (ofInt i).isZero = true) : i = 0 := by
  have hTop : 0 < top := by decide
  have hZero : min (nearestMagnitude i.natAbs 1) top = 0 := by
    simpa [isZero, ofInt, nearest, ofMagnitude] using h
  by_contra hNe
  have hAbs : 1 ≤ i.natAbs := by omega
  have hOne : nearestMagnitude 1 1 ≤ nearestMagnitude i.natAbs 1 :=
    nearestMagnitude_mono Nat.one_pos hAbs
  have hPos : 0 < runLength := by decide
  rw [nearestMagnitude_one] at hOne
  omega

theorem negative_ofInt_of_isZero {i : Int} (h : (ofInt i).isZero = true) :
    (ofInt i).negative = false := by
  rw [eq_zero_of_isZero_ofInt h]
  rfl

end Double

namespace Value

variable {a b : Value} {k k' k'' : Option Value} {o : Ordering}

/-! ### Where both have an answer -/

/-- The values are numbers, and as doubles they are `0` and `-0`. -/
def OppositeZeros (a b : Value) : Prop :=
  ∃ x y, a.double? = some x ∧ b.double? = some y ∧ x.OppositeZeros y

theorem oppositeZeros_iff {x y : Double} (ha : a.double? = some x) (hb : b.double? = some y) :
    OppositeZeros a b ↔ x.OppositeZeros y := by
  simp [OppositeZeros, ha, hb]

theorem not_oppositeZeros_int {i j : Int64} : ¬OppositeZeros (int i) (int j) := by
  rintro ⟨x, y, ⟨⟩, ⟨⟩, hx, hy, hSigns⟩
  rw [Double.negative_ofInt_of_isZero hx, Double.negative_ofInt_of_isZero hy] at hSigns
  exact hSigns rfl

/-- Numbers are compared as doubles, unless both are integers. -/
theorem compare?_number {x y : Double} (ha : a.double? = some x) (hb : b.double? = some y)
    (hInt : ∀ i j, a = int i → b ≠ int j) :
    a.compare? b = x.compare? y ∧ keyCompare (some a) (some b) = x.totalCompare y := by
  cases a <;> cases ha <;> cases b <;> cases hb
  · exact absurd rfl (hInt _ _ rfl)
  · exact ⟨rfl, rfl⟩
  · exact ⟨rfl, rfl⟩
  · exact ⟨rfl, rfl⟩

theorem keyCompare_of_compare? (h : a.compare? b = some o) (hNumber : a.double? = none) :
    keyCompare (some a) (some b) = o := by
  cases a <;> cases hNumber <;> cases b <;> cases h <;> rfl

theorem double?_of_compare? (h : a.compare? b = some o) {x : Double} (ha : a.double? = some x) :
    ∃ y, b.double? = some y := by
  cases a <;> cases ha <;> cases b <;> first | exact ⟨_, rfl⟩ | cases h

/-- **What is compared is sorted the same way, but for the two zeros.** -/
theorem keyCompare_eq_iff (h : a.compare? b = some o) :
    keyCompare (some a) (some b) = o ↔ ¬OppositeZeros a b := by
  cases ha : a.double? with
  | none =>
    refine iff_of_true (keyCompare_of_compare? h ha) ?_
    rintro ⟨x, _, hx, _⟩
    rw [ha] at hx
    cases hx
  | some x =>
    obtain ⟨y, hb⟩ := double?_of_compare? h ha
    by_cases hInt : ∃ i j, a = int i ∧ b = int j
    · obtain ⟨i, j, rfl, rfl⟩ := hInt
      exact iff_of_true (Option.some.inj h) not_oppositeZeros_int
    · obtain ⟨hCompare, hKeys⟩ := compare?_number ha hb
        fun i j hi hj => hInt ⟨i, j, hi, hj⟩
      rw [hCompare] at h
      rw [hKeys, Double.eq_compare_rank h, oppositeZeros_iff ha hb]
      exact Double.totalCompare_eq_iff x y

/-! ### Where only the order has one -/

/-- Keys of two kinds, the kind that is sorted first in front. -/
inductive KindBefore : Option Value → Option Value → Prop
  | int (i : Int64) (s : String) : KindBefore (some (int i)) (some (str s))
  | float (x : Double) (s : String) : KindBefore (some (float x)) (some (str s))
  | str (s : String) (t : Timestamp) : KindBefore (some (str s)) (some (dateTime t))
  | dateTime (t : Timestamp) (p : Bool) : KindBefore (some (dateTime t)) (some (bool p))
  | bool (p : Bool) : KindBefore (some (bool p)) (some null)
  | null : KindBefore (some null) none
  | trans {k k' k'' : Option Value} (hFirst : KindBefore k k') (hNext : KindBefore k' k'') :
      KindBefore k k''

theorem KindBefore.kindRank_lt (h : KindBefore k k') : kindRank k < kindRank k' := by
  induction h with
  | trans _ _ ihFirst ihNext => exact Nat.lt_trans ihFirst ihNext
  | int | float | str | dateTime | bool | null => simp [kindRank]

/-- **Sorting extends comparing, but for the two zeros.**  Values that compare are sorted as they
compare, unless they are the two zeros, which the order tells apart.  A float that is no number is
sorted after all that are if it has no sign, and before them if it has one.  And keys of different
kinds are sorted by their kinds. -/
theorem keyCompare_extends_iff (k k' : Option Value) :
    (∀ (a b : Value) (o : Ordering), k = some a → k' = some b → a.compare? b = some o →
      (keyCompare k k' = o ↔ ¬OppositeZeros a b)) ∧
    (∀ x : Double, k = some (float x) → x.isNaN = true →
      ((∃ i : Int64, k' = some (int i)) ∨ ∃ y : Double, k' = some (float y) ∧ y.isNaN = false) →
      keyCompare k k' = if x.negative then .lt else .gt) ∧
    (KindBefore k k' → keyCompare k k' = .lt) := by
  refine ⟨?_, ?_, fun h => keyCompare_of_kindRank_lt h.kindRank_lt⟩
  · rintro a b o rfl rfl h
    exact keyCompare_eq_iff h
  · rintro x rfl hx (⟨i, rfl⟩ | ⟨y, rfl, hy⟩)
    · exact Double.totalCompare_of_isNaN hx (Double.isNaN_ofInt i.toInt)
    · exact Double.totalCompare_of_isNaN hx hy

/-- What is no number is sorted behind the greatest integer, and an integer that is compared with a
float is sorted like it. -/
theorem keyCompare_extends_iff_greatest :
    keyCompare (some (float .notANumber)) (some (int Int64.maxValue)) = .gt ∧
      keyCompare (some (int Int64.maxValue)) (some (float .infinity)) = .lt := by
  constructor
  · obtain ⟨_, hNaN, _⟩ :=
      keyCompare_extends_iff (some (float .notANumber)) (some (int Int64.maxValue))
    exact hNaN .notANumber rfl (by decide) (Or.inl ⟨Int64.maxValue, rfl⟩)
  · obtain ⟨hCompared, _⟩ :=
      keyCompare_extends_iff (some (int Int64.maxValue)) (some (float .infinity))
    refine (hCompared _ _ _ rfl rfl (by decide +kernel)).2 ?_
    rintro ⟨x, y, ⟨⟩, ⟨⟩, _, hZero, _⟩
    cases hZero

/-- The zeros are equal and sorted one after the other, and what is no number but has a sign is
sorted before the numbers. -/
theorem keyCompare_departs_at_zero :
    (int 0).compare? (float Double.zero.neg) = some .eq ∧
      keyCompare (some (int 0)) (some (float Double.zero.neg)) = .gt ∧
      Double.notANumber.neg.isNaN = true ∧
      keyCompare (some (float Double.notANumber.neg)) (some (int 1)) = .lt := by
  decide +kernel

end Value

end CodeGraph
