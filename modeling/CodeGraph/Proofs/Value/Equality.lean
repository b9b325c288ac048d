import CodeGraph.Proofs.Double.Exact
import CodeGraph.Proofs.Value.Comparison

/-!
# Equal values

Turning two values around turns `compare?` around (`compare?_swap`), and values other than numbers
are equal only to themselves (`eq_of_equals`).  Equal numbers are equal as doubles
(`compare?_double_of_equals`); of the numbers that are, only two integers can differ, and then they
round to whatever float stands between them (`blurs_of_ne`).  So a chain of equal values ends in
equal ones unless it leads from an integer over a float to another integer (`equals_trans_iff`).

An integer and a float are compared by their values unless rounding moves the integer onto the float
(`compare?_exact_iff`).
-/

namespace CodeGraph

namespace Double

variable {x y : Double}

theorem compare?_swap (x y : Double) : y.compare? x = (x.compare? y).map .swap := by
  have hSwap : compare y.rank x.rank = (compare x.rank y.rank).swap :=
    Std.OrientedCmp.eq_swap
  rw [compare?, compare?, Bool.or_comm, hSwap]
  split <;> rfl

theorem compare?_eq_iff : x.compare? y = some .eq ↔
    x.isNaN = false ∧ y.isNaN = false ∧ x.rank = y.rank := by
  simp [compare?, and_assoc]

theorem ofInt_eq {i : Int} (h : (ofInt i).rank = x.rank) (hNe : i ≠ 0) : ofInt i = x := by
  refine eq_of_totalRank_eq ((totalRank_eq_iff h).2 ?_)
  rintro ⟨hZero, _⟩
  exact hNe (eq_zero_of_isZero_ofInt hZero)

theorem eq_zero_of_rank_ofInt {i : Int} (h : (ofInt i).rank = 0) : i = 0 := by
  refine eq_zero_of_isZero_ofInt ?_
  rw [isZero, beq_iff_eq]
  rw [rank] at h
  split at h <;> omega

end Double

theorem Timestamp.eq_of_compare {t u : Timestamp} (h : t.compare u = .eq) : t = u := by
  obtain ⟨hSeconds, hNanos⟩ := Ordering.then_eq_eq.1 h
  obtain ⟨_, _⟩ := t
  obtain ⟨_, _⟩ := u
  rw [Timestamp.mk.injEq]
  exact ⟨Int.compare_eq_eq.1 hSeconds, Nat.compare_eq_eq.1 hNanos⟩

namespace Value

variable {a b c : Value}

/-! ### Two values -/

theorem compare?_swap (a b : Value) : b.compare? a = (a.compare? b).map .swap := by
  cases a <;> cases b <;> first
    | rfl
    | exact Double.compare?_swap _ _
    | exact congrArg some Std.OrientedCmp.eq_swap

theorem equals_comm (a b : Value) : b.equals a = a.equals b := by
  rw [equals, equals, compare?_swap a b]
  rcases a.compare? b with _ | _ | _ | _ <;> rfl

theorem equals_self_iff : a.equals a = true ↔ ∀ x, a = float x → x.isNaN = false := by
  rw [equals, beq_iff_eq]
  cases a with
  | float x =>
    rw [show (float x).compare? (float x) = x.compare? x from rfl, Double.compare?_eq_iff]
    simp
  | null => exact iff_of_true rfl nofun
  | bool p => exact iff_of_true (congrArg some Std.ReflCmp.compare_self) nofun
  | int i => exact iff_of_true (congrArg some Std.ReflCmp.compare_self) nofun
  | str s => exact iff_of_true (congrArg some Std.ReflCmp.compare_self) nofun
  | dateTime t => exact iff_of_true (congrArg some Std.ReflCmp.compare_self) nofun

theorem eq_of_equals (hNumber : a.double? = none) (h : a.equals b = true) : a = b := by
  rw [equals, beq_iff_eq] at h
  cases a with
  | int | float => cases hNumber
  | null => cases b <;> first | rfl | cases h
  | bool p =>
    cases b <;> first
      | cases h
      | exact congrArg bool (Std.LawfulEqCmp.eq_of_compare (Option.some.inj h))
  | str s =>
    cases b <;> first
      | cases h
      | exact congrArg str (Std.LawfulEqCmp.eq_of_compare (Option.some.inj h))
  | dateTime t =>
    cases b <;> first
      | cases h
      | exact congrArg dateTime (Timestamp.eq_of_compare (Option.some.inj h))

/-! ### Numbers -/

theorem double?_of_equals (h : a.equals b = true) {x : Double} (ha : a.double? = some x) :
    ∃ y, b.double? = some y :=
  double?_of_compare? (beq_iff_eq.1 h) ha

theorem compare?_double_of_equals {x y : Double} (ha : a.double? = some x)
    (hb : b.double? = some y) (h : a.equals b = true) : x.compare? y = some .eq := by
  rw [equals, beq_iff_eq] at h
  by_cases hInt : ∃ i j, a = int i ∧ b = int j
  · obtain ⟨i, j, rfl, rfl⟩ := hInt
    cases ha
    cases hb
    have hEq : i.toInt = j.toInt := Int.compare_eq_eq.1 (Option.some.inj h)
    rw [hEq, Double.compare?_eq_iff]
    exact ⟨Double.isNaN_ofInt _, Double.isNaN_ofInt _, rfl⟩
  · rw [← (compare?_number ha hb fun i j hi hj => hInt ⟨i, j, hi, hj⟩).1, h]

theorem equals_int_iff {i j : Int64} : (int i).equals (int j) = true ↔ i.toInt = j.toInt := by
  rw [equals, beq_iff_eq, ← Int.compare_eq_eq]
  exact ⟨Option.some.inj, congrArg some⟩

theorem blurs_of_ne {i j : Int64} {x : Double} (hi : (Double.ofInt i.toInt).rank = x.rank)
    (hj : x.rank = (Double.ofInt j.toInt).rank) (hNe : i.toInt ≠ j.toInt) :
    Blurs (some (int i)) (some (float x)) (some (int j)) ∨
      Blurs (some (int j)) (some (float x)) (some (int i)) := by
  -- only one integer has the place of the zeros
  have hRank : x.rank ≠ 0 := fun hZero => hNe <| by
    rw [Double.eq_zero_of_rank_ofInt (hi.trans hZero),
      Double.eq_zero_of_rank_ofInt (hj.symm.trans hZero)]
  have hRound : ∀ k : Int64, (Double.ofInt k.toInt).rank = x.rank → Double.ofInt k.toInt = x := by
    refine fun k hk => Double.ofInt_eq hk fun hZero => hRank ?_
    rw [← hk, hZero]
    rfl
  rcases Int.lt_or_gt_of_ne hNe with hlt | hgt
  · exact Or.inr ⟨j, i, x, rfl, rfl, rfl, hlt, hRound j hj.symm, hRound i hi⟩
  · exact Or.inl ⟨i, j, x, rfl, rfl, rfl, hgt, hRound i hi, hRound j hj.symm⟩

theorem not_blurs_of_eq {i j : Int64} (h : i.toInt = j.toInt) (b : Option Value) :
    ¬(Blurs (some (int i)) b (some (int j)) ∨ Blurs (some (int j)) b (some (int i))) := by
  rintro (⟨_, _, _, ⟨⟩, _, ⟨⟩, hlt, _⟩ | ⟨_, _, _, ⟨⟩, _, ⟨⟩, hlt, _⟩) <;> omega

theorem Blurs.exists_int {k k' k'' : Option Value} (h : Blurs k k' k'') :
    ∃ i j, k = some (int i) ∧ k'' = some (int j) := by
  obtain ⟨i, j, _, hi, _, hj, _⟩ := h
  exact ⟨i, j, hi, hj⟩

/-- **A chain of equal values** ends in equal ones unless it blurs. -/
theorem equals_trans_iff (hab : a.equals b = true) (hbc : b.equals c = true) :
    a.equals c = true ↔
      ¬(Blurs (some a) (some b) (some c) ∨ Blurs (some c) (some b) (some a)) := by
  by_cases hInt : ∃ i k, a = int i ∧ c = int k
  · obtain ⟨i, k, rfl, rfl⟩ := hInt
    by_cases hik : i.toInt = k.toInt
    · exact iff_of_true (equals_int_iff.2 hik) (not_blurs_of_eq hik _)
    · refine iff_of_false (fun h => hik (equals_int_iff.1 h)) fun h => h ?_
      cases b with
      | int j => exact absurd ((equals_int_iff.1 hab).trans (equals_int_iff.1 hbc)) hik
      | float x =>
        have hi := Double.compare?_eq_iff.1 (compare?_double_of_equals rfl rfl hab)
        have hk := Double.compare?_eq_iff.1 (compare?_double_of_equals rfl rfl hbc)
        exact blurs_of_ne hi.2.2 hk.2.2 hik
      | _ => cases hab
  · refine iff_of_true ?_ ?_
    · cases ha : a.double? with
      | none =>
        rw [eq_of_equals ha hab]
        exact hbc
      | some x =>
        obtain ⟨y, hb⟩ := double?_of_equals hab ha
        obtain ⟨z, hc⟩ := double?_of_equals hbc hb
        obtain ⟨hx, _, hxy⟩ := Double.compare?_eq_iff.1 (compare?_double_of_equals ha hb hab)
        obtain ⟨_, hz, hyz⟩ := Double.compare?_eq_iff.1 (compare?_double_of_equals hb hc hbc)
        rw [equals, beq_iff_eq,
          (compare?_number ha hc fun i k hi hk => hInt ⟨i, k, hi, hk⟩).1, Double.compare?_eq_iff]
        exact ⟨hx, hz, hxy.trans hyz⟩
    · rintro (h | h)
      · obtain ⟨i, k, ⟨⟩, ⟨⟩⟩ := h.exists_int
        exact hInt ⟨i, k, rfl, rfl⟩
      · obtain ⟨k, i, ⟨⟩, ⟨⟩⟩ := h.exists_int
        exact hInt ⟨i, k, rfl, rfl⟩

/-! ### Exact numbers -/

theorem compare?_int_float (i : Int64) {y : Double} (hFinite : y.isFinite = true) :
    (int i).compare? (float y) = some (compare (Double.ofInt i.toInt).rank y.rank) :=
  Double.compare?_of_not_isNaN (Double.isNaN_ofInt _) (Double.isNaN_of_isFinite hFinite)

theorem compare?_float_iff (i : Int64) {y : Double} (hFinite : y.isFinite = true) :
    (int i).compare? (float y) = some (compare (i.toInt : ℚ) y.toRat) ↔
      ¬Double.RoundedOnto i.toInt y := by
  rw [compare?_int_float i hFinite, Option.some.injEq]
  exact Double.compare_rank_ofInt_iff hFinite

theorem compare?_of_roundedOnto {i : Int64} {y : Double} (hFinite : y.isFinite = true)
    (h : Double.RoundedOnto i.toInt y) : (int i).compare? (float y) = some .eq := by
  rw [compare?_int_float i hFinite, Double.toRat_eq_iff.1 h.1, Int.compare_eq_eq.2 rfl]

/-- **Comparing integers with floats, and the values that are equal.**  An integer and a finite
float are compared by their values exactly if the integer is not rounded onto the float, which no
integer up to `2 ^ 53` is; one that is counts as equal.  Every value but a float that is no number
is equal to itself, whatever is equal is equal both ways, and a chain of equal values ends in equal
ones exactly if it does not blur. -/
theorem compare?_exact_iff (i : Int64) (y : Double) (a b c : Value) :
    (y.isFinite = true →
      ((int i).compare? (float y) = some (compare (i.toInt : ℚ) y.toRat) ↔
        ¬Double.RoundedOnto i.toInt y) ∧
      (Double.RoundedOnto i.toInt y → (int i).compare? (float y) = some .eq) ∧
      (float y).compare? (int i) = ((int i).compare? (float y)).map .swap ∧
      (i.toInt.natAbs ≤ 2 ^ 53 → ¬Double.RoundedOnto i.toInt y)) ∧
    (a.equals a = true ↔ ∀ x, a = float x → x.isNaN = false) ∧
    b.equals a = a.equals b ∧
    (a.equals b = true → b.equals c = true →
      (a.equals c = true ↔
        ¬(Blurs (some a) (some b) (some c) ∨ Blurs (some c) (some b) (some a)))) := by
  refine ⟨fun hFinite => ?_, equals_self_iff, equals_comm a b, equals_trans_iff⟩
  exact ⟨compare?_float_iff i hFinite, compare?_of_roundedOnto hFinite, compare?_swap _ _,
    Double.not_roundedOnto⟩

/-- The integer `1` is compared with `2.0` by value, and equal to itself by way of `1.0`. -/
theorem compare?_exact_iff_small :
    (int 1).compare? (float (.ofInt 2)) = some (compare (1 : ℚ) (Double.ofInt 2).toRat) ∧
      (int 1).equals (int 1) = true := by
  have hOne : (((1 : Int64).toInt : Int) : ℚ) = 1 := by norm_cast
  obtain ⟨hExact, _, _, hTrans⟩ :=
    compare?_exact_iff 1 (.ofInt 2) (int 1) (float (.ofInt 1)) (int 1)
  obtain ⟨hCompare, _, _, hSmall⟩ := hExact (by decide +kernel)
  rw [hOne] at hCompare
  refine ⟨hCompare.2 (hSmall (by decide)), ?_⟩
  exact (hTrans (by decide +kernel) (by decide +kernel)).2 (by decide +kernel)

/-- The integer `2 ^ 53 + 1` counts as equal to the float `2 ^ 53`, which is less, and that float to
the integer `2 ^ 53`, which is not equal to the first. -/
theorem compare?_rounds_two_pow :
    (int 9007199254740993).compare? (float (.ofInt 9007199254740992)) = some .eq ∧
      compare (9007199254740993 : ℚ) (Double.ofInt 9007199254740992).toRat = .gt ∧
      (int 9007199254740993).equals (float (.ofInt 9007199254740992)) = true ∧
      (float (.ofInt 9007199254740992)).equals (int 9007199254740992) = true ∧
      (int 9007199254740993).equals (int 9007199254740992) = false := by
  refine ⟨by decide +kernel, ?_, by decide +kernel, by decide +kernel, by decide⟩
  rw [Double.toRat_ofInt (by decide), compare_gt_iff_gt]
  norm_cast

end Value

end CodeGraph
