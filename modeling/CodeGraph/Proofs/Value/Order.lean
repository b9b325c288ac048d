import Mathlib.Order.Basic
import CodeGraph.Proofs.Double.Rounding
import CodeGraph.Value.Order

/-!
# The order of sort keys

Keys of different kinds are ordered by their kinds (`keyCompare_of_kindRank_lt`), and within every
kind but the numbers the order is total.  Integers among themselves are compared as they are, and
with floats as the doubles they round to.  Rounding is monotone, so a chain of numbers keeps the
order of their doubles (`totalRank_le_of_keyCompare_ne_gt`).  What it may lose is the difference of
two integers that round to one double: with that double between them, a chain leads from the greater
to the smaller (`Blurs`).

Every key is equal to itself (`keyCompare_self`), turning a pair around turns the answer around
(`keyCompare_swap`), and a chain of three keys breaks exactly where it blurs
(`keyCompare_breaks_iff`).
-/

namespace CodeGraph

instance Timestamp.transCmp_compare : Std.TransCmp Timestamp.compare :=
  inferInstanceAs (Std.TransCmp (compareLex (compareOn Timestamp.seconds)
    (compareOn Timestamp.nanos)))

instance Double.transCmp_totalCompare : Std.TransCmp Double.totalCompare :=
  inferInstanceAs (Std.TransCmp (compareOn Double.totalRank))

theorem ne_gt_trans {α : Type} {cmp : α → α → Ordering} [Std.TransCmp cmp] {a b c : α}
    (hab : cmp a b ≠ .gt) (hbc : cmp b c ≠ .gt) : cmp a c ≠ .gt :=
  Ordering.isLE_iff_ne_gt.1
    (Std.TransCmp.isLE_trans (Ordering.isLE_iff_ne_gt.2 hab) (Ordering.isLE_iff_ne_gt.2 hbc))

namespace Value

variable {a b c : Option Value}

/-! ### Kinds -/

theorem keyCompare_of_kindRank_lt (h : kindRank a < kindRank b) : keyCompare a b = .lt := by
  have hNe := Nat.ne_of_lt h
  have hCompare : compare (kindRank a) (kindRank b) = .lt := Nat.compare_eq_lt.2 h
  rcases a with _ | (_ | _ | _ | _ | _ | _) <;> rcases b with _ | (_ | _ | _ | _ | _ | _) <;>
    first
    | exact absurd rfl hNe
    | exact hCompare

theorem keyCompare_of_kindRank_gt (h : kindRank b < kindRank a) : keyCompare a b = .gt := by
  have hNe := Nat.ne_of_gt h
  have hCompare : compare (kindRank a) (kindRank b) = .gt := Nat.compare_eq_gt.2 h
  rcases a with _ | (_ | _ | _ | _ | _ | _) <;> rcases b with _ | (_ | _ | _ | _ | _ | _) <;>
    first
    | exact absurd rfl hNe
    | exact hCompare

theorem kindRank_le_of_keyCompare_ne_gt (h : keyCompare a b ≠ .gt) : kindRank a ≤ kindRank b := by
  by_contra hNot
  exact h (keyCompare_of_kindRank_gt (Nat.lt_of_not_le hNot))

def double? : Value → Option Double
  | int i => some (.ofInt i.toInt)
  | float x => some x
  | _ => none

theorem kind_cases (hab : kindRank a = kindRank b) (hbc : kindRank b = kindRank c) :
    (∃ u v w x y z, a = some u ∧ b = some v ∧ c = some w ∧
        u.double? = some x ∧ v.double? = some y ∧ w.double? = some z) ∨
      (∃ s t r, a = some (str s) ∧ b = some (str t) ∧ c = some (str r)) ∨
      (∃ s t r, a = some (dateTime s) ∧ b = some (dateTime t) ∧ c = some (dateTime r)) ∨
      (∃ p q r, a = some (bool p) ∧ b = some (bool q) ∧ c = some (bool r)) ∨
      (a = some null ∧ b = some null ∧ c = some null) ∨ (a = none ∧ b = none ∧ c = none) := by
  rcases a with _ | (_ | _ | _ | _ | _ | _) <;> rcases b with _ | (_ | _ | _ | _ | _ | _) <;>
    simp [kindRank] at hab <;> rcases c with _ | (_ | _ | _ | _ | _ | _) <;>
    simp [kindRank, double?] at hbc ⊢

/-! ### Numbers -/

theorem keyCompare_number {u v : Value} {x y : Double} (hu : u.double? = some x)
    (hv : v.double? = some y) :
    keyCompare (some u) (some v) = x.totalCompare y ∨
      ∃ i j, u = int i ∧ v = int j ∧ x = .ofInt i.toInt ∧ y = .ofInt j.toInt ∧
        keyCompare (some u) (some v) = compare i.toInt j.toInt := by
  cases u <;> cases hu <;> cases v <;> cases hv
  · exact Or.inr ⟨_, _, rfl, rfl, rfl, rfl, rfl⟩
  · exact Or.inl rfl
  · exact Or.inl rfl
  · exact Or.inl rfl

theorem totalRank_le_of_keyCompare_ne_gt {u v : Value} {x y : Double} (hu : u.double? = some x)
    (hv : v.double? = some y) (h : keyCompare (some u) (some v) ≠ .gt) :
    x.totalRank ≤ y.totalRank := by
  rcases keyCompare_number hu hv with hCompare | ⟨i, j, _, _, rfl, rfl, hCompare⟩
  · rw [hCompare] at h
    exact Int.compare_ne_gt.1 h
  · rw [hCompare] at h
    exact Double.totalRank_ofInt_le (Int.compare_ne_gt.1 h)

/-! ### One key and two -/

theorem keyCompare_self (a : Option Value) : keyCompare a a = .eq := by
  rcases a with _ | (_ | p | i | x | s | t)
  · rfl
  · rfl
  · exact @Std.ReflCmp.compare_self Bool compare _ _
  · exact @Std.ReflCmp.compare_self Int compare _ _
  · exact @Std.ReflCmp.compare_self _ Double.totalCompare _ _
  · exact @Std.ReflCmp.compare_self String compare _ _
  · exact @Std.ReflCmp.compare_self _ Timestamp.compare _ _

theorem keyCompare_swap (a b : Option Value) : keyCompare b a = (keyCompare a b).swap := by
  rcases Nat.lt_trichotomy (kindRank a) (kindRank b) with hlt | heq | hgt
  · rw [keyCompare_of_kindRank_lt hlt, keyCompare_of_kindRank_gt hlt, Ordering.swap]
  · rcases kind_cases heq rfl with ⟨u, v, _, _, _, _, rfl, rfl, _, hu, hv, _⟩ |
      ⟨s, t, _, rfl, rfl, _⟩ | ⟨s, t, _, rfl, rfl, _⟩ | ⟨p, q, _, rfl, rfl, _⟩ |
      ⟨rfl, rfl, _⟩ | ⟨rfl, rfl, _⟩
    · cases u <;> cases hu <;> cases v <;> cases hv
      · exact @Std.OrientedCmp.eq_swap Int compare _ _ _
      · exact @Std.OrientedCmp.eq_swap _ Double.totalCompare _ _ _
      · exact @Std.OrientedCmp.eq_swap _ Double.totalCompare _ _ _
      · exact @Std.OrientedCmp.eq_swap _ Double.totalCompare _ _ _
    · exact @Std.OrientedCmp.eq_swap String compare _ _ _
    · exact @Std.OrientedCmp.eq_swap _ Timestamp.compare _ _ _
    · exact @Std.OrientedCmp.eq_swap Bool compare _ _ _
    · rfl
    · rfl
  · rw [keyCompare_of_kindRank_gt hgt, keyCompare_of_kindRank_lt hgt, Ordering.swap]

/-! ### Three keys -/

/-- A double between two integers that both round to it, the greater of which stands first. -/
def Blurs (a b c : Option Value) : Prop :=
  ∃ (i j : Int64) (x : Double), a = some (int i) ∧ b = some (float x) ∧ c = some (int j) ∧
    j.toInt < i.toInt ∧ Double.ofInt i.toInt = x ∧ Double.ofInt j.toInt = x

theorem keyCompare_of_blurs (h : Blurs a b c) :
    keyCompare a b = .eq ∧ keyCompare b c = .eq ∧ keyCompare a c = .gt := by
  obtain ⟨i, j, x, rfl, rfl, rfl, hlt, hi, hj⟩ := h
  refine ⟨?_, ?_, Int.compare_eq_gt.2 hlt⟩
  · show (Double.ofInt i.toInt).totalCompare x = .eq
    rw [hi]
    exact Std.ReflCmp.compare_self
  · show x.totalCompare (Double.ofInt j.toInt) = .eq
    rw [hj]
    exact Std.ReflCmp.compare_self

/-- A chain of numbers that leads upward and yet back is one of two integers that round to the
double between them. -/
theorem blurs_of_numbers {u v w : Value} {x y z : Double} (hu : u.double? = some x)
    (hv : v.double? = some y) (hw : w.double? = some z)
    (huv : keyCompare (some u) (some v) ≠ .gt) (hvw : keyCompare (some v) (some w) ≠ .gt)
    (huw : keyCompare (some u) (some w) = .gt) : Blurs (some u) (some v) (some w) := by
  have hxy := totalRank_le_of_keyCompare_ne_gt hu hv huv
  have hyz := totalRank_le_of_keyCompare_ne_gt hv hw hvw
  rcases keyCompare_number hu hw with hCompare | ⟨i, j, rfl, rfl, rfl, rfl, hCompare⟩
  · rw [hCompare] at huw
    exact absurd huw (Int.compare_ne_gt.2 (Int.le_trans hxy hyz))
  · rw [hCompare] at huw
    have hlt : j.toInt < i.toInt := Int.compare_eq_gt.1 huw
    cases v with
    | int k =>
      have hik : i.toInt ≤ k.toInt := Int.compare_ne_gt.1 huv
      have hkj : k.toInt ≤ j.toInt := Int.compare_ne_gt.1 hvw
      omega
    | float y' =>
      cases hv
      have hji := Double.totalRank_ofInt_le (Int.le_of_lt hlt)
      refine ⟨i, j, y, rfl, rfl, rfl, hlt, ?_, ?_⟩
      · exact Double.eq_of_totalRank_eq (by omega)
      · exact Double.eq_of_totalRank_eq (by omega)
    | _ => cases hv

/-- **Only a blur breaks the order.** -/
theorem blurs_of_keyCompare (hab : keyCompare a b ≠ .gt) (hbc : keyCompare b c ≠ .gt)
    (hac : keyCompare a c = .gt) : Blurs a b c := by
  have hRankAB := kindRank_le_of_keyCompare_ne_gt hab
  have hRankBC := kindRank_le_of_keyCompare_ne_gt hbc
  have hRankCA : kindRank c ≤ kindRank a := by
    by_contra hNot
    rw [keyCompare_of_kindRank_lt (Nat.lt_of_not_le hNot)] at hac
    cases hac
  -- of one kind other than the numbers, keys are ordered by an order that is transitive
  rcases kind_cases (show kindRank a = kindRank b by omega) (show kindRank b = kindRank c by omega)
    with ⟨u, v, w, x, y, z, rfl, rfl, rfl, hu, hv, hw⟩ | ⟨s, t, r, rfl, rfl, rfl⟩ |
      ⟨s, t, r, rfl, rfl, rfl⟩ | ⟨p, q, r, rfl, rfl, rfl⟩ | ⟨rfl, rfl, rfl⟩ | ⟨rfl, rfl, rfl⟩
  · exact blurs_of_numbers hu hv hw hab hbc hac
  · exact absurd hac (@ne_gt_trans String compare _ _ _ _ hab hbc)
  · exact absurd hac (@ne_gt_trans _ Timestamp.compare _ _ _ _ hab hbc)
  · exact absurd hac (@ne_gt_trans Bool compare _ _ _ _ hab hbc)
  · exact absurd hac hab
  · exact absurd hac hab

/-- **A chain of three keys breaks exactly where it blurs.** -/
theorem keyCompare_breaks_iff :
    (keyCompare a b ≠ .gt ∧ keyCompare b c ≠ .gt ∧ keyCompare a c = .gt) ↔ Blurs a b c := by
  constructor
  · rintro ⟨hab, hbc, hac⟩
    exact blurs_of_keyCompare hab hbc hac
  · intro h
    obtain ⟨hab, hbc, hac⟩ := keyCompare_of_blurs h
    exact ⟨by simp [hab], by simp [hbc], hac⟩

instance (a b c : Option Value) : Decidable (Blurs a b c) :=
  decidable_of_iff _ keyCompare_breaks_iff

end Value

end CodeGraph
