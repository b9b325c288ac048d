import Mathlib.Data.List.Forall2
import CodeGraph.Proofs.Fields
import CodeGraph.Query.Field

/-!
# What a node pattern asks

A node fits a pattern if its kind is one of the labels, small and capital letters of ASCII taken for
the same, and if every property of the pattern has its value there (`NodePattern.Fits`).  The value
of a property is the node's own field, unless that is missing or does not count as true;
then it is metadata (`HasProperty`).

This is what `NodePattern.accepts` decides (`accepts_iff_fits`).
-/

namespace CodeGraph

/-- The values that do not count as true. -/
inductive Value.IsFalsy : Value → Prop
  | null : IsFalsy null
  | false : IsFalsy (bool Bool.false)
  | zero : IsFalsy (int 0)
  | zeroFloat {x : Double} (h : x.magnitude = 0) : IsFalsy (float x)
  | notANumber {x : Double} (h : Double.top < x.magnitude) : IsFalsy (float x)
  | text : IsFalsy (str "")

theorem Value.isFalsy_iff {v : Value} : v.IsFalsy ↔ v.isTruthy = Bool.false := by
  constructor
  · rintro (_ | _ | _ | h | h | _) <;> simp_all [isTruthy, Double.isZero, Double.isNaN]
  · intro h
    cases v with
    | null => exact .null
    | bool b => rw [show b = Bool.false from h]; exact .false
    | int i =>
      obtain rfl : i = 0 := by simpa [isTruthy] using h
      exact .zero
    | float x =>
      have hCases : x.magnitude = 0 ∨ Double.top < x.magnitude := by
        by_cases hZero : x.magnitude = 0
        · exact Or.inl hZero
        · exact Or.inr (by simpa [isTruthy, Double.isZero, Double.isNaN, hZero] using h)
      exact hCases.elim .zeroFloat .notANumber
    | str s =>
      obtain rfl : s = "" := by simpa [isTruthy] using h
      exact .text
    | dateTime t => cases h

namespace Query

/-! ### Words -/

/-- A capital letter of ASCII and the small one beside it. -/
def IsPair (capital small : Char) : Prop :=
  'A' ≤ capital ∧ capital ≤ 'Z' ∧ small.toNat = capital.toNat + 32

def SameLetter (c d : Char) : Prop := c = d ∨ IsPair c d ∨ IsPair d c

/-- The words have the same letters one after the other. -/
def SameWord (s t : String) : Prop := List.Forall₂ SameLetter s.toList t.toList

theorem le_iff_toNat_le {c d : Char} : c ≤ d ↔ c.toNat ≤ d.toNat := UInt32.le_iff_toNat_le

theorem toNat_toLower (c : Char) :
    c.toLower.toNat = if 'A' ≤ c ∧ c ≤ 'Z' then c.toNat + 32 else c.toNat := by
  split
  · next h =>
    have hLast : c.toNat ≤ 90 := h.2
    have hSmall : c.toNat + 32 < 4294967296 := by omega
    have hLower : c.toLower.toNat = (c.val + 32).toNat := congrArg Char.toNat (dif_pos h)
    exact hLower.trans ((UInt32.toNat_add c.val 32).trans (Nat.mod_eq_of_lt hSmall))
  · next h => exact congrArg Char.toNat (dif_neg h)

theorem sameLetter_iff {c d : Char} : SameLetter c d ↔ c.toLower = d.toLower := by
  have hA : 'A'.toNat = 65 := rfl
  have hZ : 'Z'.toNat = 90 := rfl
  rw [← Char.toNat_inj, toNat_toLower, toNat_toLower, SameLetter, IsPair, IsPair, ← Char.toNat_inj]
  simp only [le_iff_toNat_le, hA, hZ]
  split <;> split <;> omega

theorem sameWord_iff {s t : String} : SameWord s t ↔ sameWord s t = true := by
  rw [SameWord, sameWord, beq_iff_eq, ← List.forall₂_eq_eq_eq, List.forall₂_map_left_iff,
    List.forall₂_map_right_iff]
  exact ⟨.imp fun _ _ => sameLetter_iff.1, .imp fun _ _ => sameLetter_iff.2⟩

/-! ### Properties -/

/-- What a property of a pattern is compared with. -/
inductive HasProperty (node : Node) (name : String) : Value → Prop
  | own {v : Value} (h : node.field? name = some v) (hValue : ¬v.IsFalsy) : HasProperty node name v
  | metadata {v : Value} (hOwn : ∀ own, node.field? name = some own → own.IsFalsy)
      (h : node.metadata.find? name = some v) : HasProperty node name v

theorem hasProperty_iff {node : Node} {name : String} {v : Value} :
    HasProperty node name v ↔ propertyOf? node name = some v := by
  rw [propertyOf?]
  constructor
  · rintro (⟨h, hValue⟩ | ⟨hOwn, h⟩)
    · have hTruthy : v.isTruthy = true := by
        rwa [Value.isFalsy_iff, Bool.not_eq_false] at hValue
      rw [h]
      exact if_pos hTruthy
    · cases hField : node.field? name with
      | none => exact h
      | some own => simp [Value.isFalsy_iff.1 (hOwn own hField), h]
  · intro h
    cases hField : node.field? name with
    | none =>
      rw [hField] at h
      exact .metadata (by simp [hField]) h
    | some own =>
      rw [hField] at h
      cases hTruthy : own.isTruthy with
      | true =>
        obtain rfl : own = v := by simpa [hTruthy] using h
        exact .own hField (by simp [Value.isFalsy_iff, hTruthy])
      | false =>
        refine .metadata (fun other hOther => ?_) (by simpa [hTruthy] using h)
        rw [← Option.some.inj (hField.symm.trans hOther)]
        exact Value.isFalsy_iff.2 hTruthy

/-! ### Patterns -/

structure NodePattern.Fits (p : NodePattern Value) (node : Node) : Prop where
  label : p.labels = [] ∨ ∃ label ∈ p.labels, SameWord label node.kind
  properties : ∀ name expected, p.properties.find? name = some expected →
    ∃ v, HasProperty node name v ∧ v.compare? expected = some .eq

/-- **A pattern accepts the nodes that fit it.** -/
theorem accepts_iff_fits {p : NodePattern Value} {node : Node} :
    p.accepts node = true ↔ p.Fits node := by
  have hLabel : (p.labels.isEmpty || p.labels.any (sameWord · node.kind)) = true ↔
      p.labels = [] ∨ ∃ label ∈ p.labels, SameWord label node.kind := by
    simp only [Bool.or_eq_true, List.isEmpty_iff, List.any_eq_true, sameWord_iff]
  have hProperties : (p.properties.toList.all fun entry =>
        (propertyOf? node entry.1).any (·.equals entry.2)) = true ↔
      ∀ name expected, p.properties.find? name = some expected →
        ∃ v, HasProperty node name v ∧ v.compare? expected = some .eq := by
    simp only [List.all_eq_true, Option.any_eq_true, hasProperty_iff, Fields.find?_eq_some_iff,
      Value.equals, beq_iff_eq, Prod.forall]
  rw [NodePattern.accepts, Bool.and_eq_true, hLabel, hProperties]
  exact ⟨fun h => ⟨h.1, h.2⟩, fun h => ⟨h.label, h.properties⟩⟩

end Query

end CodeGraph
