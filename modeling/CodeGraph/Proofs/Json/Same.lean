import CodeGraph.Proofs.Json.Range
import CodeGraph.Proofs.Value.Equality

/-!
# Values that are the same

Comparing two values gives the same answer either way (`same_comm`).  A value is the same as itself
unless some part of it is no number or denotes nothing, and the text of a value has no such part
(`same_self_of_field?`).
-/

namespace CodeGraph

theorem Double.equals_comm (x y : Double) : x.equals y = y.equals x := by
  rw [Bool.eq_iff_iff, equals, equals, beq_iff_eq, beq_iff_eq, compare?_eq_iff, compare?_eq_iff]
  constructor
  · rintro ⟨hx, hy, hRank⟩
    exact ⟨hy, hx, hRank.symm⟩
  · rintro ⟨hy, hx, hRank⟩
    exact ⟨hx, hy, hRank.symm⟩

namespace Json

/-! ### Two values -/

mutual

theorem same_comm : ∀ a b : Json, a.same b = b.same a
  | array xs, array ys => by rw [same, same, sameItems_comm xs ys]
  | object xs, object ys => by rw [same, same, sameFields_comm xs ys]
  | double x, double y => by rw [same, same, Double.equals_comm]
  | bool a, bool b => by rw [same, same, Bool.beq_comm]
  | integer i, integer j => by rw [same, same, Bool.beq_comm]
  | string s, string t => by rw [same, same, Bool.beq_comm]
  | null, b => by cases b <;> rfl
  | broken, b => by cases b <;> rfl
  | array _, null | array _, bool _ | array _, integer _ | array _, double _ | array _, string _
  | array _, object _ | array _, broken => rfl
  | object _, null | object _, bool _ | object _, integer _ | object _, double _
  | object _, string _ | object _, array _ | object _, broken => rfl
  | double _, null | double _, bool _ | double _, integer _ | double _, string _
  | double _, array _ | double _, object _ | double _, broken => rfl
  | bool _, null | bool _, double _ | bool _, integer _ | bool _, string _
  | bool _, array _ | bool _, object _ | bool _, broken => rfl
  | integer _, null | integer _, double _ | integer _, bool _ | integer _, string _
  | integer _, array _ | integer _, object _ | integer _, broken => rfl
  | string _, null | string _, double _ | string _, bool _ | string _, integer _
  | string _, array _ | string _, object _ | string _, broken => rfl

theorem sameItems_comm : ∀ xs ys : List Json, sameItems xs ys = sameItems ys xs
  | [], [] => rfl
  | [], _ :: _ => rfl
  | _ :: _, [] => rfl
  | x :: xs, y :: ys => by rw [sameItems, sameItems, same_comm x y, sameItems_comm xs ys]

theorem sameFields_comm : ∀ xs ys : List (String × Json), sameFields xs ys = sameFields ys xs
  | [], [] => rfl
  | [], _ :: _ => rfl
  | _ :: _, [] => rfl
  | (a, x) :: xs, (b, y) :: ys => by
    rw [sameFields, sameFields, same_comm x y, sameFields_comm xs ys, Bool.beq_comm]

end

/-! ### A value and itself -/

theorem sameItems_self {items : List Json} (h : ∀ value ∈ items, value.same value = true) :
    sameItems items items = true := by
  induction items with
  | nil => rfl
  | cons value rest ih =>
    rw [sameItems, h value List.mem_cons_self,
      ih fun other hMem => h other (List.mem_cons_of_mem _ hMem), Bool.and_self]

theorem sameFields_self {fields : List (String × Json)}
    (h : ∀ field ∈ fields, field.2.same field.2 = true) : sameFields fields fields = true := by
  induction fields with
  | nil => rfl
  | cons field rest ih =>
    obtain ⟨name, value⟩ := field
    have hRest := ih fun other hMem => h other (List.mem_cons_of_mem _ hMem)
    have hValue : value.same value = true := h (name, value) List.mem_cons_self
    rw [sameFields, hRest, hValue, beq_self_eq_true, Bool.and_self, Bool.and_self]

theorem forall_sortFields {P : String × Json → Prop} {fields : List (String × Json)}
    (h : ∀ field ∈ fields, P field) : ∀ field ∈ sortFields fields, P field := by
  intro field hMem
  rcases Fields.mem_insertAll hMem with hNone | hMem
  · exact absurd hNone List.not_mem_nil
  · exact h field hMem

theorem denotesFields_iff {depth : Nat} {fields : List (String × Json)} :
    denotesFields depth fields = true ↔ ∀ field ∈ fields, field.2.denotes depth = true := by
  induction fields with
  | nil => simp [denotesFields]
  | cons field rest ih =>
    obtain ⟨name, value⟩ := field
    simp [denotesFields, ih]

mutual

/-- **A value is the same as itself if all its parts denote something and its doubles are finite.** -/
theorem same_self : ∀ (value : Json) {depth : Nat}, value.Bounded → value.denotes depth = true →
    value.canonical.same value.canonical = true
  | null, _, _, _ => rfl
  | bool b, _, _, _ => beq_self_eq_true b
  | integer i, _, _, _ => beq_self_eq_true i
  | string s, _, _, _ => beq_self_eq_true s
  | double x, _, hFinite, _ => by
    have hNumber : x.isNaN = false := Double.isNaN_of_isFinite hFinite
    exact beq_iff_eq.2 (Double.compare?_eq_iff.2 ⟨hNumber, hNumber, rfl⟩)
  | broken, _, _, h => by rw [denotes] at h; cases h
  | array items, depth, hBounded, h => by
    rw [denotes, Bool.and_eq_true] at h
    rw [canonical, same]
    exact sameItems_self (same_selfItems items hBounded h.2)
  | object fields, depth, hBounded, h => by
    rw [denotes, Bool.and_eq_true] at h
    rw [canonical, same]
    exact sameFields_self (forall_sortFields (same_selfFields fields hBounded h.2))

theorem same_selfItems : ∀ (items : List Json) {depth : Nat}, BoundedItems items →
    denotesItems depth items = true →
    ∀ value ∈ canonicalItems items, value.same value = true
  | [], _, _, _ => fun _ h => absurd h List.not_mem_nil
  | value :: rest, _, hBounded, h => by
    rw [denotesItems, Bool.and_eq_true] at h
    intro other hMem
    rcases List.mem_cons.1 hMem with rfl | hMem
    · exact same_self value hBounded.1 h.1
    · exact same_selfItems rest hBounded.2 h.2 other hMem

theorem same_selfFields : ∀ (fields : List (String × Json)) {depth : Nat}, BoundedFields fields →
    denotesFields depth fields = true →
    ∀ field ∈ canonicalFields fields, field.2.same field.2 = true
  | [], _, _, _ => fun _ h => absurd h List.not_mem_nil
  | (_, value) :: rest, _, hBounded, h => by
    rw [denotesFields, Bool.and_eq_true] at h
    intro other hMem
    rcases List.mem_cons.1 hMem with rfl | hMem
    · exact same_self value hBounded.1 h.1
    · exact same_selfFields rest hBounded.2 h.2 other hMem

end

/-- **A field of an object that was read is the same as itself.** -/
theorem same_self_of_field? {text name : String} {fields : List (String × Json)} {value : Json}
    (h : parse? text = some (object fields)) (hField : (object fields).field? name = some value) :
    value.canonical.same value.canonical = true := by
  obtain ⟨hRead, hDenotes⟩ := Option.filter_eq_some_iff.1 h
  rw [denotes, Bool.and_eq_true, denotesFields_iff] at hDenotes
  have hMem : (name, value) ∈ fields := List.mem_reverse.1 (Record.mem_of_lookup hField)
  exact same_self value (boundedFields_iff.1 (bounded_of_ofText? hRead) _ hMem)
    (hDenotes.2 _ hMem)

end Json

end CodeGraph
