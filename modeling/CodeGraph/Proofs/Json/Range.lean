import CodeGraph.Proofs.Double.Range
import CodeGraph.Proofs.Json.Decoding
import CodeGraph.Proofs.Json.Numbers

/-!
# What a text can hold

Every value read from a text has its whole numbers in the range of 64 bits and its doubles finite
(`bounded_of_ofText?`).  A number too large for a double leaves a `broken` value.
-/

namespace CodeGraph.Json

open Text

mutual

/-- Whether all whole numbers of a value are of 64 bits and all doubles finite. -/
def Bounded : Json → Prop
  | integer i => InRange i
  | double x => x.isFinite = true
  | array items => BoundedItems items
  | object fields => BoundedFields fields
  | _ => True

def BoundedItems : List Json → Prop
  | [] => True
  | value :: rest => value.Bounded ∧ BoundedItems rest

def BoundedFields : List (String × Json) → Prop
  | [] => True
  | (_, value) :: rest => value.Bounded ∧ BoundedFields rest

end

theorem boundedItems_iff {items : List Json} :
    BoundedItems items ↔ ∀ value ∈ items, value.Bounded := by
  induction items with
  | nil => simp [BoundedItems]
  | cons value rest ih => simp [BoundedItems, ih]

theorem boundedFields_iff {fields : List (String × Json)} :
    BoundedFields fields ↔ ∀ field ∈ fields, field.2.Bounded := by
  induction fields with
  | nil => simp [BoundedFields]
  | cons field rest ih =>
    obtain ⟨name, value⟩ := field
    simp [BoundedFields, ih]

/-! ### Numbers -/

theorem extend_lt {s : Significand} (h : s.value < UInt64.size) (ds : List Char) :
    (s.extend ds).value < UInt64.size := by
  induction ds generalizing s with
  | nil => exact h
  | cons c ds ih =>
    rw [Significand.extend]
    split
    · next hFits => exact ih hFits
    · exact h

theorem ofDigits_lt (ds : List Char) : (Significand.ofDigits ds).value < UInt64.size :=
  extend_lt (by decide) ds

theorem isFinite_scale {x y : Double} {exponent : Int} {fuel : Nat} (hx : x.isFinite = true)
    (h : scale x exponent fuel = some y) : y.isFinite = true := by
  have hPower : ∀ n, 0 < powerOfTen n := fun n => Nat.pow_pos (by decide)
  induction fuel generalizing x exponent with
  | zero => cases h
  | succ fuel ih =>
    rw [scale] at h
    split at h
    · split at h
      · dsimp only at h
        split at h
        · next hFinite => cases h; exact hFinite
        · cases h
      · cases h
        exact Double.isFinite_div hx (hPower _)
    · split at h
      · cases h
        exact hx
      · split at h
        · cases h
        · exact ih (Double.isFinite_div hx (hPower _)) h

theorem bounded_signed {negative : Bool} {value : Option Double}
    (h : ∀ x, value = some x → x.isFinite = true) : (Numeral.signed negative value).Bounded := by
  cases value with
  | none => trivial
  | some x => exact h x rfl

theorem bounded_value (n : Numeral) : n.value.Bounded := by
  have hSize : UInt64.size = 2 ^ 64 := rfl
  have hWhole := ofDigits_lt n.whole
  rw [Numeral.value]
  dsimp only
  generalize Significand.ofDigits n.whole = whole at hWhole ⊢
  split
  · split
    · exact ⟨by omega, by omega⟩
    · split
      · exact (Double.isFinite_neg _).trans (Double.isFinite_ofNat (by omega))
      · next h =>
        simp only [Bool.or_eq_true, decide_eq_true_eq] at h
        exact ⟨by omega, by omega⟩
  · have hDigits : ∀ ds, (Significand.extend ⟨whole.value, 0, 0⟩ ds).value < UInt64.size :=
      fun ds => @extend_lt ⟨whole.value, 0, 0⟩ hWhole ds
    have hScaled : ∀ place, (Numeral.signed n.negative (scale
        (.ofNat (Significand.extend ⟨whole.value, 0, 0⟩ n.fraction).value) place 4)).Bounded := by
      intro place
      have hLt := hDigits n.fraction
      exact bounded_signed fun x hx => isFinite_scale (Double.isFinite_ofNat (by omega)) hx
    split
    all_goals
      split
      · split
        · trivial
        · exact decide_eq_true (show min 0 Double.top < Double.top by decide)
      · exact hScaled _

theorem bounded_readNumber {negative : Bool} {cs rest : List Char} {value : Json}
    (h : readNumber negative cs = some (value, rest)) : value.Bounded := by
  simp only [readNumber, Option.bind_eq_bind, Option.bind_eq_some_iff] at h
  obtain ⟨whole, _, h⟩ := h
  split at h
  · cases h
  · simp only [Option.bind_eq_some_iff] at h
    obtain ⟨fraction, _, exponent, _, h⟩ := h
    cases h
    exact bounded_value _

/-! ### Whole texts -/

theorem bounded_ofFields {fields : List (Option String × Json)}
    (h : ∀ field ∈ fields, field.2.Bounded) : (ofFields fields).Bounded := by
  rw [ofFields]
  split
  · next found hFound =>
    refine boundedFields_iff.2 fun field hMem => ?_
    obtain ⟨given, hGiven, hNamed⟩ := exists_of_mem_mapM hFound hMem
    obtain ⟨name, _, hField⟩ := Option.map_eq_some_iff.1 hNamed
    rw [← hField]
    exact h given hGiven
  · trivial

section Step

/-! What is read with one step more is bounded if what is read with the steps before is. -/

variable {fuel : Nat}

theorem bounded_readValue
    (hItems : ∀ cs items rest, readItems fuel cs = some (items, rest) →
      ∀ value ∈ items, value.Bounded)
    (hFields : ∀ cs fields rest, readFields fuel cs = some (fields, rest) →
      ∀ field ∈ fields, field.2.Bounded)
    {cs rest : List Char} {value : Json} (h : readValue (fuel + 1) cs = some (value, rest)) :
    value.Bounded := by
  rw [readValue] at h
  split at h
  · cases h; trivial
  · cases h; trivial
  · cases h; trivial
  · obtain ⟨⟨text, _⟩, _, hValue⟩ := Option.map_eq_some_iff.1 h
    cases hValue
    cases text <;> trivial
  · split at h
    · cases h; trivial
    · obtain ⟨⟨items, _⟩, hRead, hValue⟩ := Option.map_eq_some_iff.1 h
      cases hValue
      exact boundedItems_iff.2 (hItems _ _ _ hRead)
  · split at h
    · cases h; trivial
    · obtain ⟨⟨fields, _⟩, hRead, hValue⟩ := Option.map_eq_some_iff.1 h
      cases hValue
      exact bounded_ofFields (hFields _ _ _ hRead)
  · exact bounded_readNumber h
  · exact bounded_readNumber h

theorem bounded_readItems
    (hValue : ∀ cs value rest, readValue fuel cs = some (value, rest) → value.Bounded)
    (hItems : ∀ cs items rest, readItems fuel cs = some (items, rest) →
      ∀ value ∈ items, value.Bounded)
    {cs rest : List Char} {items : List Json} (h : readItems (fuel + 1) cs = some (items, rest)) :
    ∀ value ∈ items, value.Bounded := by
  simp only [readItems, Option.bind_eq_bind, Option.bind_eq_some_iff] at h
  obtain ⟨⟨value, after⟩, hRead, h⟩ := h
  have hFirst := hValue _ _ _ hRead
  split at h
  · simp only [Option.bind_eq_some_iff] at h
    obtain ⟨⟨others, _⟩, hOthers, h⟩ := h
    cases h
    exact List.forall_mem_cons.2 ⟨hFirst, hItems _ _ _ hOthers⟩
  · cases h
    exact List.forall_mem_singleton.2 hFirst
  · cases h

theorem bounded_readFields
    (hValue : ∀ cs value rest, readValue fuel cs = some (value, rest) → value.Bounded)
    (hFields : ∀ cs fields rest, readFields fuel cs = some (fields, rest) →
      ∀ field ∈ fields, field.2.Bounded)
    {cs rest : List Char} {fields : List (Option String × Json)}
    (h : readFields (fuel + 1) cs = some (fields, rest)) : ∀ field ∈ fields, field.2.Bounded := by
  simp only [readFields, Option.bind_eq_bind] at h
  split at h
  · simp only [Option.bind_eq_some_iff] at h
    obtain ⟨⟨name, afterName⟩, _, h⟩ := h
    split at h
    · simp only [Option.bind_eq_some_iff] at h
      obtain ⟨⟨value, after⟩, hRead, h⟩ := h
      have hFirst := hValue _ _ _ hRead
      split at h
      · simp only [Option.bind_eq_some_iff] at h
        obtain ⟨⟨others, _⟩, hOthers, h⟩ := h
        cases h
        exact List.forall_mem_cons.2 ⟨hFirst, hFields _ _ _ hOthers⟩
      · cases h
        exact List.forall_mem_singleton.2 hFirst
      · cases h
    · cases h
  · cases h

end Step

/-- What the reader gives with a bound on its steps, for the three kinds of what it reads. -/
theorem bounded_read (fuel : Nat) :
    (∀ cs value rest, readValue fuel cs = some (value, rest) → value.Bounded) ∧
    (∀ cs items rest, readItems fuel cs = some (items, rest) → ∀ value ∈ items, value.Bounded) ∧
    (∀ cs fields rest, readFields fuel cs = some (fields, rest) →
      ∀ field ∈ fields, field.2.Bounded) := by
  induction fuel with
  | zero =>
    refine ⟨fun _ _ _ h => ?_, fun _ _ _ h => ?_, fun _ _ _ h => ?_⟩
    · rw [readValue] at h
      cases h
    · rw [readItems] at h
      cases h
    · rw [readFields] at h
      cases h
  | succ fuel ih =>
    obtain ⟨ihValue, ihItems, ihFields⟩ := ih
    exact ⟨fun _ _ _ => bounded_readValue ihItems ihFields,
      fun _ _ _ => bounded_readItems ihValue ihItems,
      fun _ _ _ => bounded_readFields ihValue ihFields⟩

/-- **Every value read from a text is bounded.** -/
theorem bounded_of_ofText? {text : String} {value : Json} (h : ofText? text = some value) :
    value.Bounded := by
  rw [ofText?, ofChars?] at h
  split at h
  · next found rest hRead =>
    split at h
    · cases h
      exact (bounded_read _).1 _ _ _ hRead
    · cases h
  · cases h

/-! ### What is decoded from bounded values -/

theorem Record.bounded {names : List String} {value : Json} {r : Record}
    (h : Record.ofJson? names value = some r) (hBounded : value.Bounded) :
    ∀ field ∈ r.fields, field.2.Bounded := by
  intro field hMem
  rcases Record.mem_of_ofJson? h hMem with ⟨fields, rfl, hField⟩ | ⟨items, rfl, hItem⟩
  · exact boundedFields_iff.1 hBounded field hField
  · exact boundedItems_iff.1 hBounded field.2 hItem

theorem isFinite_of_double? {value : Json} (hBounded : value.Bounded) {x : Double}
    (h : double? value = some x) : x.isFinite = true := by
  cases value with
  | integer i =>
    obtain ⟨hLow, hHigh⟩ := hBounded
    cases h
    exact Double.isFinite_ofInt (by omega)
  | double y =>
    cases h
    exact hBounded
  | _ => cases h

theorem lt_of_nat? {value : Json} (hBounded : value.Bounded) {n : Nat} (h : nat? value = some n) :
    n < 2 ^ 64 := by
  cases value with
  | integer i =>
    obtain ⟨_, hHigh⟩ := hBounded
    rw [nat?] at h
    split at h
    · cases h
      omega
    · cases h
  | _ => cases h

theorem forall_of_list? {α : Type} {decode : Json → Option α} {P : α → Prop}
    (hDecode : ∀ value x, value.Bounded → decode value = some x → P x) {value : Json}
    (hBounded : value.Bounded) {xs : List α} (h : list? decode value = some xs) :
    ∀ x ∈ xs, P x := by
  cases value with
  | array items =>
    intro x hx
    obtain ⟨item, hItem, hValue⟩ := exists_of_mem_mapM h hx
    exact hDecode item x (boundedItems_iff.1 hBounded item hItem) hValue
  | _ => cases h

theorem forall_of_fields? {α : Type} {decode : Json → Option α} {P : α → Prop}
    (hDecode : ∀ value x, value.Bounded → decode value = some x → P x) {value : Json}
    (hBounded : value.Bounded) {found : CodeGraph.Fields α}
    (h : fields? decode value = some found) :
    ∀ entry ∈ found.toList, P entry.2 := by
  cases value with
  | object fields =>
    intro entry hEntry
    obtain ⟨entries, hEntries, rfl⟩ := Option.map_eq_some_iff.1 h
    rcases CodeGraph.Fields.mem_insertAll hEntry with hMem | hMem
    · cases hMem
    · obtain ⟨field, hField, hValue⟩ := exists_of_mem_mapM hEntries hMem
      obtain ⟨x, hx, rfl⟩ := Option.map_eq_some_iff.1 hValue
      exact hDecode _ x (boundedFields_iff.1 hBounded field hField) hx
  | _ => cases h

end CodeGraph.Json
