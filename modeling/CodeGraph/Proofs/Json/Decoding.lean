import Mathlib.Data.List.Forall2
import Mathlib.Data.List.Nodup
import CodeGraph.Json.Record
import CodeGraph.Proofs.Fields

/-!
# Decoding lists, maps and records

A list is decoded item by item, a map entry by entry, and a record by the names of its fields.
-/

namespace CodeGraph.Json

variable {α β γ : Type}

/-! ### Item by item -/

theorem mapM_eq_some_iff {f : α → Option β} {xs : List α} {ys : List β} :
    xs.mapM f = some ys ↔ List.Forall₂ (fun x y => f x = some y) xs ys := by
  induction xs generalizing ys with
  | nil => cases ys <;> simp
  | cons x xs ih =>
    simp only [List.mapM_cons, Option.bind_eq_bind, Option.bind_eq_some_iff]
    constructor
    · rintro ⟨y, hHead, rest, hRest, hCons⟩
      cases hCons
      exact .cons hHead (ih.1 hRest)
    · rintro (_ | ⟨hHead, hRest⟩)
      exact ⟨_, hHead, _, ih.2 hRest, rfl⟩

theorem mapM_map {f : α → β} {decode : β → Option γ} {g : α → γ} {xs : List α}
    (h : ∀ x ∈ xs, decode (f x) = some (g x)) : (xs.map f).mapM decode = some (xs.map g) := by
  rw [mapM_eq_some_iff, List.forall₂_map_left_iff, List.forall₂_map_right_iff]
  exact List.forall₂_same.2 h

theorem exists_of_mem_mapM {f : α → Option β} {xs : List α} {ys : List β}
    (h : xs.mapM f = some ys) {y : β} (hy : y ∈ ys) : ∃ x ∈ xs, f x = some y := by
  have hAll := mapM_eq_some_iff.1 h
  clear h
  induction hAll with
  | nil => cases hy
  | cons hHead _ ih =>
    rcases List.mem_cons.1 hy with rfl | hy
    · exact ⟨_, List.mem_cons_self, hHead⟩
    · obtain ⟨x, hx, hDecode⟩ := ih hy
      exact ⟨x, List.mem_cons_of_mem _ hx, hDecode⟩

theorem list?_map {encode : α → Json} {decode : Json → Option β} {g : α → β} {xs : List α}
    (h : ∀ x ∈ xs, decode (encode x) = some (g x)) :
    list? decode (array (xs.map encode)) = some (xs.map g) :=
  mapM_map h

theorem fields?_map {encode : α → Json} {decode : Json → Option β} {g : α → β}
    {fields : CodeGraph.Fields α}
    (h : ∀ entry ∈ fields.toList, decode (encode entry.2) = some (g entry.2)) :
    fields? decode (object (fields.map encode).toList) = some (fields.map g) := by
  have hEntries : (fields.toList.map fun entry => (entry.1, encode entry.2)).mapM
      (fun field => (decode field.2).map (field.1, ·)) = some (fields.map g).toList :=
    mapM_map fun entry hMem => by rw [h entry hMem, Option.map_some]
  rw [CodeGraph.Fields.toList_map, fields?, hEntries, Option.map_some,
    CodeGraph.Fields.ofList_toList]

/-! ### Records -/

namespace Record

theorem ofJson?_object {fields : List (String × Json)} (h : (fields.map (·.1)).Nodup)
    (names : List String) : ofJson? names (object fields) = some ⟨false, fields⟩ := by
  have hOnce : ∀ name, fields.countP (·.1 == name) ≤ 1 := fun name => by
    have hCount := List.nodup_iff_count_le_one.1 h name
    rwa [List.count, List.countP_map] at hCount
  rw [ofJson?, if_neg]
  simpa using fun name _ => hOnce name

theorem mem_of_ofJson? {names : List String} {value : Json} {r : Record}
    (h : ofJson? names value = some r) {field : String × Json} (hMem : field ∈ r.fields) :
    (∃ fields, value = object fields ∧ field ∈ fields) ∨
      ∃ items, value = array items ∧ field.2 ∈ items := by
  unfold ofJson? at h
  split at h
  · split at h
    · cases h
    · cases h
      exact Or.inl ⟨_, rfl, hMem⟩
  · split at h
    · cases h
    · cases h
      exact Or.inr ⟨_, rfl, (List.of_mem_zip hMem).2⟩
  · cases h

theorem mem_of_lookup {entries : List (String × Json)} {name : String} {value : Json}
    (h : entries.lookup name = some value) : (name, value) ∈ entries := by
  obtain ⟨_, _, rfl, _⟩ := List.lookup_eq_some_iff.1 h
  simp

variable {r : Record} {name : String} {decode : Json → Option α}

theorem of_required {x : α} (h : r.required name decode = some x) :
    ∃ value, (name, value) ∈ r.fields ∧ decode value = some x := by
  obtain ⟨value, hLookup, hDecode⟩ := Option.bind_eq_some_iff.1 h
  exact ⟨value, mem_of_lookup hLookup, hDecode⟩

theorem of_defaulted {default x : α} (h : r.defaulted name default decode = some x) :
    x = default ∨ ∃ value, (name, value) ∈ r.fields ∧ decode value = some x := by
  rw [defaulted] at h
  split at h
  · exact Or.inl (Option.some.inj h).symm
  · next hLookup => exact Or.inr ⟨_, mem_of_lookup hLookup, h⟩

end Record

end CodeGraph.Json
