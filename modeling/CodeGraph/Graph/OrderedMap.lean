import CodeGraph.Fields

/-! # Maps in the order of insertion

Elements under keys of their own. The elements are in a map, and their keys are in a list of their
own, in the order in which they came. An element that is put in under a key that is there already
takes the place of the other; one that was taken out and is put in again comes last.
-/

namespace CodeGraph

variable {α : Type}

@[ext]
structure OrderedMap (key : α → String) where
  content : Fields α
  order : List String
  nodup : order.Nodup
  mem_order : ∀ id, id ∈ order ↔ (content.find? id).isSome
  key_eq : ∀ {id x}, content.find? id = some x → key x = id

namespace OrderedMap

variable {key : α → String}

def empty : OrderedMap key where
  content := ∅
  order := []
  nodup := .nil
  mem_order id := by simp
  key_eq h := by cases h

/-- The elements in the order in which they came. -/
def toList (m : OrderedMap key) : List α := m.order.filterMap m.content.find?

def find? (m : OrderedMap key) (id : String) : Option α := m.content.find? id

def size (m : OrderedMap key) : Nat := m.content.size

theorem map_key_toList (m : OrderedMap key) : m.toList.map key = m.order := by
  have hFound : ∀ ids : List String, (∀ id ∈ ids, id ∈ m.order) →
      (ids.filterMap m.content.find?).map key = ids := by
    intro ids hIds
    induction ids with
    | nil => rfl
    | cons id ids ih =>
      have hSome := (m.mem_order id).1 (hIds id List.mem_cons_self)
      obtain ⟨x, hx⟩ := Option.isSome_iff_exists.1 hSome
      rw [List.filterMap_cons_some hx, List.map_cons, m.key_eq hx,
        ih fun other hOther => hIds other (List.mem_cons_of_mem _ hOther)]
  exact hFound m.order fun _ hId => hId

theorem nodup_map_toList (m : OrderedMap key) : (m.toList.map key).Nodup := by
  rw [map_key_toList]
  exact m.nodup

theorem contains_iff_mem_order (m : OrderedMap key) (id : String) :
    m.content.contains id = true ↔ id ∈ m.order := by
  rw [Fields.contains_eq_isSome, m.mem_order]

def put (m : OrderedMap key) (x : α) : OrderedMap key where
  content := m.content.insert (key x) x
  order := if m.content.contains (key x) then m.order else m.order ++ [key x]
  nodup := by
    simp only [contains_iff_mem_order]
    split
    · exact m.nodup
    · next hNew =>
      refine List.nodup_append.2 ⟨m.nodup, by simp, fun a ha b hb => ?_⟩
      rw [List.mem_singleton.1 hb]
      exact fun hEq => hNew (hEq ▸ ha)
  mem_order id := by
    simp only [contains_iff_mem_order, Fields.find?_insert]
    by_cases hId : id = key x
    · rw [hId, if_pos rfl]
      split
      · next hOld => simpa using hOld
      · simp
    · rw [if_neg hId, ← m.mem_order]
      split <;> simp [hId]
  key_eq {id y} h := by
    rw [Fields.find?_insert] at h
    split at h
    · next hId => rw [hId, ← Option.some.inj h]
    · exact m.key_eq h

/-- The map without the element under a key. -/
def erase (m : OrderedMap key) (id : String) : OrderedMap key where
  content := m.content.erase id
  order := m.order.filter (· != id)
  nodup := m.nodup.filter _
  mem_order other := by
    rw [Fields.find?_erase, List.mem_filter, m.mem_order]
    by_cases hOther : other = id <;> simp [hOther]
  key_eq {other y} h := by
    rw [Fields.find?_erase] at h
    split at h
    · cases h
    · exact m.key_eq h

/-- The keys of the elements that pass a test. -/
def keysOf (m : OrderedMap key) (test : α → Bool) : List String :=
  (m.content.toList.filter (test ·.2)).map (key ·.2)

def eraseAll (m : OrderedMap key) (test : α → Bool) : OrderedMap key where
  content := (m.keysOf test).foldl Fields.erase m.content
  order := m.order.filter (!(m.keysOf test).contains ·)
  nodup := m.nodup.filter _
  mem_order id := by
    rw [Fields.find?_foldl_erase, List.mem_filter, m.mem_order]
    by_cases hId : id ∈ m.keysOf test <;> simp [hId]
  key_eq {id y} h := by
    rw [Fields.find?_foldl_erase] at h
    split at h
    · cases h
    · exact m.key_eq h

end OrderedMap

end CodeGraph
