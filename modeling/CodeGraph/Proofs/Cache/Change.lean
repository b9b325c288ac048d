import Mathlib.Data.List.Nodup
import Mathlib.Data.List.Perm.Basic
import CodeGraph.Cache.WarmUp

/-!
# How a cache changes

Every operation but the storing of an answer is made of a few steps: entries are taken out, one is
used, and counts go up.  `Change` says so once.  There is one lemma for each operation, and what a
change leaves of a cache is read off the steps: none stores anything (`Change.origins_subset`) or
takes more memory (`Change.memory_le`).
-/

namespace CodeGraph

def Entry.origin (e : Entry) : Entry := { e with accessed := e.stored, hits := 0 }

namespace Cache

variable {settings : CacheSettings} {now : Nat} {c d : Cache} {key : String} {e : Entry}

def keys (c : Cache) : List String := c.entries.map (·.1)

def origins (c : Cache) : List (String × Entry) := c.entries.map fun p => (p.1, p.2.origin)

def bytes (c : Cache) : Nat := (c.entries.map (·.2.size)).foldr (· + ·) 0

/-! ### Entries under keys -/

theorem mem_of_find? (h : c.find? key = some e) : (key, e) ∈ c.entries := by
  obtain ⟨before, after, hEntries, _⟩ := List.lookup_eq_some_iff.1 h
  rw [hEntries]
  simp

theorem find?_eq_none_iff : c.find? key = none ↔ key ∉ c.keys := by
  rw [find?, List.lookup_eq_none_iff, keys, List.mem_map]
  constructor
  · rintro h ⟨p, hp, rfl⟩
    simpa using h p hp
  · intro h p hp
    have hNe : key ≠ p.1 := fun he => h ⟨p, hp, he.symm⟩
    simpa using hNe

theorem exists_find? (h : key ∈ c.keys) : ∃ e, c.find? key = some e := by
  cases hFind : c.find? key with
  | none => exact absurd h (find?_eq_none_iff.1 hFind)
  | some e => exact ⟨e, rfl⟩

theorem filter_key_eq_self (h : key ∉ c.keys) : c.entries.filter (·.1 != key) = c.entries := by
  rw [List.filter_eq_self]
  intro p hp
  have hNe : p.1 ≠ key := fun he => h (List.mem_map.2 ⟨p, hp, he⟩)
  simpa using hNe

theorem entries_perm (hNodup : c.keys.Nodup) (he : (key, e) ∈ c.entries) :
    c.entries.Perm ((key, e) :: c.entries.filter (·.1 != key)) := by
  obtain ⟨before, after, hEntries⟩ := List.append_of_mem he
  rw [keys, hEntries, List.map_append, List.map_cons] at hNodup
  have hApart : ∀ p ∈ before ++ after, (p.1 != key) = true := by
    intro p hp
    have hNot := (List.nodup_middle.1 hNodup).notMem
    rw [← List.map_append] at hNot
    have hNe : p.1 ≠ key := fun heq => hNot (List.mem_map.2 ⟨p, hp, heq⟩)
    simpa using hNe
  have hFilter : c.entries.filter (·.1 != key) = before ++ after := by
    rw [hEntries, List.filter_append, List.filter_cons_of_neg (by simp), ← List.filter_append,
      List.filter_eq_self.2 hApart]
  rw [hFilter, hEntries]
  exact List.perm_middle

theorem bytes_eq_of_perm (h : d.entries.Perm c.entries) : d.bytes = c.bytes := by
  have hSum := (h.map fun p => p.2.size).sum_nat
  exact hSum

theorem bytes_eq_of_perm_cons (h : c.entries.Perm ((key, e) :: d.entries)) :
    c.bytes = e.size + d.bytes := by
  have hSum := (h.map fun p => p.2.size).sum_nat
  exact hSum

/-! ### Removal -/

theorem remove_of_find? (h : c.find? key = some e) :
    c.remove key = { c with
      entries := c.entries.filter (·.1 != key)
      order := c.order.erase key
      memory := c.memory - e.size } := by
  rw [remove, h]

theorem remove_of_not_mem (h : key ∉ c.keys) : c.remove key = c := by
  rw [remove, find?_eq_none_iff.2 h]

theorem entries_remove (c : Cache) (key : String) :
    (c.remove key).entries = c.entries.filter (·.1 != key) := by
  by_cases h : key ∈ c.keys
  · obtain ⟨e, he⟩ := exists_find? h
    rw [remove_of_find? he]
  · rw [remove_of_not_mem h, filter_key_eq_self h]

theorem not_mem_keys_remove (c : Cache) (key : String) : key ∉ (c.remove key).keys := by
  rw [keys, entries_remove, List.mem_map]
  rintro ⟨p, hp, rfl⟩
  simpa using (List.mem_filter.1 hp).2

/-! ### Hits -/

theorem origins_hit (c : Cache) (key : String) :
    (c.hit settings now key).2.origins = c.origins := by
  rw [hit]
  split
  · rfl
  · rw [origins, List.map_map, origins]
    refine List.map_congr_left fun p _ => ?_
    by_cases hp : (p.1 == key) = true
    · simp only [Function.comp, if_pos hp]
      rfl
    · simp only [Function.comp, if_neg hp]

theorem keys_eq_map_origins (c : Cache) : c.keys = c.origins.map (·.1) := by
  rw [keys, origins, List.map_map]
  rfl

theorem bytes_eq_map_origins (c : Cache) :
    c.bytes = (c.origins.map (·.2.size)).foldr (· + ·) 0 := by
  rw [bytes, origins, List.map_map]
  rfl

theorem keys_hit (c : Cache) (key : String) : (c.hit settings now key).2.keys = c.keys := by
  rw [keys_eq_map_origins, origins_hit, ← keys_eq_map_origins]

theorem bytes_hit (c : Cache) (key : String) : (c.hit settings now key).2.bytes = c.bytes := by
  rw [bytes_eq_map_origins, origins_hit, ← bytes_eq_map_origins]

theorem mem_entries_hit {a : String} {f : Entry}
    (h : (a, f) ∈ (c.hit settings now key).2.entries) :
    ∃ f', (a, f') ∈ c.entries ∧ f = if a == key then f'.used now else f' := by
  rw [hit] at h
  cases hFind : c.find? key with
  | none =>
    rw [hFind] at h
    have hMem : (a, f) ∈ c.entries := h
    have hNe : a ≠ key := by
      rintro rfl
      exact find?_eq_none_iff.1 hFind (List.mem_map_of_mem hMem)
    exact ⟨f, hMem, by rw [if_neg (by simpa using hNe)]⟩
  | some e =>
    rw [hFind] at h
    obtain ⟨⟨a', f'⟩, hf', he⟩ := List.mem_map.1 h
    cases he
    exact ⟨f', hf', rfl⟩

theorem order_hit (h : key ∈ c.keys) :
    (c.hit settings now key).2.order = c.order.erase key ++ [key] := by
  obtain ⟨e, hFind⟩ := exists_find? h
  rw [hit, hFind]

theorem memory_hit (c : Cache) (key : String) : (c.hit settings now key).2.memory = c.memory := by
  rw [hit]
  split <;> rfl

/-! ### Steps -/

/-- What can become of a cache at a time without an answer being stored. -/
inductive Change (settings : CacheSettings) (now : Nat) : Cache → Cache → Prop
  | trans {c d f : Cache} (hFirst : Change settings now c d) (hNext : Change settings now d f) :
      Change settings now c f
  /-- Counts, frequencies and candidates may change, and the order that a map has its entries in. -/
  | same {c d : Cache} (hEntries : d.entries.Perm c.entries) (hOrder : d.order = c.order)
      (hMemory : d.memory = c.memory) : Change settings now c d
  | remove (c : Cache) (key : String) : Change settings now c (c.remove key)
  | evict (c : Cache) : Change settings now c c.evict
  | hit (c : Cache) (key : String) : Change settings now c (c.hit settings now key).2
  | clear {c d : Cache} (hEntries : d.entries = []) (hOrder : d.order = [])
      (hMemory : d.memory = 0) : Change settings now c d

namespace Change

theorem refl (c : Cache) : Change settings now c c := .same (.refl _) rfl rfl

theorem makeRoom (limit size : Nat) (c : Cache) :
    Change settings now c (c.makeRoom limit size) := by
  have hFold : ∀ (keys : List String) (d : Cache), Change settings now c d →
      Change settings now c (keys.foldl
        (fun cache _ => if limit < cache.memory + size then cache.evict else cache) d) := by
    intro keys
    induction keys with
    | nil => exact fun d hd => hd
    | cons key keys ih =>
      intro d hd
      rw [List.foldl_cons]
      refine ih _ ?_
      split
      · exact hd.trans (.evict d)
      · exact hd
  exact hFold c.order c (refl c)

theorem makePlace (c : Cache) : Change settings now c (c.makePlace settings) := by
  rw [Cache.makePlace]
  split
  · exact .evict c
  · exact refl c

theorem removeAll (c : Cache) (test : Entry → Bool) :
    Change settings now c (c.removeAll test).2 := by
  have hFold : ∀ (keys : List String) (d : Cache), Change settings now c d →
      Change settings now c (keys.foldl Cache.remove d) := by
    intro keys
    induction keys with
    | nil => exact fun d hd => hd
    | cons key keys ih => exact fun d hd => ih _ (hd.trans (.remove d key))
  exact hFold _ c (refl c)

theorem count (c : Cache) (l : Lookup) : Change settings now c (c.count settings l) :=
  .same (.refl _) rfl rfl

theorem getSimilar (c : Cache) (l : Lookup) :
    Change settings now c (c.getSimilar settings now l).2 := by
  rw [Cache.getSimilar]
  split
  · exact .trans (d := { c with similarHits := c.similarHits + 1 }) (.same (.refl _) rfl rfl)
      (.hit _ _)
  · exact .same (.refl _) rfl rfl

theorem get (c : Cache) (l : Lookup) : Change settings now c (c.get settings now l).2 := by
  rw [Cache.get]
  split
  · exact refl c
  · refine .trans (.count c l) ?_
    dsimp only
    split
    · split
      · exact .trans (.remove _ _) (.getSimilar _ l)
      · exact .hit _ _
    · exact .getSimilar _ l

theorem invalidate (c : Cache) (paths : Option (List String)) :
    Change settings now c (c.invalidate paths).2 := by
  cases paths with
  | none => exact .clear rfl rfl rfl
  | some paths => exact .removeAll c _

theorem cleanUp (c : Cache) : Change settings now c (c.cleanUp settings now).2 := .removeAll c _

end Change

/-! ### What is left -/

theorem origins_subset_of_entries_subset (h : d.entries ⊆ c.entries) : d.origins ⊆ c.origins :=
  List.map_subset _ h

theorem entries_evict_subset (c : Cache) : c.evict.entries ⊆ c.entries := by
  rw [evict]
  split
  · exact List.Subset.refl _
  · split
    · exact List.Subset.refl _
    · exact List.filter_subset_self _

/-- **A change stores nothing.** -/
theorem Change.origins_subset (h : Change settings now c d) : d.origins ⊆ c.origins := by
  induction h with
  | trans _ _ ihFirst ihNext => exact List.Subset.trans ihNext ihFirst
  | same hEntries => exact origins_subset_of_entries_subset hEntries.subset
  | remove c key =>
    refine origins_subset_of_entries_subset ?_
    rw [entries_remove]
    exact List.filter_subset_self _
  | evict c => exact origins_subset_of_entries_subset (entries_evict_subset c)
  | hit c key => rw [origins_hit]; exact List.Subset.refl _
  | clear hEntries => rw [origins, hEntries]; exact List.nil_subset _

theorem Change.keys_subset (h : Change settings now c d) : d.keys ⊆ c.keys := by
  rw [keys_eq_map_origins, keys_eq_map_origins]
  exact List.map_subset _ h.origins_subset

theorem memory_evict_le (c : Cache) : c.evict.memory ≤ c.memory := by
  rw [evict]
  split
  · exact Nat.le_refl _
  · split
    · exact Nat.le_refl _
    · exact Nat.sub_le _ _

theorem Change.memory_le (h : Change settings now c d) : d.memory ≤ c.memory := by
  induction h with
  | trans _ _ ihFirst ihNext => exact Nat.le_trans ihNext ihFirst
  | same _ _ hMemory => exact Nat.le_of_eq hMemory
  | remove c key =>
    rw [Cache.remove]
    split
    · exact Nat.le_refl _
    · exact Nat.sub_le _ _
  | evict c => exact memory_evict_le c
  | hit c key => exact Nat.le_of_eq (memory_hit c key)
  | clear _ _ hMemory => rw [hMemory]; exact Nat.zero_le _

end Cache

end CodeGraph
