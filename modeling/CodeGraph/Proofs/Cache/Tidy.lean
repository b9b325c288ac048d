import CodeGraph.Proofs.Cache.Change

/-!
# Tidy caches

Entries, recency order and byte count are kept apart and updated one by one.  `Tidy` says that they
agree; the steps of a change preserve it (`Change.tidy`), and so does a `put` under a new key
(`Tidy.put`).  In a tidy cache `makeRoom` always finds the room it looks for
(`memory_makeRoom_le`).  Storing is a change followed by a `put` (`set_eq`), so that the bytes stay
within the limit (`Sound.set`).
-/

namespace CodeGraph

namespace Cache

variable {settings : CacheSettings} {now : Nat} {c d : Cache} {key : String} {e : Entry}

/-! ### Parts that agree -/

/-- Entries, recency order and byte count of a cache agree, and the order is that of the last
uses. -/
structure Tidy (now : Nat) (c : Cache) : Prop where
  nodup : c.keys.Nodup
  order : c.order.Perm c.keys
  memory : c.memory = c.bytes
  stored : ∀ p ∈ c.entries, p.2.stored ≤ p.2.accessed
  accessed : ∀ p ∈ c.entries, p.2.accessed ≤ now
  sorted : c.order.Pairwise fun a b => ∀ e e', (a, e) ∈ c.entries → (b, e') ∈ c.entries →
    e.accessed ≤ e'.accessed

theorem tidy_empty (now : Nat) : Tidy now .empty :=
  ⟨List.nodup_nil, .refl _, rfl, fun _ h => (List.not_mem_nil h).elim,
    fun _ h => (List.not_mem_nil h).elim, List.Pairwise.nil⟩

namespace Tidy

theorem mem_keys (h : Tidy now c) : key ∈ c.order ↔ key ∈ c.keys := h.order.mem_iff

theorem mono {later : Nat} (h : Tidy now c) (hLater : now ≤ later) : Tidy later c :=
  { h with accessed := fun p hp => Nat.le_trans (h.accessed p hp) hLater }

theorem same (h : Tidy now c) (hEntries : d.entries.Perm c.entries) (hOrder : d.order = c.order)
    (hMemory : d.memory = c.memory) : Tidy now d where
  nodup := (hEntries.map _).nodup_iff.2 h.nodup
  order := by
    rw [hOrder]
    exact h.order.trans (hEntries.map _).symm
  memory := by
    rw [hMemory, h.memory, bytes_eq_of_perm hEntries]
  stored p hp := h.stored p (hEntries.subset hp)
  accessed p hp := h.accessed p (hEntries.subset hp)
  sorted := by
    rw [hOrder]
    exact h.sorted.imp fun hle e e' he he' =>
      hle e e' (hEntries.subset he) (hEntries.subset he')

theorem size_le (h : Tidy now c) (he : (key, e) ∈ c.entries) : e.size ≤ c.memory := by
  have hPerm := entries_perm h.nodup he
  rw [← entries_remove] at hPerm
  rw [h.memory, bytes_eq_of_perm_cons hPerm]
  exact Nat.le_add_right _ _

theorem remove (h : Tidy now c) (key : String) : Tidy now (c.remove key) := by
  by_cases hKey : key ∈ c.keys
  · obtain ⟨e, hFind⟩ := exists_find? hKey
    have hPerm := entries_perm h.nodup (mem_of_find? hFind)
    have hSubset : c.entries.filter (·.1 != key) ⊆ c.entries := List.filter_subset_self _
    rw [remove_of_find? hFind]
    refine ⟨?_, ?_, ?_, fun p hp => h.stored p (hSubset hp), fun p hp => h.accessed p (hSubset hp),
      ?_⟩
    · exact ((hPerm.map _).nodup_iff.1 h.nodup).of_cons
    · have hOrder := (h.order.trans (hPerm.map _)).erase key
      rwa [List.map_cons, List.erase_cons_head] at hOrder
    · have hBytes : c.bytes = e.size + (c.remove key).bytes :=
        bytes_eq_of_perm_cons (by rwa [entries_remove])
      rw [remove_of_find? hFind] at hBytes
      show c.memory - e.size = _
      rw [h.memory, hBytes, Nat.add_sub_cancel_left]
      rfl
    · exact (h.sorted.sublist List.erase_sublist).imp fun hle e e' he he' =>
        hle e e' (hSubset he) (hSubset he')
  · rw [remove_of_not_mem hKey]
    exact h

theorem evict_eq (h : Tidy now c) :
    c.order = [] ∧ c.evict = c ∨
      ∃ key rest, c.order = key :: rest ∧
        c.evict = { c.remove key with evictions := c.evictions + 1 } := by
  cases hOrder : c.order with
  | nil =>
    refine Or.inl ⟨rfl, ?_⟩
    rw [Cache.evict, hOrder]
  | cons key rest =>
    obtain ⟨e, hFind⟩ := exists_find? (h.mem_keys.1 (by rw [hOrder]; exact List.mem_cons_self))
    refine Or.inr ⟨key, rest, rfl, ?_⟩
    rw [Cache.evict, hOrder, remove_of_find? hFind, hOrder, List.erase_cons_head]
    simp only [hFind]

theorem evict (h : Tidy now c) : Tidy now c.evict := by
  rcases h.evict_eq with ⟨_, hEvict⟩ | ⟨key, rest, _, hEvict⟩
  · rw [hEvict]
    exact h
  · rw [hEvict]
    exact (h.remove key).same (.refl _) rfl rfl

theorem hit (h : Tidy now c) (key : String) : Tidy now (c.hit settings now key).2 := by
  by_cases hKey : key ∈ c.keys
  · have hOrder : key ∈ c.order := h.mem_keys.2 hKey
    have hNodup : c.order.Nodup := h.order.nodup_iff.2 h.nodup
    refine ⟨?_, ?_, ?_, ?_, ?_, ?_⟩
    · rw [keys_hit]
      exact h.nodup
    · rw [keys_hit, order_hit hKey]
      exact (List.perm_append_comm.trans (List.perm_cons_erase hOrder).symm).trans h.order
    · rw [memory_hit, bytes_hit, h.memory]
    · rintro ⟨a, f⟩ hf
      obtain ⟨f', hf', rfl⟩ := mem_entries_hit hf
      have hStored : f'.stored ≤ f'.accessed := h.stored _ hf'
      have hAccessed : f'.accessed ≤ now := h.accessed _ hf'
      dsimp only
      split
      · exact Nat.le_trans hStored hAccessed
      · exact hStored
    · rintro ⟨a, f⟩ hf
      obtain ⟨f', hf', rfl⟩ := mem_entries_hit hf
      dsimp only
      split
      · exact Nat.le_refl _
      · exact h.accessed _ hf'
    · -- what stands before the key in the new order was not hit
      have hOther : ∀ a ∈ c.order.erase key, (a == key) = false := by
        intro a ha
        simpa using (hNodup.mem_erase_iff.1 ha).1
      rw [order_hit hKey]
      refine List.pairwise_append.2 ⟨?_, List.pairwise_singleton _ _, ?_⟩
      · refine (h.sorted.sublist List.erase_sublist).imp_of_mem ?_
        intro a b ha hb hle f g hf hg
        obtain ⟨f', hf', rfl⟩ := mem_entries_hit hf
        obtain ⟨g', hg', rfl⟩ := mem_entries_hit hg
        rw [hOther a ha, hOther b hb]
        exact hle f' g' hf' hg'
      · intro a ha b hb f g hf hg
        rw [List.mem_singleton.1 hb] at hg
        obtain ⟨f', hf', rfl⟩ := mem_entries_hit hf
        obtain ⟨g', hg', rfl⟩ := mem_entries_hit hg
        rw [hOther a ha, beq_self_eq_true]
        exact h.accessed _ hf'
  · rw [Cache.hit, find?_eq_none_iff.2 hKey]
    exact h

theorem put (h : Tidy now c) (hKey : key ∉ c.keys) (hStored : e.stored = now)
    (hAccessed : e.accessed = now) : Tidy now (c.put key e) := by
  have hEntries : (c.put key e).entries = c.entries ++ [(key, e)] := by
    rw [Cache.put, filter_key_eq_self hKey]
  have hKeys : (c.put key e).keys = c.keys ++ [key] := by
    rw [keys, hEntries, List.map_append]
    rfl
  have hMem : ∀ p, p ∈ (c.put key e).entries → p ∈ c.entries ∨ p = (key, e) := by
    intro p hp
    rw [hEntries] at hp
    rcases List.mem_append.1 hp with hp | hp
    · exact Or.inl hp
    · exact Or.inr (List.mem_singleton.1 hp)
  refine ⟨?_, ?_, ?_, ?_, ?_, ?_⟩
  · rw [hKeys, List.nodup_append]
    refine ⟨h.nodup, List.nodup_singleton _, fun a ha b hb heq => hKey ?_⟩
    rwa [← List.mem_singleton.1 hb, ← heq]
  · rw [hKeys]
    exact h.order.append_right [key]
  · have hPerm : (c.put key e).entries.Perm ((key, e) :: c.entries) := by
      rw [hEntries]
      exact List.perm_append_comm
    rw [bytes_eq_of_perm_cons hPerm, ← h.memory, Nat.add_comm]
    rfl
  · intro p hp
    rcases hMem p hp with hp | rfl
    · exact h.stored p hp
    · exact Nat.le_of_eq (hStored.trans hAccessed.symm)
  · intro p hp
    rcases hMem p hp with hp | rfl
    · exact h.accessed p hp
    · exact Nat.le_of_eq hAccessed
  · have hNe : ∀ a ∈ c.order, a ≠ key := fun a ha he => hKey (h.mem_keys.1 (he ▸ ha))
    refine List.pairwise_append.2 ⟨?_, List.pairwise_singleton _ _, ?_⟩
    · refine h.sorted.imp_of_mem ?_
      intro a b ha hb hle f g hf hg
      rcases hMem _ hf with hf | hf
      · rcases hMem _ hg with hg | hg
        · exact hle f g hf hg
        · exact absurd (congrArg Prod.fst hg) (hNe b hb)
      · exact absurd (congrArg Prod.fst hf) (hNe a ha)
    · intro a ha b hb f g hf hg
      rw [List.mem_singleton.1 hb] at hg
      have hLast : g = e := by
        rcases hMem _ hg with hg | hg
        · exact absurd (List.mem_map_of_mem hg) hKey
        · exact congrArg Prod.snd hg
      rcases hMem _ hf with hf | hf
      · rw [hLast, hAccessed]
        exact h.accessed _ hf
      · exact absurd (congrArg Prod.fst hf) (hNe a ha)

end Tidy

/-- **A change leaves a tidy cache tidy.** -/
theorem Change.tidy (h : Change settings now c d) : Tidy now c → Tidy now d := by
  induction h with
  | trans _ _ ihFirst ihNext => exact fun hc => ihNext (ihFirst hc)
  | same hEntries hOrder hMemory => exact fun hc => hc.same hEntries hOrder hMemory
  | remove c key => exact fun hc => hc.remove key
  | evict c => exact Tidy.evict
  | hit c key => exact fun hc => hc.hit key
  | @clear c d hEntries hOrder hMemory =>
    intro _
    have hEmpty := tidy_empty now
    exact hEmpty.same (by rw [hEntries]; exact .refl _) hOrder hMemory

/-! ### Room -/

theorem memory_makeRoom_le {limit size : Nat} (h : Tidy now c) (hSize : size ≤ limit) :
    (c.makeRoom limit size).memory + size ≤ limit := by
  have hFold : ∀ (keys : List String) (d : Cache), Tidy now d → d.order.length ≤ keys.length →
      (keys.foldl (fun cache _ => if limit < cache.memory + size then cache.evict else cache)
        d).memory + size ≤ limit := by
    intro keys
    induction keys with
    | nil =>
      intro d hd hLength
      have hOrder : d.order = [] := List.length_eq_zero_iff.1 (Nat.le_zero.1 hLength)
      have hEntries : d.entries = [] := by
        have hKeys := hd.order
        rw [hOrder] at hKeys
        exact List.map_eq_nil_iff.1 hKeys.nil_eq.symm
      rw [List.foldl_nil, hd.memory, bytes, hEntries]
      simpa using hSize
    | cons key keys ih =>
      intro d hd hLength
      rw [List.foldl_cons]
      by_cases hFull : limit < d.memory + size
      · rw [if_pos hFull]
        refine ih _ hd.evict ?_
        rcases hd.evict_eq with ⟨hOrder, hEvict⟩ | ⟨first, rest, hOrder, hEvict⟩
        · rw [hEvict, hOrder]
          exact Nat.zero_le _
        · obtain ⟨e, hFind⟩ : ∃ e, d.find? first = some e :=
            exists_find? (hd.mem_keys.1 (by rw [hOrder]; exact List.mem_cons_self))
          rw [hEvict, remove_of_find? hFind, hOrder, List.erase_cons_head]
          rw [hOrder, List.length_cons, List.length_cons] at hLength
          exact Nat.le_of_succ_le_succ hLength
      · rw [if_neg hFull]
        -- with room there is nothing to do any more
        have hStay : ∀ keys : List String, keys.foldl
            (fun cache _ => if limit < cache.memory + size then cache.evict else cache) d = d := by
          intro keys
          induction keys with
          | nil => rfl
          | cons key keys ih => rw [List.foldl_cons, if_neg hFull, ih]
        rw [hStay]
        exact Nat.le_of_not_lt hFull
  exact hFold c.order c h (Nat.le_refl _)

/-- **What storing does**: nothing, if the cache is off or the answer too large; else a change that
leaves no entry under the key and, in a tidy cache, room for the answer, and then a `put`. -/
theorem set_eq (settings : CacheSettings) (now : Nat) (c : Cache) (l : Lookup) (answer : Answer) :
    (settings.enabled = false ∨ settings.maxMemory < answer.size) ∧
        c.set settings now l answer = c ∨
      ∃ d, Change settings now c d ∧ l.key ∉ d.keys ∧
        (Tidy now c → d.memory + answer.size ≤ settings.maxMemory) ∧
        c.set settings now l answer = d.put l.key (l.entry now answer) := by
  rw [set]
  split
  · next hOff =>
    simp only [Bool.or_eq_true, Bool.not_eq_true', decide_eq_true_eq] at hOff
    exact Or.inl ⟨hOff, rfl⟩
  · next hOn =>
    simp only [Bool.or_eq_true, Bool.not_eq_true', decide_eq_true_eq, not_or] at hOn
    have hSize : answer.size ≤ settings.maxMemory := Nat.le_of_not_lt hOn.2
    have hRemove : Change settings now c (c.remove l.key) := .remove c l.key
    have hRoom : Change settings now (c.remove l.key)
        ((c.remove l.key).makeRoom settings.maxMemory answer.size) := .makeRoom _ _ _
    have hPlace : Change settings now ((c.remove l.key).makeRoom settings.maxMemory answer.size)
        (((c.remove l.key).makeRoom settings.maxMemory answer.size).makePlace settings) :=
      .makePlace _
    refine Or.inr ⟨_, hRemove.trans (hRoom.trans hPlace), ?_, ?_, rfl⟩
    · exact fun hKey => not_mem_keys_remove c l.key ((hRoom.trans hPlace).keys_subset hKey)
    · intro hc
      exact Nat.le_trans (Nat.add_le_add_right hPlace.memory_le _)
        (memory_makeRoom_le (hRemove.tidy hc) hSize)

/-! ### The limit of memory -/

/-- A tidy cache that takes no more bytes than it may. -/
structure Sound (settings : CacheSettings) (now : Nat) (c : Cache) : Prop extends Tidy now c where
  limit : c.memory ≤ settings.maxMemory

theorem sound_empty (settings : CacheSettings) (now : Nat) : Sound settings now .empty :=
  { tidy_empty now with limit := Nat.zero_le _ }

theorem Change.sound (h : Change settings now c d) (hc : Sound settings now c) :
    Sound settings now d :=
  { h.tidy hc.toTidy with limit := Nat.le_trans h.memory_le hc.limit }

theorem Sound.same (h : Sound settings now c) (hEntries : d.entries.Perm c.entries)
    (hOrder : d.order = c.order) (hMemory : d.memory = c.memory) : Sound settings now d :=
  (Change.same hEntries hOrder hMemory).sound h

theorem Sound.mono {later : Nat} (h : Sound settings now c) (hLater : now ≤ later) :
    Sound settings later c :=
  { h.toTidy.mono hLater with limit := h.limit }

theorem Sound.set (h : Sound settings now c) (l : Lookup) (answer : Answer) :
    Sound settings now (c.set settings now l answer) := by
  rcases set_eq settings now c l answer with ⟨_, hSet⟩ | ⟨d, hChange, hKey, hRoom, hSet⟩
  · rw [hSet]
    exact h
  · rw [hSet]
    exact { (hChange.tidy h.toTidy).put hKey rfl rfl with limit := hRoom h.toTidy }

end Cache

end CodeGraph
