import Mathlib.Algebra.Order.Ring.Nat
import Mathlib.Logic.Function.Iterate
import CodeGraph.Proofs.Cache.History

/-!
# What removals leave

Taking entries out of a tidy cache leaves the others as they are, in their order of recency, and
touches none of the counts but those of bytes and evictions: `Keeps` says so, with a test for the
keys that stay.  Evicting `k` times keeps the keys that stand after the first `k`
(`Tidy.keeps_iterate_evict`).

Storing takes out the entry under the key, then evicts the fewest entries that make room, and one
more if there are still as many as there may be (`set_of_tidy`).
-/

namespace CodeGraph.Cache

variable {settings : CacheSettings} {now : Nat} {c d f : Cache} {key : String} {e : Entry}
variable {test test' : String → Bool} {m n : Nat}

/-- The entries of `c` whose keys pass the test are left in `d`, and `n` evictions were counted.
Nothing else differs but the bytes. -/
def Keeps (test : String → Bool) (n : Nat) (c d : Cache) : Prop :=
  ∃ memory, d = { c with
    entries := c.entries.filter fun p => test p.1
    order := c.order.filter test
    memory
    evictions := c.evictions + n }

namespace Keeps

theorem entries (h : Keeps test n c d) : d.entries = c.entries.filter fun p => test p.1 := by
  obtain ⟨memory, rfl⟩ := h
  rfl

theorem order (h : Keeps test n c d) : d.order = c.order.filter test := by
  obtain ⟨memory, rfl⟩ := h
  rfl

theorem evictions (h : Keeps test n c d) : d.evictions = c.evictions + n := by
  obtain ⟨memory, rfl⟩ := h
  rfl

theorem mem_keys (h : Keeps test n c d) : key ∈ d.keys ↔ key ∈ c.keys ∧ test key = true := by
  rw [keys, keys, h.entries, List.mem_map, List.mem_map]
  constructor
  · rintro ⟨p, hp, rfl⟩
    exact ⟨⟨p, (List.mem_filter.1 hp).1, rfl⟩, (List.mem_filter.1 hp).2⟩
  · rintro ⟨⟨p, hp, rfl⟩, hTest⟩
    exact ⟨p, List.mem_filter.2 ⟨hp, hTest⟩, rfl⟩

theorem trans (h : Keeps test m c d) (g : Keeps test' n d f) :
    Keeps (fun key => test key && test' key) (m + n) c f := by
  obtain ⟨memory, rfl⟩ := h
  obtain ⟨memory', rfl⟩ := g
  refine ⟨memory', ?_⟩
  simp only [List.filter_filter, Bool.and_comm, Nat.add_assoc]

theorem congr (h : Keeps test n c d) (hc : Tidy now c)
    (hTest : ∀ key ∈ c.keys, test key = test' key) : Keeps test' n c d := by
  obtain ⟨memory, rfl⟩ := h
  refine ⟨memory, ?_⟩
  rw [List.filter_congr fun p hp => hTest p.1 (List.mem_map_of_mem hp),
    List.filter_congr fun key hKey => hTest key (hc.mem_keys.1 hKey)]

end Keeps

theorem order_evict (c : Cache) : c.evict.order = c.order.tail := by
  rw [evict]
  split
  · next hOrder => rw [hOrder, List.tail_nil]
  · next hOrder =>
    rw [hOrder, List.tail_cons]
    split <;> rfl

theorem order_iterate_evict (c : Cache) (k : Nat) :
    (Cache.evict^[k] c).order = c.order.drop k := by
  induction k generalizing c with
  | zero => rfl
  | succ k ih => rw [Function.iterate_succ_apply, ih, order_evict, List.drop_tail]

namespace Tidy

theorem nodup_order (h : Tidy now c) : c.order.Nodup := h.order.nodup_iff.2 h.nodup

theorem keeps_remove (h : Tidy now c) (key : String) : Keeps (· != key) 0 c (c.remove key) := by
  by_cases hKey : key ∈ c.keys
  · obtain ⟨e, hFind⟩ := exists_find? hKey
    refine ⟨c.memory - e.size, ?_⟩
    rw [remove_of_find? hFind, h.nodup_order.erase_eq_filter]
    rfl
  · have hOrder : c.order.filter (· != key) = c.order := by
      rw [List.filter_eq_self]
      intro a ha
      have hNe : a ≠ key := fun he => hKey (h.mem_keys.1 (he ▸ ha))
      simpa using hNe
    refine ⟨c.memory, ?_⟩
    rw [remove_of_not_mem hKey, filter_key_eq_self hKey, hOrder]
    rfl

theorem keeps_evict {rest : List String} (h : Tidy now c) (hOrder : c.order = key :: rest) :
    Keeps (· != key) 1 c c.evict := by
  rcases h.evict_eq with ⟨hNil, _⟩ | ⟨first, others, hFirst, hEvict⟩
  · rw [hOrder] at hNil
    cases hNil
  · rw [hOrder] at hFirst
    obtain ⟨rfl, rfl⟩ := List.cons.inj hFirst
    obtain ⟨memory, hRemove⟩ := h.keeps_remove key
    refine ⟨memory, ?_⟩
    rw [hEvict, hRemove]

theorem iterate_evict (h : Tidy now c) (k : Nat) : Tidy now (Cache.evict^[k] c) := by
  induction k generalizing c with
  | zero => exact h
  | succ k ih => exact ih h.evict

/-- **Evicting keeps what stands later in the recency order.** -/
theorem keeps_iterate_evict (h : Tidy now c) (k : Nat) :
    Keeps (· ∈ c.order.drop k) (c.order.take k).length c (Cache.evict^[k] c) := by
  induction k generalizing c with
  | zero =>
    have hAll : Keeps (fun _ => true) 0 c c := ⟨c.memory, by simp⟩
    refine hAll.congr h fun key hKey => ?_
    simpa using h.mem_keys.2 hKey
  | succ k ih =>
    rw [Function.iterate_succ_apply]
    cases hOrder : c.order with
    | nil =>
      have hEvict : c.evict = c := by rw [Cache.evict, hOrder]
      have hKeeps := ih h
      rw [hOrder, List.drop_nil, List.take_nil] at hKeeps
      rw [hEvict]
      exact hKeeps
    | cons key rest =>
      have hFirst := h.keeps_evict hOrder
      have hNot : key ∉ rest := (List.nodup_cons.1 (hOrder ▸ h.nodup_order)).1
      have hNext := ih h.evict
      rw [order_evict, hOrder, List.tail_cons] at hNext
      rw [List.drop_succ_cons, List.take_succ_cons, List.length_cons, Nat.add_comm]
      refine (hFirst.trans hNext).congr h fun a _ => ?_
      by_cases hMem : a ∈ rest.drop k
      · have hNe : a ≠ key := fun he => hNot (he ▸ List.mem_of_mem_drop hMem)
        simp [hMem, hNe]
      · simp [hMem]

theorem keeps_removeAll (h : Tidy now c) (test : Entry → Bool) :
    Keeps (· ∉ (c.entries.filter fun p => test p.2).map (·.1)) 0 c (c.removeAll test).2 := by
  have hFold : ∀ (doomed : List String) (d : Cache), Tidy now d →
      Keeps (· ∉ doomed) 0 d (doomed.foldl Cache.remove d) := by
    intro doomed
    induction doomed with
    | nil => exact fun d hd => ⟨d.memory, by simp⟩
    | cons key doomed ih =>
      intro d hd
      refine ((hd.keeps_remove key).trans (ih _ (hd.remove key))).congr hd fun a _ => ?_
      by_cases ha : a = key <;> simp [ha]
  exact hFold _ c h

theorem keeps_invalidate (h : Tidy now c) (paths : Option (List String)) :
    ∃ test, Keeps test 0 c (c.invalidate paths).2 := by
  cases paths with
  | none => exact ⟨fun _ => false, 0, by simp [invalidate]⟩
  | some paths => exact ⟨_, h.keeps_removeAll _⟩

end Tidy

/-- What a lookup searches has lost an entry at most. -/
theorem Searched.keeps_count {l : Lookup} (h : Searched settings now c l d) (hc : Tidy now c) :
    ∃ test, Keeps test 0 (c.count settings l) d := by
  cases h with
  | all => exact ⟨fun _ => true, c.memory, by simp [count]⟩
  | expired => exact ⟨_, ((Change.count c l).tidy hc).keeps_remove l.key⟩

/-! ### Room -/

/-- The bytes of the entries under some keys. -/
def bytesUnder (c : Cache) (keys : List String) : Nat :=
  ((c.entries.filter fun p => p.1 ∈ keys).map (·.2.size)).sum

/-- Of some keys, those after the first `n` leave room for `size` bytes, and more of them do not. -/
structure LeavesRoom (limit size : Nat) (c : Cache) (keys : List String) (n : Nat) : Prop where
  room : c.bytesUnder (keys.drop n) + size ≤ limit
  least : ∀ m < n, limit < c.bytesUnder (keys.drop m) + size

theorem memory_iterate_evict (h : Tidy now c) (k : Nat) :
    (Cache.evict^[k] c).memory = c.bytesUnder (c.order.drop k) := by
  rw [(h.iterate_evict k).memory, bytes, (h.keeps_iterate_evict k).entries]
  rfl

/-- **Making room is evicting the fewest entries that leave it.** -/
theorem makeRoom_eq_iterate {limit size : Nat} (h : Tidy now c) (hSize : size ≤ limit) :
    ∃ n, LeavesRoom limit size c c.order n ∧ c.makeRoom limit size = Cache.evict^[n] c := by
  have hFold : ∀ (keys : List String) (d : Cache), ∃ n,
      keys.foldl (fun cache _ => if limit < cache.memory + size then cache.evict else cache) d =
        Cache.evict^[n] d ∧ ∀ m < n, limit < (Cache.evict^[m] d).memory + size := by
    intro keys
    induction keys with
    | nil => exact fun d => ⟨0, rfl, fun m hm => absurd hm (Nat.not_lt_zero m)⟩
    | cons key keys ih =>
      intro d
      rw [List.foldl_cons]
      by_cases hFull : limit < d.memory + size
      · obtain ⟨n, hn, hLeast⟩ := ih d.evict
        rw [if_pos hFull]
        refine ⟨n + 1, hn, fun m hm => ?_⟩
        cases m with
        | zero => exact hFull
        | succ m => exact hLeast m (Nat.lt_of_succ_lt_succ hm)
      · rw [if_neg hFull]
        exact ih d
  obtain ⟨n, hn, hLeast⟩ := hFold c.order c
  have hRoom : (c.makeRoom limit size).memory + size ≤ limit := memory_makeRoom_le h hSize
  rw [makeRoom, hn, memory_iterate_evict h] at hRoom
  exact ⟨n, ⟨hRoom, fun m hm => memory_iterate_evict h m ▸ hLeast m hm⟩, hn⟩

/-! ### Storing -/

theorem length_order (h : Tidy now c) : c.order.length = c.entries.length := by
  rw [h.order.length_eq, keys, List.length_map]

/-- How many entries go so that one of `size` bytes can come: the fewest that leave room for it, and
one more if those that are left are as many as there may be. -/
def Evicts (settings : CacheSettings) (size : Nat) (c : Cache) (keys : List String) (k : Nat) :
    Prop :=
  ∃ n, LeavesRoom settings.maxMemory size c keys n ∧
    k = if settings.maxEntries ≤ (keys.drop n).length then n + 1 else n

theorem makePlace_eq_iterate (h : Tidy now c) (n : Nat) :
    (Cache.evict^[n] c).makePlace settings =
      Cache.evict^[if settings.maxEntries ≤ (c.order.drop n).length then n + 1 else n] c := by
  have hLength : (Cache.evict^[n] c).entries.length = (c.order.drop n).length := by
    rw [← length_order (h.iterate_evict n), order_iterate_evict]
  rw [makePlace, hLength]
  split
  · exact (Function.iterate_succ_apply' _ _ _).symm
  · rfl

theorem bytesUnder_remove {keys : List String} (h : key ∉ keys) :
    (c.remove key).bytesUnder keys = c.bytesUnder keys := by
  rw [bytesUnder, bytesUnder, entries_remove, List.filter_filter]
  refine congrArg (fun entries : List (String × Entry) => (entries.map (·.2.size)).sum)
    (List.filter_congr fun p _ => ?_)
  by_cases hKey : p.1 = key
  · simp [hKey, h]
  · simp [hKey]

def others (c : Cache) (key : String) : List String := c.order.filter (· != key)

theorem not_mem_others (c : Cache) (key : String) : key ∉ c.others key := by
  intro h
  simpa using (List.mem_filter.1 h).2

theorem LeavesRoom.of_remove {limit size : Nat}
    (h : LeavesRoom limit size (c.remove key) (c.others key) n) :
    LeavesRoom limit size c (c.others key) n := by
  have hBytes : ∀ m, (c.remove key).bytesUnder ((c.others key).drop m) =
      c.bytesUnder ((c.others key).drop m) :=
    fun m => bytesUnder_remove fun hKey => not_mem_others c key (List.mem_of_mem_drop hKey)
  exact ⟨hBytes n ▸ h.room, fun m hm => hBytes m ▸ h.least m hm⟩

/-- `d` is what `c` becomes for an answer of `size` bytes under a key: the entry under the key goes,
and the first `k` of the others are evicted. -/
structure Readied (settings : CacheSettings) (now size : Nat) (key : String) (k : Nat)
    (c d : Cache) : Prop where
  evicts : Evicts settings size c (c.others key) k
  keeps : Keeps (· ∈ (c.others key).drop k) ((c.others key).take k).length c d
  order : d.order = (c.others key).drop k
  tidy : Tidy now d

theorem Readied.new {size k : Nat} (h : Readied settings now size key k c d) : key ∉ d.keys := by
  intro hKey
  rw [← h.tidy.mem_keys, h.order] at hKey
  exact not_mem_others c key (List.mem_of_mem_drop hKey)

/-- **Storing an answer that fits** keeps the other entries but the first few of them, and puts the
new one behind them. -/
theorem set_of_tidy {l : Lookup} {answer : Answer} (h : Tidy now c) (hOn : settings.enabled = true)
    (hFits : answer.size ≤ settings.maxMemory) :
    ∃ k d, Readied settings now answer.size l.key k c d ∧
      c.set settings now l answer = d.put l.key (l.entry now answer) := by
  have hRemove := h.keeps_remove l.key
  have hOrder : (c.remove l.key).order = c.others l.key := hRemove.order
  obtain ⟨n, hRoom, hMake⟩ := makeRoom_eq_iterate (h.remove l.key) hFits
  have hPlace := @makePlace_eq_iterate settings now _ (h.remove l.key) n
  rw [hOrder] at hRoom hPlace
  obtain ⟨k, hk⟩ : ∃ k, k = if settings.maxEntries ≤ ((c.others l.key).drop n).length
    then n + 1 else n := ⟨_, rfl⟩
  rw [← hk] at hPlace
  have hEvict := (h.remove l.key).keeps_iterate_evict k
  rw [hOrder] at hEvict
  refine ⟨k, Cache.evict^[k] (c.remove l.key), ⟨⟨n, hRoom.of_remove, hk⟩, ?_, ?_, ?_⟩, ?_⟩
  · have hBoth := hRemove.trans hEvict
    rw [Nat.zero_add] at hBoth
    refine hBoth.congr h fun a _ => ?_
    by_cases ha : a = l.key
    · have hNot : l.key ∉ (c.others l.key).drop k :=
        fun hKey => not_mem_others c l.key (List.mem_of_mem_drop hKey)
      simp [ha, hNot]
    · simp [ha]
  · rw [order_iterate_evict, hOrder]
  · exact (h.remove l.key).iterate_evict k
  · rw [set, if_neg (by simp [hOn, hFits]), hMake]
    dsimp only
    rw [hPlace]

end CodeGraph.Cache
