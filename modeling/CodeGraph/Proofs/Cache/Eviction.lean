import CodeGraph.Proofs.Cache.Count
import CodeGraph.Proofs.Cache.History
import CodeGraph.Proofs.Cache.Removal

/-!
# What is evicted

The recency order of a cache is that of the last uses of its entries (`recent_of_recorded`): a use
puts the key last, and everything else only takes keys out.  So what storing evicts are the entries
whose last uses are the longest ago, and no more of them than have to go
(`set_evicts_least_recent`).
-/

namespace CodeGraph.Cache

variable {settings : CacheSettings} {now : Nat} {c d : Cache} {key : String} {e : Entry}
variable {used : List String} {a b : String}

/-! ### Last uses -/

def UsedBefore (used : List String) (a b : String) : Prop :=
  ∃ before after, used = before ++ a :: after ∧ a ∉ after ∧ b ∈ after

theorem exists_last_use (h : a ∈ used) : ∃ before after, used = before ++ a :: after ∧ a ∉ after := by
  induction used with
  | nil => cases h
  | cons first rest ih =>
    by_cases hRest : a ∈ rest
    · obtain ⟨before, after, rfl, hLast⟩ := ih hRest
      exact ⟨first :: before, after, rfl, hLast⟩
    · obtain rfl : a = first := (List.mem_cons.1 h).resolve_right hRest
      exact ⟨[], rest, rfl, hRest⟩

theorem UsedBefore.concat (h : UsedBefore used a b) (hNe : a ≠ key) :
    UsedBefore (used ++ [key]) a b := by
  obtain ⟨before, after, rfl, hLast, hLater⟩ := h
  exact ⟨before, after ++ [key], by simp, by simp [hLast, hNe], List.mem_append_left _ hLater⟩

theorem usedBefore_concat (h : a ∈ used) (hNe : a ≠ key) : UsedBefore (used ++ [key]) a key := by
  obtain ⟨before, after, rfl, hLast⟩ := exists_last_use h
  exact ⟨before, after ++ [key], by simp, by simp [hLast, hNe], by simp⟩

/-! ### The recency order -/

/-- The recency order is that of the last uses. -/
structure Recent (used : List String) (c : Cache) : Prop where
  subset : c.order ⊆ used
  sorted : c.order.Pairwise (UsedBefore used)

namespace Recent

theorem sublist (h : Recent used c) (hOrder : d.order.Sublist c.order) : Recent used d :=
  ⟨fun _ hKey => h.subset (hOrder.subset hKey), h.sorted.sublist hOrder⟩

theorem use {rest : List String} (h : Recent used c) (hRest : rest.Sublist c.order)
    (hNew : key ∉ rest) (hOrder : d.order = rest ++ [key]) : Recent (used ++ [key]) d := by
  have hOther : ∀ a ∈ rest, a ≠ key := fun a ha he => hNew (he ▸ ha)
  constructor
  · intro a ha
    rw [hOrder] at ha
    rcases List.mem_append.1 ha with ha | ha
    · exact List.mem_append_left _ (h.subset (hRest.subset ha))
    · exact List.mem_append_right _ ha
  · rw [hOrder]
    refine List.pairwise_append.2 ⟨?_, List.pairwise_singleton _ _, ?_⟩
    · exact (h.sorted.sublist hRest).imp_of_mem fun ha _ hab => hab.concat (hOther _ ha)
    · intro a ha b hb
      rw [List.mem_singleton.1 hb]
      exact usedBefore_concat (h.subset (hRest.subset ha)) (hOther a ha)

end Recent

/-! ### Steps -/

theorem Searched.order_sublist {l : Lookup} (h : Searched settings now c l d) (hc : Tidy now c) :
    d.order.Sublist c.order := by
  obtain ⟨test, hKeeps⟩ := h.keeps_count hc
  rw [hKeeps.order]
  exact List.filter_sublist

theorem Recent.get (h : Recent used c) (hc : Tidy now c) (l : Lookup) :
    Recent (used ++ (c.answering? settings now l).toList) (c.get settings now l).2 := by
  rcases get_cases hc.nodup now l with
    ⟨_, hNone, hGet⟩ | ⟨_, d, hSearched, hMiss | ⟨key, hKey, similar, _, hSome, hHit⟩⟩
  · rw [hNone, hGet, Option.toList_none, List.append_nil]
    exact h
  · rw [hMiss.1, hMiss.2, Option.toList_none, List.append_nil]
    exact h.sublist (hSearched.order_sublist hc)
  · rw [hSome, hHit, Option.toList_some]
    have hd : Tidy now { d with similarHits := d.similarHits + similar } :=
      (hSearched.tidy hc).same (.refl _) rfl rfl
    have hKept : (d.order.erase key).Sublist c.order :=
      List.erase_sublist.trans (hSearched.order_sublist hc)
    exact h.use hKept hd.nodup_order.not_mem_erase
      (order_hit (c := { d with similarHits := d.similarHits + similar }) hKey)

theorem Recent.set (h : Recent used c) (hc : Tidy now c) (s : Timed) (stored : Stored) :
    Recent (used ++ storedKeys settings [(s, stored)])
      (c.set settings now stored.call.lookup stored.answer) := by
  cases hFits : stored.fits settings with
  | false =>
    rw [storedKeys_of_not_fits hFits, set_of_not_fits hFits, List.append_nil]
    exact h
  | true =>
    obtain ⟨hOn, hSize⟩ := le_of_fits hFits
    obtain ⟨k, d, hReadied, hSet⟩ := set_of_tidy (l := stored.call.lookup) hc hOn hSize
    rw [storedKeys_of_fits hFits, hSet]
    have hKept : d.order.Sublist c.order := by
      rw [hReadied.keeps.order]
      exact List.filter_sublist
    exact h.use hKept (fun hKey => hReadied.new (hReadied.tidy.mem_keys.1 hKey)) rfl

theorem Recent.warmUp {s : Timed} (h : Recent used s.cache) (hs : Sound settings s.now s.cache)
    (execute : Request → Except QueryError Answer) :
    Recent (used ++ (Event.warmUp execute).uses settings s)
      (s.cache.warmUp settings execute s.now).cache := by
  refine stores_induction (P := fun w handed => Recent (used ++ storedKeys settings handed) w.cache)
    hs execute ?_ ?_ ?_
  · intro w hCache
    rw [hCache, storedKeys_nil, List.append_nil]
    exact h.sublist (List.Sublist.refl _)
  · intro w w' handed hCache hRecent
    rw [hCache]
    exact hRecent
  · intro w w' handed stored hLater hCache hRecent
    rw [hCache, storedKeys_append, ← List.append_assoc]
    exact hRecent.set hLater.toTidy _ stored

/-! ### Runs -/

variable {history : History} {s : Timed}

/-- **The recency order of a cache is that of the last uses of its entries.** -/
theorem recent_of_recorded (h : Recorded settings history s) :
    Recent (uses settings history) s.cache := by
  induction h with
  | start now => exact ⟨List.nil_subset _, List.Pairwise.nil⟩
  | arrange before _ _ ih => exact ih.sublist (List.Sublist.refl _)
  | @step history s before event ih =>
    have hTidy : Tidy s.now s.cache := before.sound.toTidy
    have hKept : ∀ {d : Cache}, d.order.Sublist s.cache.order →
        Recent (uses settings history ++ []) d := by
      intro d hd
      rw [List.append_nil]
      exact ih.sublist hd
    rw [uses_concat]
    cases event with
    | get call => exact ih.get hTidy call.lookup
    | set call answer => exact ih.set hTidy s ⟨call, answer⟩
    | contains call => exact hKept (List.Sublist.refl _)
    | invalidate paths =>
      obtain ⟨test, hKeeps⟩ := hTidy.keeps_invalidate paths
      exact hKept (hKeeps.order ▸ List.filter_sublist)
    | cleanUp => exact hKept ((hTidy.keeps_removeAll _).order ▸ List.filter_sublist)
    | clear => exact hKept (List.nil_sublist _)
    | warmUp execute => exact ih.warmUp before.sound execute
    | advance millis => exact hKept (List.Sublist.refl _)

theorem perm_others (h : Tidy now c) (key : String) :
    (c.others key).Perm (c.keys.filter (· != key)) := h.order.filter _

theorem Evicts.le {size : Nat} {keys : List String} {k : Nat} (h : Evicts settings size c keys k)
    (hFits : size ≤ settings.maxMemory) (hPlaces : 0 < settings.maxEntries) :
    k ≤ keys.length := by
  obtain ⟨n, hRoom, hk⟩ := h
  have hLe : n ≤ keys.length := by
    by_contra hNot
    have hLeast := hRoom.least keys.length (Nat.lt_of_not_le hNot)
    rw [List.drop_length, bytesUnder] at hLeast
    simp at hLeast
    omega
  rw [List.length_drop] at hk
  split at hk <;> omega

/-- **What is evicted was used least recently, and no more than has to be.**  The other entries,
in the order of their last uses, are those that are evicted and those that stay.  The first are as
many as it takes to make room for the answer, and one more if the number of those that are left is
still at the limit.  The others stay as they are and in their order, with the new entry behind them,
and the evictions are counted. -/
theorem set_evicts_least_recent (h : Recorded settings history s) (hOn : settings.enabled = true)
    (hPlaces : 0 < settings.maxEntries) (call : Call) {answer : Answer}
    (hFits : answer.size ≤ settings.maxMemory) :
    ∃ dropped kept : List String,
      (dropped ++ kept).Perm (s.cache.keys.filter (· != call.lookup.key)) ∧
      (dropped ++ kept).Pairwise (UsedBefore (uses settings history)) ∧
      Evicts settings answer.size s.cache (dropped ++ kept) dropped.length ∧
      (s.cache.set settings s.now call.lookup answer).entries =
        (s.cache.entries.filter fun p => p.1 ∈ kept) ++
          [(call.lookup.key, call.lookup.entry s.now answer)] ∧
      (s.cache.set settings s.now call.lookup answer).order = kept ++ [call.lookup.key] ∧
      (kept ++ [call.lookup.key]).Pairwise
        (UsedBefore (uses settings (history ++ [(s, .set call answer)]))) ∧
      (s.cache.set settings s.now call.lookup answer).evictions =
        s.cache.evictions + dropped.length ∧
      ∀ a ∈ dropped, ∀ b ∈ kept, UsedBefore (uses settings history) a b := by
  have hTidy : Tidy s.now s.cache := h.sound.toTidy
  obtain ⟨k, d, hReadied, hSet⟩ := set_of_tidy (l := call.lookup) hTidy hOn hFits
  have hLength := hReadied.evicts.le hFits hPlaces
  have hSorted : (s.cache.others call.lookup.key).Pairwise (UsedBefore (uses settings history)) :=
    (recent_of_recorded h).sorted.sublist List.filter_sublist
  have hPerm := perm_others hTidy call.lookup.key
  have hAfter := (recent_of_recorded (h.step (.set call answer))).sorted
  have hStored : (s.cache.set settings s.now call.lookup answer).order =
      (s.cache.others call.lookup.key).drop k ++ [call.lookup.key] := by
    rw [hSet, ← hReadied.order]
    rfl
  refine ⟨(s.cache.others call.lookup.key).take k, (s.cache.others call.lookup.key).drop k, ?_⟩
  rw [List.take_append_drop, List.length_take_of_le hLength]
  refine ⟨hPerm, hSorted, hReadied.evicts, ?_, hStored, ?_, ?_, ?_⟩
  · rw [hSet, put, filter_key_eq_self hReadied.new, hReadied.keeps.entries]
  · rw [← hStored]
    exact hAfter
  · rw [hSet, ← List.length_take_of_le hLength]
    exact hReadied.keeps.evictions
  · rw [← List.take_append_drop k (s.cache.others _)] at hSorted
    exact (List.pairwise_append.1 hSorted).2.2

def matchOther : Call := ⟨"MATCH (m)", ∅, "\x7b\x7d"⟩

theorem set_evicts_least_recent_single :
    Recorded single [(⟨empty, 0⟩, .set matchOne .empty)]
        ⟨empty.set single 0 matchOne.lookup .empty, 0⟩ ∧
      ((empty.set single 0 matchOne.lookup .empty).set single 0 matchOther.lookup .empty).order =
        [matchOther.lookup.key] ∧
      ((empty.set single 0 matchOne.lookup .empty).set single 0
        matchOther.lookup .empty).evictions = 1 := by
  have hRecorded : Recorded single ([] ++ [(⟨empty, 0⟩, .set matchOne .empty)])
      ⟨empty.set single 0 matchOne.lookup .empty, 0⟩ := .step (.start 0) (.set matchOne .empty)
  have hFits : Answer.empty.size ≤ single.maxMemory := by decide +kernel
  obtain ⟨dropped, kept, hPerm, _, ⟨n, _, hCount⟩, _, hOrder, _, hEvictions, _⟩ :=
    set_evicts_least_recent hRecorded rfl Nat.one_pos matchOther hFits
  have hOne : (empty.set single 0 matchOne.lookup .empty).keys.filter
      (· != matchOther.lookup.key) = [matchOne.lookup.key] := by decide +kernel
  have hBefore : (empty.set single 0 matchOne.lookup .empty).evictions = 0 := by decide +kernel
  have hLength : dropped.length + kept.length = 1 := by
    have hTotal := hPerm.length_eq
    rwa [hOne, List.length_append, List.length_singleton] at hTotal
  have hDropped : dropped.length = 1 := by
    have hPlaces : single.maxEntries = 1 := rfl
    rw [hPlaces, List.length_drop, List.length_append] at hCount
    split at hCount <;> omega
  obtain rfl : kept = [] := List.length_eq_zero_iff.1 (by omega)
  refine ⟨hRecorded, hOrder, ?_⟩
  rw [hEvictions, hDropped]
  exact congrArg (· + 1) hBefore

end CodeGraph.Cache
