import CodeGraph.Proofs.Cache.Storing

/-!
# The number of entries

A change takes entries out or keeps their number (`Change.length_le`), and the place that `set`
makes is one less than the limit, or none at all where the limit is zero and there is nothing to
evict (`length_makePlace_lt`).  So a cache that was within the limit before an answer is stored is
within it afterwards, but a limit of zero counts as a limit of one (`length_set_le`).  Over all runs
this is exact: the limit holds always unless it is zero and something can be stored at all
(`entries_bounded_iff`).
-/

namespace CodeGraph.Cache

variable {settings : CacheSettings} {now : Nat} {c d : Cache} {key : String} {e : Entry}

/-! ### Changes -/

theorem length_keys (c : Cache) : c.keys.length = c.entries.length := List.length_map _

theorem length_remove_le (c : Cache) (key : String) :
    (c.remove key).entries.length ≤ c.entries.length := by
  rw [entries_remove]
  exact List.length_filter_le _ _

/-- **A change does not add entries.** -/
theorem Change.length_le (h : Change settings now c d) : d.entries.length ≤ c.entries.length := by
  induction h with
  | trans _ _ ihFirst ihNext => exact Nat.le_trans ihNext ihFirst
  | same hEntries => exact Nat.le_of_eq hEntries.length_eq
  | remove c key => exact length_remove_le c key
  | evict c =>
    rw [Cache.evict]
    split
    · exact Nat.le_refl _
    · split
      · exact Nat.le_refl _
      · exact List.length_filter_le _ _
  | hit c key =>
    have hKeys := congrArg List.length (@keys_hit settings now c key)
    rw [length_keys, length_keys] at hKeys
    exact Nat.le_of_eq hKeys
  | clear hEntries =>
    rw [hEntries]
    exact Nat.zero_le _

/-! ### Making place -/

theorem length_remove_lt (h : key ∈ c.keys) :
    (c.remove key).entries.length < c.entries.length := by
  obtain ⟨e, hFind⟩ := exists_find? h
  rw [entries_remove]
  refine Nat.lt_of_le_of_ne (List.length_filter_le _ _) fun hLength => ?_
  have hAll := List.length_filter_eq_length_iff.1 hLength (key, e) (mem_of_find? hFind)
  simp at hAll

theorem length_evict_lt (h : Tidy now c) (hSome : 0 < c.entries.length) :
    c.evict.entries.length < c.entries.length := by
  rcases h.evict_eq with ⟨hOrder, _⟩ | ⟨key, rest, hOrder, hEvict⟩
  · have hLength := h.order.length_eq
    rw [hOrder, length_keys] at hLength
    exact absurd hSome (by simp [← hLength])
  · have hKey : key ∈ c.keys := h.mem_keys.1 (by rw [hOrder]; exact List.mem_cons_self)
    rw [hEvict]
    exact length_remove_lt hKey

theorem length_makePlace_lt (h : Tidy now c)
    (hLength : c.entries.length ≤ max settings.maxEntries 1) :
    (c.makePlace settings).entries.length < max settings.maxEntries 1 := by
  rw [makePlace]
  split
  · next hFull =>
    by_cases hSome : 0 < c.entries.length
    · exact Nat.lt_of_lt_of_le (length_evict_lt h hSome) hLength
    · have hEvict : c.evict.entries.length ≤ c.entries.length :=
        (@Change.evict settings now c).length_le
      omega
  · next hPlace => omega

theorem length_put (h : key ∉ c.keys) : (c.put key e).entries.length = c.entries.length + 1 := by
  rw [put, filter_key_eq_self h, List.length_append]
  rfl

/-- **Storing keeps the number of entries within the limit**, a limit of zero taken for one. -/
theorem length_set_le (h : Sound settings now c) (l : Lookup) (answer : Answer)
    (hLength : c.entries.length ≤ max settings.maxEntries 1) :
    (c.set settings now l answer).entries.length ≤ max settings.maxEntries 1 := by
  rw [set]
  split
  · exact hLength
  · -- the entry under the key goes first, then entries make room, then one makes place
    have hRemove : Change settings now c (c.remove l.key) := .remove c l.key
    have hRoom : Change settings now (c.remove l.key)
        ((c.remove l.key).makeRoom settings.maxMemory answer.size) := .makeRoom _ _ _
    have hBefore := hRemove.trans hRoom
    have hPlace := @length_makePlace_lt settings now _ (hBefore.tidy h.toTidy)
      (Nat.le_trans hBefore.length_le hLength)
    have hNew : l.key ∉ (((c.remove l.key).makeRoom settings.maxMemory answer.size).makePlace
        settings).keys :=
      fun hKey => not_mem_keys_remove c l.key ((hRoom.trans (.makePlace _)).keys_subset hKey)
    rw [length_put hNew]
    exact hPlace

/-! ### Runs -/

variable {log : List Stored} {s : Timed}

theorem length_le_of_run {bound : Nat}
    (hSet : ∀ now c l answer, Sound settings now c → c.entries.length ≤ bound →
      (c.set settings now l answer).entries.length ≤ bound)
    (h : Run settings log s) : s.cache.entries.length ≤ bound := by
  induction h with
  | start now => exact Nat.zero_le _
  | arrange before hEntries _ ih => exact Nat.le_trans (Nat.le_of_eq hEntries.length_eq) ih
  | @step log s before event ih =>
    have hSound := sound_of_run before
    cases event with
    | get call => exact Nat.le_trans (Change.get s.cache call.lookup).length_le ih
    | set call answer => exact hSet _ _ _ _ hSound ih
    | contains call => exact ih
    | invalidate paths =>
      exact Nat.le_trans (@Change.invalidate settings s.now s.cache paths).length_le ih
    | cleanUp => exact Nat.le_trans (Change.cleanUp s.cache).length_le ih
    | clear => exact Nat.zero_le _
    | advance millis => exact ih
    | warmUp execute =>
      -- every request of the warm-up meets a sound cache within the bound
      have hStart : Sound settings s.now { s.cache with candidates := [] } :=
        hSound.same (.refl _) rfl rfl
      refine (warmUp_induction (P := fun w => Sound settings w.now w.cache ∧
        w.cache.entries.length ≤ bound) ⟨hStart, ih⟩ ?_).2
      rintro w r ⟨hw, hLength⟩
      rcases WarmUp.step_cases settings execute w r with hSame | ⟨hLater, _, hCache⟩
      · rw [hSame]
        exact ⟨hw, hLength⟩
      · have hLaterSound := hw.mono hLater
        rcases hCache with hCache | ⟨answer, _, hCache⟩
        · rw [hCache]
          exact ⟨hLaterSound, hLength⟩
        · rw [hCache]
          exact ⟨hLaterSound.set _ _, hSet _ _ _ _ hLaterSound hLength⟩

theorem size_pos (answer : Answer) : 0 < answer.size := by
  have hLength := answer.toJson.length_le_size
  rw [Answer.toJson, Json.compactChars, List.length_cons] at hLength
  exact Nat.lt_of_lt_of_le (Nat.succ_pos _) hLength

theorem set_of_unable (h : settings.enabled = false ∨ settings.maxMemory = 0)
    (l : Lookup) (answer : Answer) : c.set settings now l answer = c := by
  rcases h with hOff | hMemory
  · rw [set, if_pos (by simp [hOff])]
  · have hLarge : settings.maxMemory < answer.size := by
      rw [hMemory]
      exact size_pos answer
    exact set_of_large hLarge

/-- The limit of memory is a whole number of megabytes, also where it has wrapped around. -/
theorem maxMemory_eq (settings : CacheSettings) :
    settings.maxMemory = settings.maxMemoryMegabytes % 0x100000000000 * (1024 * 1024) :=
  Nat.mul_mod_mul_right (1024 * 1024) settings.maxMemoryMegabytes 0x100000000000

theorem size_empty_le_maxMemory (h : settings.maxMemory ≠ 0) :
    Answer.empty.size ≤ settings.maxMemory := by
  have hSize : Answer.empty.size ≤ 1 * (1024 * 1024) := by decide +kernel
  rw [maxMemory_eq] at h ⊢
  calc Answer.empty.size ≤ 1 * (1024 * 1024) := hSize
    _ ≤ settings.maxMemoryMegabytes % 0x100000000000 * (1024 * 1024) :=
      Nat.mul_le_mul_right _ (Nat.pos_of_mul_pos_right (Nat.pos_of_ne_zero h))

theorem length_set_empty (hOn : settings.enabled = true) (h : settings.maxMemory ≠ 0)
    (l : Lookup) : 0 < (empty.set settings now l .empty).entries.length := by
  obtain ⟨d, hNew, hSet⟩ := set_of_fits empty now l hOn (size_empty_le_maxMemory h)
  rw [hSet, length_put hNew]
  exact Nat.succ_pos _

/-- **The number of entries is within the limit always, or the limit is zero.**  No run holds more
entries than the larger of the limit and one.  The limit itself is kept by every run just if it is
not zero, or the cache is off or its limit of memory is zero or has wrapped around to zero, so that
it stores nothing. -/
theorem entries_bounded_iff (settings : CacheSettings) :
    (∀ log s, Run settings log s → s.cache.entries.length ≤ max settings.maxEntries 1) ∧
      ((∀ log s, Run settings log s → s.cache.entries.length ≤ settings.maxEntries) ↔
        0 < settings.maxEntries ∨ settings.enabled = false ∨ settings.maxMemory = 0) := by
  have hBound : ∀ log s, Run settings log s →
      s.cache.entries.length ≤ max settings.maxEntries 1 :=
    fun log s hRun => length_le_of_run (fun _ _ l answer hc => length_set_le hc l answer) hRun
  refine ⟨hBound, fun hAlways => ?_, ?_⟩
  · by_contra hNot
    rw [not_or, not_or, Bool.not_eq_false] at hNot
    obtain ⟨hZero, hOn, hMemory⟩ := hNot
    have hStored := @length_set_empty settings 0 hOn hMemory matchOne.lookup
    have hLimit := hAlways _ _ (.step (.start 0) (.set matchOne .empty))
    exact hZero (Nat.lt_of_lt_of_le hStored hLimit)
  · intro hCases log s hRun
    rcases hCases with hPositive | hUnable
    · have hLength := hBound log s hRun
      omega
    · have hNone : s.cache.entries.length ≤ 0 := by
        refine length_le_of_run (fun now c l answer _ hc => ?_) hRun
        rw [set_of_unable hUnable]
        exact hc
      exact Nat.le_trans hNone (Nat.zero_le _)

def single : CacheSettings := { CacheSettings.default with maxEntries := 1 }

theorem entries_bounded_iff_single :
    ((empty.set single 0 matchOne.lookup .empty).set single 0
      matchDigest.lookup .empty).entries.length ≤ 1 := by
  have hRun : Run single ([⟨matchOne, .empty⟩] ++ [⟨matchDigest, .empty⟩])
      ⟨(empty.set single 0 matchOne.lookup .empty).set single 0 matchDigest.lookup .empty, 0⟩ :=
    .step (.step (.start 0) (.set matchOne .empty)) (.set matchDigest .empty)
  exact (entries_bounded_iff single).2.2 (Or.inl Nat.one_pos) _ _ hRun

def closed : CacheSettings := { CacheSettings.default with maxEntries := 0 }

/-- A cache for no entry keeps the first answer that is stored in it. -/
theorem set_exceeds_closed :
    Run closed [⟨matchOne, .empty⟩] ⟨empty.set closed 0 matchOne.lookup .empty, 0⟩ ∧
      closed.maxEntries < (empty.set closed 0 matchOne.lookup .empty).entries.length := by
  have hMemory : closed.maxMemory ≠ 0 := by decide
  exact ⟨.step (.start 0) (.set matchOne .empty), length_set_empty rfl hMemory _⟩

end CodeGraph.Cache
