import CodeGraph.Proofs.Cache.Keys
import CodeGraph.Proofs.Cache.Tidy

/-!
# Where answers come from

A lookup is answered from an entry that has not expired, which stands under the key of the lookup or
has its query and the values of its parameters (`get_eq_some`).  What `set` stores and what a
warm-up stores is added to what was there (`origins_set`, `origins_warmUp`).  An answer that was
stored is given to every lookup with its key until it expires (`get_set`).
-/

namespace CodeGraph

namespace Cache

variable {settings : CacheSettings} {now : Nat} {c d : Cache} {key : String} {e : Entry}

/-! ### Lookups -/

theorem hit_eq_some {r : Answer} (h : (c.hit settings now key).1 = some r) :
    ∃ e, (key, e) ∈ c.entries ∧ r = { e.answer with cached := true } := by
  rw [hit] at h
  cases hFind : c.find? key with
  | none => rw [hFind] at h; cases h
  | some e =>
    rw [hFind] at h
    cases h
    exact ⟨e, mem_of_find? hFind, rfl⟩

theorem eq_of_mem_entries {e e' : Entry} (hNodup : c.keys.Nodup) (he : (key, e) ∈ c.entries)
    (he' : (key, e') ∈ c.entries) : e = e' := by
  have hPerm := entries_perm hNodup he
  rcases List.mem_cons.1 (hPerm.subset he') with heq | hOther
  · cases heq
    rfl
  · exact absurd (List.mem_filter.1 hOther).2 (by simp)

theorem find?_of_mem (hNodup : c.keys.Nodup) (he : (key, e) ∈ c.entries) :
    c.find? key = some e := by
  obtain ⟨e', hFind⟩ := exists_find? (List.mem_map_of_mem he : key ∈ c.keys)
  rw [hFind, eq_of_mem_entries hNodup he (mem_of_find? hFind)]

/-- Whether an entry may answer a lookup: it is kept under the key of the lookup or has its request,
and it has not expired. -/
structure Answers (settings : CacheSettings) (now : Nat) (l : Lookup) (p : String × Entry) :
    Prop where
  fresh : now ≤ p.2.stored + settings.lifetimeMillis
  asked : p.1 = l.key ∨ (p.2.request.query = l.request.query ∧ p.2.bindings = l.bindings)

theorem isExpired_eq_false_iff :
    e.isExpired settings now = false ↔ now ≤ e.stored + settings.lifetimeMillis := by
  rw [Entry.isExpired, decide_eq_false_iff_not]
  omega

theorem answersFor_iff {l : Lookup} : e.answersFor settings now l = true ↔
    now ≤ e.stored + settings.lifetimeMillis ∧ e.request.query = l.request.query ∧
      e.bindings = l.bindings ∧
      settings.similarityThreshold.atMost (Context.similarity l.context e.context) = true := by
  simp only [Entry.answersFor, Bool.and_eq_true, beq_iff_eq, Bool.not_eq_true',
    isExpired_eq_false_iff]
  tauto

theorem contains_iff_find? {l : Lookup} : c.contains settings now l = true ↔
    ∃ e, c.find? l.key = some e ∧ e.isExpired settings now = false := by
  simp [contains, Option.any_eq_true]

/-- **A lookup** hits its own entry, or takes it out and searches the others. -/
theorem get_eq (hOn : settings.enabled = true) (c : Cache) (now : Nat) (l : Lookup) :
    c.get settings now l =
      if c.contains settings now l then (c.count settings l).hit settings now l.key
      else ((c.count settings l).remove l.key).getSimilar settings now l := by
  have hCount : (c.count settings l).find? l.key = c.find? l.key := rfl
  rw [get, if_neg (by simp [hOn]), contains]
  dsimp only
  rw [hCount]
  cases hFind : c.find? l.key with
  | none =>
    rw [remove_of_not_mem (find?_eq_none_iff.1 (hCount.trans hFind))]
    rfl
  | some e => cases hExpired : e.isExpired settings now <;> simp [hExpired]

theorem getSimilar_eq_some {l : Lookup} {r : Answer} (hNodup : c.keys.Nodup)
    (h : (c.getSimilar settings now l).1 = some r) :
    ∃ p ∈ c.entries, Answers settings now l p ∧ r = { p.2.answer with cached := true } := by
  rw [getSimilar] at h
  cases hFind : c.entries.find? (·.2.answersFor settings now l) with
  | none => rw [hFind] at h; cases h
  | some p =>
    obtain ⟨key, e⟩ := p
    rw [hFind] at h
    obtain ⟨e', he', hr⟩ := hit_eq_some h
    have he := List.mem_of_find?_eq_some hFind
    have hTest := List.find?_some hFind
    rw [← eq_of_mem_entries hNodup he he'] at hr
    obtain ⟨hFresh, hQuery, hBindings, _⟩ := answersFor_iff.1 hTest
    exact ⟨(key, e), he, ⟨hFresh, Or.inr ⟨hQuery, hBindings⟩⟩, hr⟩

/-- **Every answer is that of an entry that may give it.** -/
theorem get_eq_some {l : Lookup} {r : Answer} (hNodup : c.keys.Nodup)
    (h : (c.get settings now l).1 = some r) :
    ∃ p ∈ c.entries, Answers settings now l p ∧ r = { p.2.answer with cached := true } := by
  cases hOn : settings.enabled with
  | false =>
    rw [get, if_pos (by simp [hOn])] at h
    cases h
  | true =>
    rw [get_eq hOn] at h
    split at h
    · next hOwn =>
      obtain ⟨e, hFind, hFresh⟩ := contains_iff_find?.1 hOwn
      obtain ⟨e', he', hr⟩ := hit_eq_some h
      rw [← eq_of_mem_entries (c := c.count settings l) hNodup (mem_of_find? hFind) he'] at hr
      exact ⟨(l.key, e), mem_of_find? hFind, ⟨isExpired_eq_false_iff.1 hFresh, Or.inl rfl⟩, hr⟩
    · have hEntries := entries_remove (c.count settings l) l.key
      have hNodup' : ((c.count settings l).remove l.key).keys.Nodup := by
        rw [keys, hEntries]
        exact hNodup.sublist (List.filter_sublist.map _)
      obtain ⟨p, hp, hAnswers, hr⟩ := getSimilar_eq_some hNodup' h
      rw [hEntries] at hp
      exact ⟨p, (List.mem_filter.1 hp).1, hAnswers, hr⟩

theorem get_eq_hit {l : Lookup} (hOn : settings.enabled = true) (hFind : c.find? l.key = some e)
    (hFresh : e.isExpired settings now = false) :
    ∃ d, c.get settings now l = (some { e.answer with cached := true }, d) ∧
      d.hits = c.hits + 1 ∧ d.similarHits = c.similarHits ∧ d.misses = c.misses := by
  have hCount : (c.count settings l).find? l.key = some e := hFind
  have hOwn : c.contains settings now l = true := contains_iff_find?.2 ⟨e, hFind, hFresh⟩
  rw [get_eq hOn, if_pos hOwn, hit, hCount]
  exact ⟨_, rfl, rfl, rfl, rfl⟩

/-! ### Stored answers -/

theorem find?_put (hKey : key ∉ c.keys) : (c.put key e).find? key = some e := by
  have hLookup : c.entries.lookup key = none := find?_eq_none_iff.2 hKey
  rw [find?, put, filter_key_eq_self hKey, List.lookup_append, hLookup]
  simp

theorem origins_put (hKey : key ∉ c.keys) :
    (c.put key e).origins = c.origins ++ [(key, e.origin)] := by
  rw [origins, put, filter_key_eq_self hKey, List.map_append]
  rfl

theorem origins_set (c : Cache) (l : Lookup) (answer : Answer) :
    (c.set settings now l answer).origins ⊆ (l.key, l.entry now answer) :: c.origins := by
  rcases set_eq settings now c l answer with ⟨_, hSet⟩ | ⟨d, hChange, hKey, _, hSet⟩
  · rw [hSet]
    exact List.subset_cons_self _ _
  · rw [hSet, origins_put hKey]
    intro p hp
    rcases List.mem_append.1 hp with hp | hp
    · exact List.mem_cons_of_mem _ (hChange.origins_subset hp)
    · rw [List.mem_singleton.1 hp]
      exact List.mem_cons_self

theorem set_of_fits (c : Cache) (now : Nat) (l : Lookup) {answer : Answer}
    (hOn : settings.enabled = true) (hFits : answer.size ≤ settings.maxMemory) :
    ∃ d : Cache, l.key ∉ d.keys ∧
      c.set settings now l answer = d.put l.key (l.entry now answer) := by
  rcases set_eq settings now c l answer with ⟨hOff | hLarge, _⟩ | ⟨d, _, hNew, _, hSet⟩
  · rw [hOff] at hOn
    cases hOn
  · exact absurd hFits (Nat.not_le.2 hLarge)
  · exact ⟨d, hNew, hSet⟩

theorem find?_set (c : Cache) (now : Nat) (l : Lookup) {answer : Answer}
    (hOn : settings.enabled = true) (hFits : answer.size ≤ settings.maxMemory) :
    (c.set settings now l answer).find? l.key = some (l.entry now answer) := by
  obtain ⟨d, hNew, hSet⟩ := set_of_fits c now l hOn hFits
  rw [hSet]
  exact find?_put hNew

theorem isExpired_entry {l : Lookup} {answer : Answer} {later : Nat}
    (hLater : later ≤ now + settings.lifetimeMillis) :
    (l.entry now answer).isExpired settings later = false := by
  rw [Entry.isExpired, decide_eq_false_iff_not]
  show ¬settings.lifetimeMillis < later - now
  omega

/-- **An answer that was stored is found under its key.** -/
theorem get_set (c : Cache) {l l' : Lookup} {answer : Answer} {later : Nat}
    (hOn : settings.enabled = true) (hSize : answer.size ≤ settings.maxMemory)
    (hLater : later ≤ now + settings.lifetimeMillis) (hKey : l.key = l'.key) :
    ((c.set settings now l answer).get settings later l').1 =
      some { answer with cached := true } := by
  have hFind := find?_set c now l hOn hSize
  rw [hKey] at hFind
  obtain ⟨d, hGet, _⟩ := get_eq_hit hOn hFind (isExpired_entry hLater)
  rw [hGet]
  rfl

/-! ### Warm-ups -/

/-- What holds of a warm-up at its start and after every request holds of it at its end. -/
theorem warmUp_induction {ε : Type} {execute : Request → Except ε Answer} {P : WarmUp → Prop}
    (hStart : P ⟨{ c with candidates := [] }, now, [], 0⟩)
    (hStep : ∀ w r, P w → P (w.step settings execute r)) : P (c.warmUp settings execute now) := by
  rw [warmUp]
  generalize (⟨{ c with candidates := [] }, now, [], 0⟩ : WarmUp) = w at hStart
  generalize c.candidates.flatMap warmUpRequests = requests
  induction requests generalizing w with
  | nil => exact hStart
  | cons r requests ih => exact ih _ (hStep w r hStart)

/-- A request of a warm-up has an answer already, or it is run after a while and what it gives is
stored. -/
theorem WarmUp.step_cases {ε : Type} (settings : CacheSettings)
    (execute : Request → Except ε Answer) (w : WarmUp) (r : Request) :
    w.step settings execute r = w ∨
      w.now ≤ (w.step settings execute r).now ∧
        (w.step settings execute r).calls = w.calls ++ [r] ∧
        ((w.step settings execute r).cache = w.cache ∨
          ∃ answer, execute r = .ok answer ∧ (w.step settings execute r).cache =
            w.cache.set settings (w.step settings execute r).now (warmUpLookup r) answer) := by
  rw [step]
  split
  · exact Or.inl rfl
  · have hLater : w.now ≤
        if w.calls.isEmpty then w.now else w.now + settings.warmUpDelayMillis := by
      split
      · exact Nat.le_refl _
      · exact Nat.le_add_right _ _
    dsimp only
    split
    · next answer hAnswer => exact Or.inr ⟨hLater, rfl, Or.inr ⟨answer, hAnswer, rfl⟩⟩
    · exact Or.inr ⟨hLater, rfl, Or.inl rfl⟩

theorem Sound.step {ε : Type} {w : WarmUp} (h : Sound settings w.now w.cache)
    (execute : Request → Except ε Answer) (r : Request) :
    Sound settings (w.step settings execute r).now (w.step settings execute r).cache := by
  rcases WarmUp.step_cases settings execute w r with hSame | ⟨hLater, _, hCache⟩
  · rw [hSame]
    exact h
  · have hLaterSound := h.mono hLater
    rcases hCache with hCache | ⟨answer, _, hCache⟩
    · rw [hCache]
      exact hLaterSound
    · rw [hCache]
      exact hLaterSound.set _ _

theorem Sound.warmUp {ε : Type} (h : Sound settings now c) (execute : Request → Except ε Answer) :
    Sound settings (c.warmUp settings execute now).now (c.warmUp settings execute now).cache :=
  warmUp_induction (P := fun w => Sound settings w.now w.cache) (h.same (.refl _) rfl rfl)
    fun _ r hw => hw.step execute r

theorem origins_warmUp {ε : Type} (settings : CacheSettings)
    (execute : Request → Except ε Answer) (c : Cache) (now : Nat) :
    now ≤ (c.warmUp settings execute now).now ∧
      ∀ p ∈ (c.warmUp settings execute now).cache.origins, p ∈ c.origins ∨
        ∃ r ∈ (c.warmUp settings execute now).calls, ∃ answer stored, execute r = .ok answer ∧
          now ≤ stored ∧ stored ≤ (c.warmUp settings execute now).now ∧
          p = ((warmUpLookup r).key, (warmUpLookup r).entry stored answer) := by
  refine warmUp_induction (P := fun w => now ≤ w.now ∧ ∀ p ∈ w.cache.origins, p ∈ c.origins ∨
      ∃ r ∈ w.calls, ∃ answer stored, execute r = .ok answer ∧ now ≤ stored ∧ stored ≤ w.now ∧
        p = ((warmUpLookup r).key, (warmUpLookup r).entry stored answer))
    ⟨Nat.le_refl _, fun p hp => Or.inl hp⟩ ?_
  rintro w r ⟨hNow, hw⟩
  rcases WarmUp.step_cases settings execute w r with hSame | ⟨hLater, hCalls, hCache⟩
  · rw [hSame]
    exact ⟨hNow, hw⟩
  · refine ⟨Nat.le_trans hNow hLater, fun p hp => ?_⟩
    have hOld : p ∈ w.cache.origins → p ∈ c.origins ∨
        ∃ r' ∈ (w.step settings execute r).calls, ∃ answer stored, execute r' = .ok answer ∧
          now ≤ stored ∧ stored ≤ (w.step settings execute r).now ∧
          p = ((warmUpLookup r').key, (warmUpLookup r').entry stored answer) := by
      intro hp
      rcases hw p hp with hp | ⟨r', hr', answer, stored, hAnswer, hFrom, hTo, rfl⟩
      · exact Or.inl hp
      · refine Or.inr ⟨r', ?_, answer, stored, hAnswer, hFrom, Nat.le_trans hTo hLater, rfl⟩
        rw [hCalls]
        exact List.mem_append_left _ hr'
    rcases hCache with hCache | ⟨answer, hAnswer, hCache⟩
    · rw [hCache] at hp
      exact hOld hp
    · rw [hCache] at hp
      rcases List.mem_cons.1 (origins_set _ _ _ hp) with rfl | hp
      · refine Or.inr ⟨r, ?_, answer, _, hAnswer, Nat.le_trans hNow hLater, Nat.le_refl _, rfl⟩
        rw [hCalls]
        exact List.mem_append_right _ (List.mem_singleton.2 rfl)
      · exact hOld hp

end Cache

end CodeGraph
