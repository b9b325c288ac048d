import CodeGraph.Proofs.Cache.Accounts

/-!
# Candidates for a warm-up

Only a hit adds to the candidates of a cache: the request of the entry that is hit, under the
pattern of its query (`candidates_get`).  A warm-up takes all of them (`candidates_warmUp`), and
`candidates_apply` says what any event makes of them.  So every pattern stands once, with requests
that differ, and a cache that is off or looks for no candidates has none (`collected_of_recorded`).
-/

namespace CodeGraph.Cache

variable {settings : CacheSettings} {now : Nat} {c d : Cache} {key : String} {e : Entry}
variable {pattern : String} {request : Request} {candidate : String × List Request}
variable {known : List (String × List Request)}

/-! ### Adding a request -/

theorem mem_addCandidate (h : candidate ∈ addCandidate pattern request known) :
    candidate ∈ known ∨ candidate = (pattern, [request]) ∨
      ∃ requests, (pattern, requests) ∈ known ∧
        (∀ seen ∈ requests, seen.same request = false) ∧
        candidate = (pattern, requests ++ [request]) := by
  induction known with
  | nil => exact Or.inr (Or.inl (List.mem_singleton.1 h))
  | cons first rest ih =>
    obtain ⟨p, requests⟩ := first
    rw [addCandidate] at h
    by_cases hPattern : (p == pattern) = true
    · obtain rfl := beq_iff_eq.1 hPattern
      rw [if_pos hPattern] at h
      rcases List.mem_cons.1 h with rfl | h
      · by_cases hSeen : requests.any (·.same request) = true
        · rw [if_pos hSeen]
          exact Or.inl List.mem_cons_self
        · rw [if_neg hSeen]
          refine Or.inr (Or.inr ⟨requests, List.mem_cons_self, fun seen hMem => ?_, rfl⟩)
          rw [Bool.eq_false_iff]
          exact fun hSame => hSeen (List.any_eq_true.2 ⟨seen, hMem, hSame⟩)
      · exact Or.inl (List.mem_cons_of_mem _ h)
    · rw [if_neg hPattern] at h
      rcases List.mem_cons.1 h with rfl | h
      · exact Or.inl List.mem_cons_self
      · rcases ih h with hOld | hNew | ⟨requests, hMem, hAll⟩
        · exact Or.inl (List.mem_cons_of_mem _ hOld)
        · exact Or.inr (Or.inl hNew)
        · exact Or.inr (Or.inr ⟨requests, List.mem_cons_of_mem _ hMem, hAll⟩)

theorem patterns_addCandidate (pattern : String) (request : Request)
    (known : List (String × List Request)) :
    (addCandidate pattern request known).map (·.1) =
      if pattern ∈ known.map (·.1) then known.map (·.1)
      else known.map (·.1) ++ [pattern] := by
  induction known with
  | nil => rfl
  | cons first rest ih =>
    obtain ⟨p, requests⟩ := first
    rw [addCandidate]
    by_cases hPattern : p = pattern
    · simp [hPattern]
    · have hMem : pattern ∈ p :: rest.map (·.1) ↔ pattern ∈ rest.map (·.1) :=
        List.mem_cons.trans (or_iff_right fun h => hPattern h.symm)
      rw [if_neg (by simpa using hPattern), List.map_cons, ih, List.map_cons]
      simp only [hMem]
      split <;> rfl

/-! ### What changes the candidates -/

theorem Keeps.candidates {test : String → Bool} {n : Nat} (h : Keeps test n c d) :
    d.candidates = c.candidates := by
  obtain ⟨memory, rfl⟩ := h
  rfl

theorem candidates_set (hc : Tidy now c) (stored : Stored) :
    (c.set settings now stored.call.lookup stored.answer).candidates = c.candidates := by
  cases hFits : stored.fits settings with
  | false => rw [set_of_not_fits hFits]
  | true =>
    obtain ⟨hOn, hSize⟩ := le_of_fits hFits
    obtain ⟨k, d, hReadied, hSet⟩ := set_of_tidy (l := stored.call.lookup) hc hOn hSize
    rw [hSet]
    exact hReadied.keeps.candidates

theorem candidates_warmUp {s : Timed} (hs : Sound settings s.now s.cache)
    (execute : Request → Except QueryError Answer) :
    (s.cache.warmUp settings execute s.now).cache.candidates = [] := by
  refine stores_induction (P := fun w _ => w.cache.candidates = []) hs execute ?_ ?_ ?_
  · intro w hCache
    rw [hCache]
  · intro w w' _ hCache hNone
    rw [hCache, hNone]
  · intro w w' _ stored hLater hCache hNone
    rw [hCache, candidates_set hLater.toTidy, hNone]

theorem candidates_hit (settings : CacheSettings) (c : Cache) (now : Nat) (key : String) :
    (c.hit settings now key).2.candidates = c.candidates ∨
      settings.warmUp = true ∧ ∃ e, (key, e) ∈ c.entries ∧ warmUpHits ≤ e.hits ∧
        now - e.accessed ≤ warmUpMillis ∧
        c.frequency.isFrequent (Mask.pattern e.request.query) = true ∧
        (c.hit settings now key).2.candidates =
          addCandidate (Mask.pattern e.request.query) e.request c.candidates := by
  rw [hit]
  cases hFind : c.find? key with
  | none => exact Or.inl rfl
  | some e =>
    dsimp only
    split
    · next hWarmUp =>
      rw [collect]
      split
      · next hWorth =>
        simp only [Bool.and_eq_true, decide_eq_true_eq] at hWorth
        obtain ⟨⟨hHits, hRecent⟩, hFrequent⟩ := hWorth
        exact Or.inr ⟨hWarmUp, e, mem_of_find? hFind, hHits, hRecent, hFrequent, rfl⟩
      · exact Or.inl rfl
    · exact Or.inl rfl

/-- A lookup makes the request of the entry that answers it a candidate: that entry had enough hits
before, the last of them not long ago, and its pattern is frequent with this lookup counted. -/
structure Collects (settings : CacheSettings) (now : Nat) (c : Cache) (l : Lookup)
    (p : String × Entry) (d : Cache) : Prop where
  on : settings.enabled = true
  warmUp : settings.warmUp = true
  mem : p ∈ c.entries
  answers : c.answering? settings now l = some p.1
  hits : warmUpHits ≤ p.2.hits
  recent : now - p.2.accessed ≤ warmUpMillis
  frequent :
    (c.count settings l).frequency.isFrequent (Mask.pattern p.2.request.query) = true
  added : d.candidates =
    addCandidate (Mask.pattern p.2.request.query) p.2.request c.candidates

/-- **A lookup adds no candidate, or the request of the entry that answers it.** -/
theorem candidates_get (hc : Tidy now c) (l : Lookup) :
    (c.get settings now l).2.candidates = c.candidates ∨
      ∃ p, Collects settings now c l p (c.get settings now l).2 := by
  rcases get_cases hc.nodup now l with ⟨_, _, hGet⟩ | ⟨hOn, d, hSearched, hAnswered⟩
  · rw [hGet]
    exact Or.inl rfl
  · obtain ⟨test, hKeeps⟩ := hSearched.keeps_count hc
    have hSame : d.candidates = c.candidates := hKeeps.candidates
    rcases hAnswered with ⟨_, hGet⟩ | ⟨key, _, similar, _, hAnswers, hGet⟩
    · rw [hGet]
      exact Or.inl hSame
    · rw [hGet, ← hSame]
      rcases candidates_hit settings { d with similarHits := d.similarHits + similar } now key with
        hNone | ⟨hWarmUp, e, hHit, hHits, hRecent, hFrequent, hAdded⟩
      · exact Or.inl hNone
      · have hMem : (key, e) ∈ d.entries := hHit
        rw [hKeeps.entries] at hMem
        have hFrequency : (c.count settings l).frequency = d.frequency :=
          hKeeps.sameLookups.frequency.symm
        exact Or.inr ⟨(key, e), hOn, hWarmUp, (List.mem_filter.1 hMem).1, hAnswers, hHits, hRecent,
          hFrequency ▸ hFrequent, hSame ▸ hAdded⟩

/-- **What an event makes of the candidates**: they stay, all of them go, or a lookup adds to
them. -/
theorem candidates_apply {s : Timed} (hs : Sound settings s.now s.cache) (event : Event) :
    (event.apply settings s).cache.candidates = s.cache.candidates ∨
      (event.apply settings s).cache.candidates = [] ∨
      ∃ call p, event = .get call ∧
        Collects settings s.now s.cache call.lookup p (event.apply settings s).cache := by
  have hTidy := hs.toTidy
  cases event with
  | get call =>
    exact (candidates_get hTidy call.lookup).imp_right fun ⟨p, hCollects⟩ =>
      Or.inr ⟨call, p, rfl, hCollects⟩
  | set call answer => exact Or.inl (candidates_set hTidy ⟨call, answer⟩)
  | contains call => exact Or.inl rfl
  | invalidate paths =>
    obtain ⟨test, hKeeps⟩ := hTidy.keeps_invalidate paths
    exact Or.inl hKeeps.candidates
  | cleanUp => exact Or.inl (hTidy.keeps_removeAll _).candidates
  | clear => exact Or.inr (Or.inl rfl)
  | warmUp execute => exact Or.inr (Or.inl (candidates_warmUp hs execute))
  | advance millis => exact Or.inl rfl

/-! ### Histories -/

/-- Every pattern stands once, with requests that differ; and there are none unless the cache is on
and looks for them. -/
structure Collected (settings : CacheSettings) (known : List (String × List Request)) :
    Prop where
  patterns : (known.map (·.1)).Nodup
  requests : ∀ candidate ∈ known, candidate.2.Pairwise fun a b => a.same b = false
  looked : known ≠ [] → settings.enabled = true ∧ settings.warmUp = true

theorem collected_nil (settings : CacheSettings) : Collected settings [] :=
  ⟨List.nodup_nil, fun _ h => (List.not_mem_nil h).elim, fun h => absurd rfl h⟩

theorem Collected.perm {others : List (String × List Request)} (h : Collected settings known)
    (hPerm : others.Perm known) : Collected settings others where
  patterns := (hPerm.map _).nodup_iff.2 h.patterns
  requests candidate hMem := h.requests candidate (hPerm.subset hMem)
  looked hSome := h.looked fun hNone => hSome (hNone ▸ hPerm).eq_nil

theorem Collected.add (h : Collected settings known) (hOn : settings.enabled = true)
    (hWarmUp : settings.warmUp = true) (pattern : String) (request : Request) :
    Collected settings (addCandidate pattern request known) where
  patterns := by
    rw [patterns_addCandidate]
    split
    · exact h.patterns
    · next hNew => exact List.nodup_append.2 ⟨h.patterns, List.nodup_singleton _, by
        rintro a ha b hb rfl
        exact hNew (List.mem_singleton.1 hb ▸ ha)⟩
  requests candidate hMem := by
    rcases mem_addCandidate hMem with hOld | rfl | ⟨requests, hOld, hNew, rfl⟩
    · exact h.requests candidate hOld
    · exact List.pairwise_singleton _ _
    · refine List.pairwise_append.2 ⟨h.requests _ hOld, List.pairwise_singleton _ _, ?_⟩
      intro a ha b hb
      rw [List.mem_singleton.1 hb]
      exact hNew a ha
  looked _ := ⟨hOn, hWarmUp⟩

/-- **The candidates of every history** are patterns that differ, with requests that differ. -/
theorem collected_of_recorded {history : History} {s : Timed} (h : Recorded settings history s) :
    Collected settings s.cache.candidates := by
  induction h with
  | start now => exact collected_nil settings
  | arrange before _ hCandidates ih => exact ih.perm hCandidates
  | step before event ih =>
    rcases candidates_apply before.sound event with hSame | hNone | ⟨call, p, _, hCollects⟩
    · exact hSame ▸ ih
    · exact hNone ▸ collected_nil settings
    · exact hCollects.added ▸ ih.add hCollects.on hCollects.warmUp _ _

end CodeGraph.Cache
