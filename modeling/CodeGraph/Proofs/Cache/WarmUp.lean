import CodeGraph.Proofs.Cache.Accounts
import CodeGraph.Proofs.Cache.Candidates
import CodeGraph.Proofs.Cache.Storing

/-!
# What a warm-up does

A warm-up meets the requests of all candidates, one after the other.  `visits` lists them, each with
what the warm-up has done before it.  A request is passed over if it has an answer, or it is run,
and then it fails, its answer is too large to be stored, or the answer is stored; `Ends` has one case
for each, and every step ends in one of them (`ends_step`).  So an entry that goes is one that has
expired and makes way for the answer to its own request, or one that is evicted (`goes_of_ends`),
and what holds of each visit holds of the whole warm-up (`warmUp_only_fills`).
-/

namespace CodeGraph.Cache

variable {settings : CacheSettings} {execute : Request → Except QueryError Answer}
variable {w : WarmUp} {r : Request} {p : String × Entry}

/-! ### Visits -/

def WarmUp.turn (settings : CacheSettings) (w : WarmUp) : Nat :=
  if w.calls.isEmpty then w.now else w.now + settings.warmUpDelayMillis

theorem WarmUp.le_turn (settings : CacheSettings) (w : WarmUp) : w.now ≤ w.turn settings := by
  rw [turn]
  split
  · exact Nat.le_refl _
  · exact Nat.le_add_right _ _

def WarmUp.start (c : Cache) (now : Nat) : WarmUp := ⟨{ c with candidates := [] }, now, [], 0⟩

def WarmUp.visits (settings : CacheSettings) (execute : Request → Except QueryError Answer) :
    WarmUp → List Request → List (WarmUp × Request)
  | _, [] => []
  | w, r :: rest => (w, r) :: visits settings execute (w.step settings execute r) rest

def visits (settings : CacheSettings) (execute : Request → Except QueryError Answer) (c : Cache)
    (now : Nat) : List (WarmUp × Request) :=
  (WarmUp.start c now).visits settings execute (c.candidates.flatMap warmUpRequests)

/-- The warm-up has to run the request, as there is no answer to it. -/
def WarmUp.needs (settings : CacheSettings) (v : WarmUp × Request) : Bool :=
  !v.1.cache.contains settings v.1.now (warmUpLookup v.2)

theorem map_visits (w : WarmUp) (requests : List Request) :
    (WarmUp.visits settings execute w requests).map (·.2) = requests := by
  induction requests generalizing w with
  | nil => rfl
  | cons r rest ih => rw [WarmUp.visits, List.map_cons, ih]

theorem visits_append (w : WarmUp) (first rest : List Request) :
    WarmUp.visits settings execute w (first ++ rest) =
      WarmUp.visits settings execute w first ++
        WarmUp.visits settings execute (first.foldl (WarmUp.step settings execute) w) rest := by
  induction first generalizing w with
  | nil => rfl
  | cons r first ih =>
    rw [List.cons_append, WarmUp.visits, ih, WarmUp.visits, List.cons_append, List.foldl_cons]

def WarmUp.runs (settings : CacheSettings) (execute : Request → Except QueryError Answer)
    (w : WarmUp) (requests : List Request) : List Request :=
  ((visits settings execute w requests).filter (needs settings)).map (·.2)

theorem runs_append (w : WarmUp) (first rest : List Request) :
    w.runs settings execute (first ++ rest) = w.runs settings execute first ++
      (first.foldl (WarmUp.step settings execute) w).runs settings execute rest := by
  rw [WarmUp.runs, visits_append, List.filter_append, List.map_append, WarmUp.runs, WarmUp.runs]

theorem runs_sublist (w : WarmUp) (requests : List Request) :
    (w.runs settings execute requests).Sublist requests := by
  have hRun : (w.runs settings execute requests).Sublist
      ((WarmUp.visits settings execute w requests).map (·.2)) := List.filter_sublist.map _
  rwa [map_visits] at hRun

theorem sound_start {c : Cache} {now : Nat} (h : Sound settings now c) :
    Sound settings (WarmUp.start c now).now (WarmUp.start c now).cache :=
  h.same (.refl _) rfl rfl

theorem sound_visits {requests : List Request} (hw : Sound settings w.now w.cache) :
    ∀ v ∈ WarmUp.visits settings execute w requests, Sound settings v.1.now v.1.cache := by
  induction requests generalizing w with
  | nil => exact fun v hv => (List.not_mem_nil hv).elim
  | cons r rest ih =>
    intro v hv
    rcases List.mem_cons.1 hv with rfl | hv
    · exact hw
    · exact ih (hw.step execute r) v hv

/-! ### How a visit ends -/

/-- A cache has no answer to a request at a time, nor later. -/
def Lacks (settings : CacheSettings) (now : Nat) (c : Cache) (r : Request) : Prop :=
  ∀ moment, now ≤ moment → c.contains settings moment (warmUpLookup r) = false

theorem lacks_of_not_contains {now : Nat} {c : Cache}
    (h : c.contains settings now (warmUpLookup r) = false) : Lacks settings now c r := by
  intro moment hLater
  rw [Bool.eq_false_iff, ne_eq, contains_iff_find?] at h ⊢
  rintro ⟨e, hFind, hFresh⟩
  refine h ⟨e, hFind, ?_⟩
  rw [isExpired_eq_false_iff] at hFresh ⊢
  exact Nat.le_trans hLater hFresh

/-- How a warm-up deals with a request.  It passes over a request that has an answer and runs any
other.  A request that fails, or gives an answer that is too large, leaves the cache as it is. -/
inductive Ends (settings : CacheSettings) (execute : Request → Except QueryError Answer)
    (w : WarmUp) (r : Request) : WarmUp → Prop
  | held (hHeld : w.cache.contains settings w.now (warmUpLookup r) = true) :
    Ends settings execute w r w
  | failed {error : QueryError} (hLacks : Lacks settings w.now w.cache r)
      (hError : execute r = .error error) :
    Ends settings execute w r ⟨w.cache, w.turn settings, w.calls ++ [r], w.warmed⟩
  | refused {answer : Answer} (hLacks : Lacks settings w.now w.cache r)
      (hAnswer : execute r = .ok answer) (hLarge : settings.maxMemory < answer.size) :
    Ends settings execute w r ⟨w.cache, w.turn settings, w.calls ++ [r], w.warmed + 1⟩
  | stored {answer : Answer} {k : Nat} {d : Cache} (hLacks : Lacks settings w.now w.cache r)
      (hAnswer : execute r = .ok answer) (hFits : answer.size ≤ settings.maxMemory)
      (hReadied : Readied settings (w.turn settings) answer.size (warmUpLookup r).key k w.cache d) :
    Ends settings execute w r
      ⟨d.put (warmUpLookup r).key ((warmUpLookup r).entry (w.turn settings) answer),
        w.turn settings, w.calls ++ [r], w.warmed + 1⟩

/-- **Every step of a warm-up ends in one of the ways.** -/
theorem ends_step (hOn : settings.enabled = true) (hw : Sound settings w.now w.cache)
    (r : Request) : Ends settings execute w r (w.step settings execute r) := by
  rw [WarmUp.step]
  split
  · next hHeld => exact .held hHeld
  · next hNot =>
    have hLacks : Lacks settings w.now w.cache r :=
      lacks_of_not_contains (Bool.eq_false_iff.2 hNot)
    dsimp only
    split
    · next answer hAnswer =>
      by_cases hFits : answer.size ≤ settings.maxMemory
      · obtain ⟨k, d, hReadied, hSet⟩ := set_of_tidy (l := warmUpLookup r)
          (hw.mono (w.le_turn settings)).toTidy hOn hFits
        rw [WarmUp.turn] at hSet
        rw [hSet]
        exact .stored hLacks hAnswer hFits hReadied
      · have hLarge := Nat.lt_of_not_le hFits
        rw [set_of_large hLarge]
        exact .refused hLacks hAnswer hLarge
    · next error hError => exact .failed hLacks hError

theorem needs_of_lacks (h : Lacks settings w.now w.cache r) :
    WarmUp.needs settings (w, r) = true := by
  rw [WarmUp.needs, h w.now (Nat.le_refl _), Bool.not_false]

theorem calls_of_ends {w' : WarmUp} (h : Ends settings execute w r w') :
    w'.calls = w.calls ++ if WarmUp.needs settings (w, r) then [r] else [] := by
  cases h with
  | held hHeld => rw [WarmUp.needs, hHeld, Bool.not_true, if_neg Bool.false_ne_true, List.append_nil]
  | failed hLacks | refused hLacks | stored hLacks => rw [if_pos (needs_of_lacks hLacks)]

/-- An entry that goes while a warm-up deals with a request makes way for the answer to it: it
stands under the key of the request and has expired, or it is one of the fewest that have to be
evicted, all of which were used no later than those that stay. -/
inductive Goes (settings : CacheSettings) (execute : Request → Except QueryError Answer)
    (w : WarmUp) (r : Request) (p : String × Entry) : Prop
  | replaced {answer : Answer} (hAnswer : execute r = .ok answer)
      (hFits : answer.size ≤ settings.maxMemory) (hKey : p.1 = (warmUpLookup r).key)
      (hExpired : p.2.isExpired settings (w.turn settings) = true)
  | evicted {answer : Answer} {k : Nat} (hAnswer : execute r = .ok answer)
      (hFits : answer.size ≤ settings.maxMemory)
      (hEvicts : Evicts settings answer.size w.cache (w.cache.others (warmUpLookup r).key) k)
      (hFirst : p.1 ∈ (w.cache.others (warmUpLookup r).key).take k)
      (hLeast : ∀ kept ∈ w.cache.entries,
        kept.1 ∈ (w.cache.others (warmUpLookup r).key).drop k → p.2.accessed ≤ kept.2.accessed)

theorem accessed_le_of_take {now : Nat} {c : Cache} {key : String} {k : Nat} {kept : String × Entry}
    (hc : Tidy now c) (hp : p ∈ c.entries) (hKept : kept ∈ c.entries)
    (hFirst : p.1 ∈ (c.others key).take k) (hLast : kept.1 ∈ (c.others key).drop k) :
    p.2.accessed ≤ kept.2.accessed := by
  have hSorted := hc.sorted.sublist (List.filter_sublist (p := (· != key)))
  rw [← others, ← List.take_append_drop k (c.others key)] at hSorted
  exact (List.pairwise_append.1 hSorted).2.2 _ hFirst _ hLast _ _ hp hKept

/-- **An entry that goes** has expired or is evicted. -/
theorem goes_of_ends {w' : WarmUp} (h : Ends settings execute w r w')
    (hw : Sound settings w.now w.cache) (hp : p ∈ w.cache.entries) (hGone : p ∉ w'.cache.entries) :
    Goes settings execute w r p := by
  cases h with
  | held => exact absurd hp hGone
  | failed => exact absurd hp hGone
  | refused => exact absurd hp hGone
  | @stored answer k d hLacks hAnswer hFits hReadied =>
    by_cases hKey : p.1 = (warmUpLookup r).key
    · have hFind : w.cache.find? (warmUpLookup r).key = some p.2 :=
        find?_of_mem hw.nodup (hKey ▸ hp)
      have hNone := hLacks _ (w.le_turn settings)
      rw [contains, hFind, Option.any_some, Bool.not_eq_false'] at hNone
      exact .replaced hAnswer hFits hKey hNone
    · have hOthers : p.1 ∈ w.cache.others (warmUpLookup r).key :=
        List.mem_filter.2 ⟨hw.mem_keys.2 (List.mem_map_of_mem hp), by simpa using hKey⟩
      have hNotLast : p.1 ∉ (w.cache.others (warmUpLookup r).key).drop k := by
        intro hLast
        refine hGone (List.mem_append_left _ (List.mem_filter.2 ⟨?_, by simpa using hKey⟩))
        rw [hReadied.keeps.entries]
        exact List.mem_filter.2 ⟨hp, by simpa using hLast⟩
      have hFirst : p.1 ∈ (w.cache.others (warmUpLookup r).key).take k := by
        rw [← List.take_append_drop k (w.cache.others _)] at hOthers
        exact (List.mem_append.1 hOthers).resolve_right hNotLast
      exact .evicted hAnswer hFits hReadied.evicts hFirst fun kept hKept hLast =>
        accessed_le_of_take hw.toTidy hp hKept hFirst hLast

/-! ### The requests of a candidate -/

theorem nodup_eraseDups (queries : List String) : queries.eraseDups.Nodup := by
  cases queries with
  | nil => exact List.nodup_nil
  | cons query rest =>
    rw [List.eraseDups_cons, List.nodup_cons, List.mem_eraseDups]
    exact ⟨by simp, nodup_eraseDups (rest.filter (!· == query))⟩
termination_by queries.length
decreasing_by exact Nat.lt_succ_of_le (List.length_filter_le _ _)

/-- Requests that a warm-up may run for a candidate: some that were seen of its pattern, and queries
of the pattern without parameters, all of which differ. -/
structure Behind (candidate : String × List Request) (requests : List Request) : Prop where
  known : ∀ r ∈ requests,
    r ∈ candidate.2 ∨ r.params = ∅ ∧ r.query ∈ Mask.expand candidate.1
  differ : requests.Pairwise fun a b => a.same b = false

theorem Behind.sublist {candidate : String × List Request} {requests some : List Request}
    (h : Behind candidate requests) (hSome : some.Sublist requests) : Behind candidate some :=
  ⟨fun r hr => h.known r (hSome.subset hr), h.differ.sublist hSome⟩

theorem not_same_of_query_ne {a b : Request} (h : a.query ≠ b.query) : a.same b = false := by
  rw [Request.same, Bool.and_eq_false_iff]
  exact Or.inl (beq_eq_false_iff_ne.2 h)

theorem behind_warmUpRequests {candidate : String × List Request}
    (h : candidate.2.Pairwise fun a b => a.same b = false) :
    Behind candidate (warmUpRequests candidate) := by
  have hExpanded : ∀ {query : String},
      query ∈ ((Mask.expand candidate.1).filter
        fun q => candidate.2.all (·.query != q)).eraseDups →
      query ∈ Mask.expand candidate.1 ∧ ∀ seen ∈ candidate.2, seen.query ≠ query := by
    intro query hQuery
    rw [List.mem_eraseDups, List.mem_filter, List.all_eq_true] at hQuery
    exact ⟨hQuery.1, fun seen hSeen => by simpa using hQuery.2 seen hSeen⟩
  constructor
  · intro r hr
    rcases List.mem_append.1 hr with hSeen | hNew
    · exact Or.inl hSeen
    · obtain ⟨query, hQuery, rfl⟩ := List.mem_map.1 hNew
      exact Or.inr ⟨rfl, (hExpanded hQuery).1⟩
  · refine List.pairwise_append.2 ⟨h, List.pairwise_map.2 ?_, fun seen hSeen new hNew => ?_⟩
    · exact List.Pairwise.imp not_same_of_query_ne (nodup_eraseDups _)
    · obtain ⟨query, hQuery, rfl⟩ := List.mem_map.1 hNew
      exact not_same_of_query_ne ((hExpanded hQuery).2 seen hSeen)

/-! ### The whole warm-up -/

/-- **A warm-up runs the requests that it finds no answer to.** -/
theorem calls_foldl (hOn : settings.enabled = true) (hw : Sound settings w.now w.cache)
    (requests : List Request) :
    (requests.foldl (WarmUp.step settings execute) w).calls =
      w.calls ++ w.runs settings execute requests := by
  induction requests generalizing w with
  | nil => exact (List.append_nil _).symm
  | cons r rest ih =>
    rw [List.foldl_cons, ih (hw.step execute r), calls_of_ends (ends_step hOn hw r), WarmUp.runs,
      WarmUp.runs, WarmUp.visits, List.filter_cons, List.append_assoc]
    split <;> rfl

/-- An entry that is not there at the end went at one of the visits. -/
theorem exists_visit_of_gone {requests : List Request} (hp : p ∈ w.cache.entries)
    (hGone : p ∉ (requests.foldl (WarmUp.step settings execute) w).cache.entries) :
    ∃ v ∈ WarmUp.visits settings execute w requests, p ∈ v.1.cache.entries ∧
      p ∉ (v.1.step settings execute v.2).cache.entries := by
  induction requests generalizing w with
  | nil => exact absurd hp hGone
  | cons r rest ih =>
    by_cases hStep : p ∈ (w.step settings execute r).cache.entries
    · obtain ⟨v, hv, hHere⟩ := ih hStep hGone
      exact ⟨v, List.mem_cons_of_mem _ hv, hHere⟩
    · exact ⟨(w, r), List.mem_cons_self, hp, hStep⟩

/-- What a warm-up runs are requests behind the candidates, one candidate after the other. -/
theorem exists_groups {known : List (String × List Request)}
    (h : ∀ candidate ∈ known, Behind candidate (warmUpRequests candidate)) (w : WarmUp) :
    ∃ groups, List.Forall₂ Behind known groups ∧
      w.runs settings execute (known.flatMap warmUpRequests) = groups.flatten := by
  induction known generalizing w with
  | nil => exact ⟨[], .nil, rfl⟩
  | cons candidate rest ih =>
    obtain ⟨hFirst, hRest⟩ := List.forall_mem_cons.1 h
    obtain ⟨groups, hGroups, hFlat⟩ :=
      ih hRest ((warmUpRequests candidate).foldl (WarmUp.step settings execute) w)
    refine ⟨w.runs settings execute (warmUpRequests candidate) :: groups,
      .cons (hFirst.sublist (runs_sublist w _)) hGroups, ?_⟩
    rw [List.flatMap_cons, runs_append, hFlat, List.flatten_cons]

/-- `w` is what a warm-up of `s` comes to, which runs only what is needed and disturbs nothing
else. -/
structure OnlyFills (settings : CacheSettings) (execute : Request → Except QueryError Answer)
    (s : Timed) (w : WarmUp) : Prop where
  candidates : w.cache.candidates = []
  lookups : SameLookups s.cache w.cache
  patterns : (s.cache.candidates.map (·.1)).Nodup
  /-- The calls are requests behind the candidates, one candidate after the other. -/
  calls : ∃ groups, List.Forall₂ Behind s.cache.candidates groups ∧ w.calls = groups.flatten
  /-- All requests behind the candidates are met, whatever comes of those before. -/
  met : (visits settings execute s.cache s.now).map (·.2) =
    s.cache.candidates.flatMap warmUpRequests
  /-- Those are run that have no answer when they are met. -/
  run : w.calls =
    ((visits settings execute s.cache s.now).filter (WarmUp.needs settings)).map (·.2)
  ends : ∀ v ∈ visits settings execute s.cache s.now,
    Ends settings execute v.1 v.2 (v.1.step settings execute v.2)
  /-- What a visit takes out, also of what was stored before it, makes way for its answer. -/
  goes : ∀ v ∈ visits settings execute s.cache s.now, ∀ p ∈ v.1.cache.entries,
    p ∉ (v.1.step settings execute v.2).cache.entries → Goes settings execute v.1 v.2 p
  /-- So an entry that was there before and is not there at the end went at one of the visits. -/
  gone : ∀ p ∈ s.cache.entries, p ∉ w.cache.entries →
    ∃ v ∈ visits settings execute s.cache s.now, Goes settings execute v.1 v.2 p

/-- **A warm-up runs only what is needed and disturbs nothing else.**  After every history it takes
all candidates and meets every request behind them, though some fail; it runs those that have no
answer, for each candidate none twice; and nothing changes but what storing the answers changes. -/
theorem warmUp_only_fills {history : History} {s : Timed} (h : Recorded settings history s)
    (execute : Request → Except QueryError Answer) :
    OnlyFills settings execute s (s.cache.warmUp settings execute s.now) := by
  have hCollected := collected_of_recorded h
  -- a cache that is off has no candidates, so a visit only comes to one that is on
  have hOn : ∀ v ∈ visits settings execute s.cache s.now, settings.enabled = true := by
    intro v hv
    refine (hCollected.looked fun hNone => ?_).1
    rw [visits, hNone] at hv
    exact List.not_mem_nil hv
  have hVisited : ∀ v ∈ visits settings execute s.cache s.now, Sound settings v.1.now v.1.cache :=
    sound_visits (sound_start h.sound)
  have hGoes : ∀ v ∈ visits settings execute s.cache s.now, ∀ p ∈ v.1.cache.entries,
      p ∉ (v.1.step settings execute v.2).cache.entries → Goes settings execute v.1 v.2 p :=
    fun v hv p hp hGone =>
      goes_of_ends (ends_step (hOn v hv) (hVisited v hv) v.2) (hVisited v hv) hp hGone
  have hRun : (s.cache.warmUp settings execute s.now).calls =
      ((visits settings execute s.cache s.now).filter (WarmUp.needs settings)).map (·.2) := by
    by_cases hNone : s.cache.candidates = []
    · rw [warmUp, visits, hNone]
      rfl
    · exact calls_foldl (hCollected.looked hNone).1 (sound_start h.sound) _
  refine ⟨candidates_warmUp h.sound execute, sameLookups_warmUp h.sound execute,
    hCollected.patterns, ?_, map_visits _ _, hRun, fun v hv => ends_step (hOn v hv) (hVisited v hv) _,
    hGoes, fun p hp hGone => ?_⟩
  · obtain ⟨groups, hGroups, hFlat⟩ := exists_groups
      (fun candidate hMem => behind_warmUpRequests (hCollected.requests candidate hMem))
      (.start s.cache s.now)
    exact ⟨groups, hGroups, hRun.trans hFlat⟩
  · obtain ⟨v, hv, hHere, hThere⟩ := @exists_visit_of_gone settings execute (.start s.cache s.now) p
      (s.cache.candidates.flatMap warmUpRequests) hp hGone
    exact ⟨v, hv, hGoes v hv p hHere hThere⟩

def lookedUpOften (call : Call) : List Event := .set call .empty :: List.replicate 4 (.get call)

def matchTen : Call := ⟨"MATCH (n) LIMIT 10", ∅, "\x7b\x7d"⟩

def tenWanted : Timed := Event.applyAll .default ⟨.empty, 0⟩ (lookedUpOften matchTen)

def allButFifty (r : Request) : Except QueryError Answer :=
  if r.query == "MATCH (n) LIMIT 50" then .error (.deadlineExceeded 0) else .ok .empty

theorem recorded_tenWanted : ∃ history, Recorded .default history tenWanted :=
  (Recorded.start 0).exists_applyAll _

/-- The request that was seen has its answer; of the two that are run the second is stored. -/
theorem warmUp_only_fills_ten :
    (∃ history, Recorded .default history tenWanted) ∧
      ((tenWanted.cache.warmUp .default allButFifty tenWanted.now).calls.map (·.query)) =
        ["MATCH (n) LIMIT 50", "MATCH (n) LIMIT 100"] ∧
      (tenWanted.cache.warmUp .default allButFifty tenWanted.now).cache.entries.length = 2 ∧
      OnlyFills .default allButFifty tenWanted
        (tenWanted.cache.warmUp .default allButFifty tenWanted.now) := by
  obtain ⟨history, hRecorded⟩ := recorded_tenWanted
  exact ⟨⟨history, hRecorded⟩, by decide +kernel, by decide +kernel,
    warmUp_only_fills hRecorded allButFifty⟩

end CodeGraph.Cache
