import Mathlib.Data.List.Dedup
import CodeGraph.Proofs.Cache.Runs

/-!
# Histories of a cache

A history lists the events of a run, each with the cache and the time that it met, so that facts
about the past of a cache can be read off it: which answers were handed over and what they met
(`handedOver`), and which entries were used (`uses`).  A use is an answer that is stored or a lookup
that is answered; `answering?` names the entry that answers a lookup, and `get_cases` says what a
lookup does in terms of it.

Every history is that of a run (`Recorded.run`).
-/

namespace CodeGraph.Cache

variable {settings : CacheSettings} {now : Nat} {c d : Cache} {l : Lookup} {key : String} {e : Entry}

/-! ### Lookups -/

def similar? (settings : CacheSettings) (c : Cache) (now : Nat) (l : Lookup) : Option String :=
  (c.entries.find? (·.2.answersFor settings now l)).map (·.1)

/-- The key of the entry that answers a lookup: its own if that has not expired, or else the first
that may answer for it. -/
def answering? (settings : CacheSettings) (c : Cache) (now : Nat) (l : Lookup) : Option String :=
  if !settings.enabled then none
  else if c.contains settings now l then some l.key
  else c.similar? settings now l

/-- What a lookup searches: the cache in which it was counted, without its own entry if that has
expired. -/
inductive Searched (settings : CacheSettings) (now : Nat) (c : Cache) (l : Lookup) : Cache → Prop
  | all : Searched settings now c l (c.count settings l)
  | expired {e : Entry} (hFind : c.find? l.key = some e)
      (hExpired : e.isExpired settings now = true) :
      Searched settings now c l ((c.count settings l).remove l.key)

theorem Searched.tidy (h : Searched settings now c l d) (hc : Tidy now c) :
    Tidy now d := by
  have hCount : Tidy now (c.count settings l) := (Change.count c l).tidy hc
  cases h with
  | all => exact hCount
  | expired => exact hCount.remove l.key

theorem isExpired_of_answersFor (h : e.answersFor settings now l = true) :
    e.isExpired settings now = false :=
  isExpired_eq_false_iff.2 (answersFor_iff.1 h).1

theorem similar?_remove (hNodup : c.keys.Nodup) (hFind : c.find? key = some e)
    (hExpired : e.isExpired settings now = true) :
    (c.remove key).similar? settings now l = c.similar? settings now l := by
  rw [similar?, similar?, entries_remove, List.find?_filter, ← List.head?_filter,
    ← List.head?_filter]
  refine congrArg (Option.map _ <| List.head? ·) (List.filter_congr fun p hp => ?_)
  by_cases hKey : p.1 = key
  · have hEntry : p.2 = e :=
      eq_of_mem_entries hNodup (hKey ▸ hp : (key, p.2) ∈ c.entries) (mem_of_find? hFind)
    have hNot : p.2.answersFor settings now l = false := by
      rw [Bool.eq_false_iff]
      intro h
      rw [hEntry] at h
      rw [isExpired_of_answersFor h] at hExpired
      cases hExpired
    simp [hNot]
  · simp [hKey]

theorem getSimilar_cases (c : Cache) (now : Nat) (l : Lookup) :
    c.similar? settings now l = none ∧
        c.getSimilar settings now l = (none, { c with misses := c.misses + 1 }) ∨
      ∃ key ∈ c.keys, c.similar? settings now l = some key ∧
        c.getSimilar settings now l =
          { c with similarHits := c.similarHits + 1 }.hit settings now key := by
  rw [getSimilar, similar?]
  cases hFind : c.entries.find? (·.2.answersFor settings now l) with
  | none => exact Or.inl ⟨rfl, rfl⟩
  | some p =>
    exact Or.inr ⟨p.1, List.mem_map_of_mem (List.mem_of_find?_eq_some hFind), rfl, rfl⟩

theorem get_of_not_contains (hNodup : c.keys.Nodup) (hOn : settings.enabled = true)
    (h : c.contains settings now l = false) :
    ∃ d, Searched settings now c l d ∧ d.similar? settings now l = c.similar? settings now l ∧
      c.get settings now l = d.getSimilar settings now l := by
  rw [get_eq hOn, if_neg (by simp [h])]
  cases hFind : c.find? l.key with
  | none =>
    have hKey : l.key ∉ (c.count settings l).keys := find?_eq_none_iff.1 hFind
    exact ⟨_, .all, rfl, by rw [remove_of_not_mem hKey]⟩
  | some e =>
    have hExpired : e.isExpired settings now = true := by simpa [contains, hFind] using h
    exact ⟨_, .expired hFind hExpired,
      similar?_remove (c := c.count settings l) hNodup hFind hExpired, rfl⟩

/-- **What a lookup does**: nothing if the cache is off; else it is counted, its own entry goes if
it has expired, and the entry that answers is hit, or there is none and a miss is counted. -/
theorem get_cases (hNodup : c.keys.Nodup) (now : Nat) (l : Lookup) :
    settings.enabled = false ∧ c.answering? settings now l = none ∧
        c.get settings now l = (none, c) ∨
      settings.enabled = true ∧ ∃ d, Searched settings now c l d ∧
        (c.answering? settings now l = none ∧
            c.get settings now l = (none, { d with misses := d.misses + 1 }) ∨
          ∃ key ∈ d.keys, ∃ similar ≤ 1, c.answering? settings now l = some key ∧
            c.get settings now l =
              { d with similarHits := d.similarHits + similar }.hit settings now key) := by
  cases hOn : settings.enabled with
  | false =>
    refine Or.inl ⟨rfl, ?_, ?_⟩
    · rw [answering?, if_pos (by simp [hOn])]
    · rw [get, if_pos (by simp [hOn])]
  | true =>
    refine Or.inr ⟨rfl, ?_⟩
    rw [answering?, if_neg (by simp [hOn])]
    cases hOwn : c.contains settings now l with
    | true =>
      obtain ⟨e, hFind, _⟩ := contains_iff_find?.1 hOwn
      have hKey : l.key ∈ (c.count settings l).keys := List.mem_map_of_mem (mem_of_find? hFind)
      refine ⟨_, .all, Or.inr ⟨l.key, hKey, 0, Nat.zero_le _, if_pos rfl, ?_⟩⟩
      rw [get_eq hOn, if_pos hOwn]
      rfl
    | false =>
      rw [if_neg Bool.false_ne_true]
      obtain ⟨d, hSearched, hSimilar, hGet⟩ := get_of_not_contains hNodup hOn hOwn
      refine ⟨d, hSearched, ?_⟩
      rw [hGet, ← hSimilar]
      rcases getSimilar_cases d now l with hMiss | ⟨key, hKey, hSome, hHit⟩
      · exact Or.inl hMiss
      · exact Or.inr ⟨key, hKey, 1, Nat.le_refl _, hSome, hHit⟩

/-! ### Answers handed over -/

variable {execute : Request → Except QueryError Answer}

/-- The answer that a warm-up hands over for a request, with the cache and the time that it meets. -/
def WarmUp.handsOver (settings : CacheSettings) (execute : Request → Except QueryError Answer)
    (w : WarmUp) (r : Request) : List (Timed × Stored) :=
  if w.cache.contains settings w.now (warmUpLookup r) then []
  else ((Event.answered execute r).map fun stored =>
    (⟨w.cache, (w.step settings execute r).now⟩, stored)).toList

def WarmUp.handsOverAll (settings : CacheSettings)
    (execute : Request → Except QueryError Answer) : WarmUp → List Request → List (Timed × Stored)
  | _, [] => []
  | w, r :: rest => w.handsOver settings execute r ++
      handsOverAll settings execute (w.step settings execute r) rest

def Event.handsOver (settings : CacheSettings) (s : Timed) : Event → List (Timed × Stored)
  | .set call answer => [(s, ⟨call, answer⟩)]
  | .warmUp execute =>
    WarmUp.handsOverAll settings execute ⟨{ s.cache with candidates := [] }, s.now, [], 0⟩
      (s.cache.candidates.flatMap warmUpRequests)
  | _ => []

theorem WarmUp.le_now_step (settings : CacheSettings)
    (execute : Request → Except QueryError Answer) (w : WarmUp) (r : Request) :
    w.now ≤ (w.step settings execute r).now := by
  rcases step_cases settings execute w r with hSame | ⟨hLater, _⟩
  · rw [hSame]
  · exact hLater

/-- A request of a warm-up is passed over, or it is run and hands its answer over if it has one. -/
theorem WarmUp.handsOver_cases (settings : CacheSettings)
    (execute : Request → Except QueryError Answer) (w : WarmUp) (r : Request) :
    w.handsOver settings execute r = [] ∧
        (w.step settings execute r).calls.filterMap (Event.answered execute) =
          w.calls.filterMap (Event.answered execute) ∧
        (w.step settings execute r).cache = w.cache ∨
      ∃ stored, w.handsOver settings execute r =
          [(⟨w.cache, (w.step settings execute r).now⟩, stored)] ∧
        (w.step settings execute r).calls.filterMap (Event.answered execute) =
          w.calls.filterMap (Event.answered execute) ++ [stored] ∧
        (w.step settings execute r).cache = w.cache.set settings
          (w.step settings execute r).now stored.call.lookup stored.answer := by
  rw [handsOver, step, Event.answered]
  split
  · exact Or.inl ⟨rfl, rfl, rfl⟩
  · dsimp only
    cases hAnswer : execute r with
    | ok answer =>
      refine Or.inr ⟨⟨⟨r.query, r.params, warmUpContext⟩, answer⟩, rfl, ?_, rfl⟩
      rw [List.filterMap_append]
      simp [Event.answered, hAnswer, Except.toOption]
    | error error =>
      refine Or.inl ⟨rfl, ?_, rfl⟩
      rw [List.filterMap_append]
      simp [Event.answered, hAnswer, Except.toOption]

/-- What holds of a warm-up and what it handed over, at its start and after every request, holds at
its end. -/
theorem handsOver_induction {s : Timed} {P : WarmUp → List (Timed × Stored) → Prop}
    (hStart : P ⟨{ s.cache with candidates := [] }, s.now, [], 0⟩ [])
    (hStep : ∀ w handed r, P w handed →
      P (w.step settings execute r) (handed ++ w.handsOver settings execute r)) :
    P (s.cache.warmUp settings execute s.now) ((Event.warmUp execute).handsOver settings s) := by
  have hFold : ∀ (requests : List Request) (w : WarmUp) (handed : List (Timed × Stored)),
      P w handed → P (requests.foldl (WarmUp.step settings execute) w)
        (handed ++ WarmUp.handsOverAll settings execute w requests) := by
    intro requests
    induction requests with
    | nil =>
      intro w handed h
      rwa [WarmUp.handsOverAll, List.append_nil]
    | cons r requests ih =>
      intro w handed h
      rw [WarmUp.handsOverAll, ← List.append_assoc]
      exact ih _ _ (hStep w handed r h)
  exact hFold _ _ _ hStart

/-- Of the cache, a warm-up changes nothing but what storing the answers changes, after it has
taken the candidates.  So what holds with no candidates and after each answer holds at its end. -/
theorem stores_induction {s : Timed} {P : WarmUp → List (Timed × Stored) → Prop}
    (hs : Sound settings s.now s.cache) (execute : Request → Except QueryError Answer)
    (hStart : ∀ w, w.cache = { s.cache with candidates := [] } → P w [])
    (hSame : ∀ w w' handed, w'.cache = w.cache → P w handed → P w' handed)
    (hSet : ∀ w w' handed stored, Sound settings w'.now w.cache →
      w'.cache = w.cache.set settings w'.now stored.call.lookup stored.answer → P w handed →
      P w' (handed ++ [(⟨w.cache, w'.now⟩, stored)])) :
    P (s.cache.warmUp settings execute s.now)
      ((Event.warmUp execute).handsOver settings s) := by
  refine (handsOver_induction (P := fun w handed => Sound settings w.now w.cache ∧ P w handed)
    ⟨hs.same (.refl _) rfl rfl, hStart _ rfl⟩ ?_).2
  rintro w handed r ⟨hw, hP⟩
  have hLater := hw.mono (WarmUp.le_now_step settings execute w r)
  rcases WarmUp.handsOver_cases settings execute w r with
    ⟨hNone, _, hCache⟩ | ⟨stored, hSome, _, hCache⟩
  · rw [hNone, List.append_nil]
    exact ⟨hCache ▸ hLater, hSame w _ handed hCache hP⟩
  · rw [hSome]
    exact ⟨hCache ▸ hLater.set _ _, hSet w _ handed stored hLater hCache hP⟩

theorem map_handsOver (s : Timed) (event : Event) :
    (event.handsOver settings s).map (·.2) = event.stores settings s := by
  cases event with
  | warmUp execute =>
    refine handsOver_induction (P := fun w handed =>
      handed.map (·.2) = w.calls.filterMap (Event.answered execute)) rfl ?_
    intro w handed r h
    rw [List.map_append, h]
    rcases WarmUp.handsOver_cases settings execute w r with
      ⟨hNone, hCalls, _⟩ | ⟨stored, hSome, hCalls, _⟩
    · rw [hNone, hCalls, List.map_nil, List.append_nil]
    · rw [hSome, hCalls]
      rfl
  | _ => rfl

/-! ### Histories -/

/-- The events of a run, the first one first, each with the cache and the time that it met. -/
abbrev History := List (Timed × Event)

/-- The caches that histories lead to. -/
inductive Recorded (settings : CacheSettings) : History → Timed → Prop
  | start (now : Nat) : Recorded settings [] ⟨.empty, now⟩
  | step {history : History} {s : Timed} (before : Recorded settings history s) (event : Event) :
      Recorded settings (history ++ [(s, event)]) (event.apply settings s)
  | arrange {history : History} {s : Timed} (before : Recorded settings history s)
      {entries : List (String × Entry)} {candidates : List (String × List Request)}
      (hEntries : entries.Perm s.cache.entries) (hCandidates : candidates.Perm s.cache.candidates) :
      Recorded settings history { s with cache := { s.cache with entries, candidates } }

variable {history : History} {s : Timed}

/-- The answers that were handed to the cache, each with the cache and the time that it met. -/
def handedOver (settings : CacheSettings) (history : History) : List (Timed × Stored) :=
  history.flatMap fun p => p.2.handsOver settings p.1

theorem handedOver_concat (history : History) (s : Timed) (event : Event) :
    handedOver settings (history ++ [(s, event)]) =
      handedOver settings history ++ event.handsOver settings s := by
  rw [handedOver, List.flatMap_append, List.flatMap_singleton, handedOver]

/-- **A history is that of a run.** -/
theorem Recorded.run (h : Recorded settings history s) :
    Run settings ((handedOver settings history).map (·.2)) s := by
  induction h with
  | start now => exact .start now
  | arrange before hEntries hCandidates ih => exact ih.arrange hEntries hCandidates
  | @step history s before event ih =>
    rw [handedOver_concat, List.map_append, map_handsOver]
    exact ih.step event

theorem Recorded.sound (h : Recorded settings history s) : Sound settings s.now s.cache :=
  sound_of_run h.run

/-- What events make of a cache, one after the other. -/
def Event.applyAll (settings : CacheSettings) (s : Timed) (events : List Event) : Timed :=
  events.foldl (fun s event => event.apply settings s) s

theorem Recorded.exists_applyAll (h : Recorded settings history s) (events : List Event) :
    ∃ longer, Recorded settings longer (Event.applyAll settings s events) := by
  induction events generalizing history s with
  | nil => exact ⟨history, h⟩
  | cons event rest ih => exact ih (h.step event)

/-! ### Uses -/

def Stored.fits (settings : CacheSettings) (stored : Stored) : Bool :=
  settings.enabled && stored.answer.size ≤ settings.maxMemory

theorem le_of_fits {stored : Stored} (h : stored.fits settings = true) :
    settings.enabled = true ∧ stored.answer.size ≤ settings.maxMemory := by
  simpa [Stored.fits] using h

theorem set_of_not_fits {stored : Stored} (h : stored.fits settings = false) (c : Cache)
    (now : Nat) : c.set settings now stored.call.lookup stored.answer = c := by
  rw [set, if_pos]
  rw [Stored.fits, Bool.and_eq_false_iff, decide_eq_false_iff_not, Nat.not_le] at h
  simpa using h

def storedKeys (settings : CacheSettings) (handed : List (Timed × Stored)) : List String :=
  (handed.filter (·.2.fits settings)).map (·.2.call.lookup.key)

@[simp] theorem storedKeys_nil : storedKeys settings [] = [] := rfl

@[simp] theorem storedKeys_append (first next : List (Timed × Stored)) :
    storedKeys settings (first ++ next) =
      storedKeys settings first ++ storedKeys settings next := by
  rw [storedKeys, List.filter_append, List.map_append, storedKeys, storedKeys]

theorem storedKeys_of_fits {stored : Stored} (h : stored.fits settings = true) (s : Timed) :
    storedKeys settings [(s, stored)] = [stored.call.lookup.key] := by
  simp [storedKeys, h]

theorem storedKeys_of_not_fits {stored : Stored} (h : stored.fits settings = false) (s : Timed) :
    storedKeys settings [(s, stored)] = [] := by
  simp [storedKeys, h]

/-- The keys of the entries that an event uses: those that it stores and the one that answers. -/
def Event.uses (settings : CacheSettings) (s : Timed) : Event → List String
  | .get call => (s.cache.answering? settings s.now call.lookup).toList
  | event => storedKeys settings (event.handsOver settings s)

/-- The keys of entries in the order in which these were used. -/
def uses (settings : CacheSettings) (history : History) : List String :=
  history.flatMap fun p => p.2.uses settings p.1

theorem uses_concat (history : History) (s : Timed) (event : Event) :
    uses settings (history ++ [(s, event)]) = uses settings history ++ event.uses settings s := by
  rw [uses, List.flatMap_append, List.flatMap_singleton, uses]

end CodeGraph.Cache
