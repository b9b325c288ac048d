import CodeGraph.Proofs.Cache.History

/-!
# The outcome of a lookup

A lookup takes its own entry out if that has expired (`withoutExpired`), and is answered exactly if
an entry may answer it, whatever order the entries are in (`get_outcome_cases`).  If it is not, the
entries, the recency order and the byte count stay as they are then; if it is, the entry that
answers counts the hit and becomes the last used, and nothing else changes (`AnsweredFrom`).

Entries keep the time at which they were stored, so an answer was handed over no longer ago than
entries live (`handed_of_recorded`).  `get_outcome` says all this of every history.
-/

namespace CodeGraph.Cache

variable {settings : CacheSettings} {now : Nat} {c d : Cache} {l : Lookup}
variable {p : String × Entry} {history : History} {s : Timed}

/-! ### Entries that may answer -/

/-- The entry is young enough, and it stands under the key of the lookup or has its query, its
parameters as written, and a context that is similar enough. -/
structure MayAnswer (settings : CacheSettings) (now : Nat) (l : Lookup) (p : String × Entry) :
    Prop where
  fresh : now ≤ p.2.stored + settings.lifetimeMillis
  asked : p.1 = l.key ∨ p.2.request.query = l.request.query ∧ p.2.bindings = l.bindings ∧
    settings.similarityThreshold.atMost (Context.similarity l.context p.2.context) = true

theorem contains_iff (hNodup : c.keys.Nodup) : c.contains settings now l = true ↔
    ∃ e, (l.key, e) ∈ c.entries ∧ now ≤ e.stored + settings.lifetimeMillis := by
  simp only [contains_iff_find?, isExpired_eq_false_iff]
  constructor
  · rintro ⟨e, hFind, hFresh⟩
    exact ⟨e, mem_of_find? hFind, hFresh⟩
  · rintro ⟨e, he, hFresh⟩
    exact ⟨e, find?_of_mem hNodup he, hFresh⟩

/-! ### What is searched -/

def withoutExpired (settings : CacheSettings) (c : Cache) (now : Nat) (l : Lookup) : Cache :=
  if c.contains settings now l then c else c.remove l.key

structure SameStock (c d : Cache) : Prop where
  entries : d.entries = c.entries
  order : d.order = c.order
  memory : d.memory = c.memory

theorem sameStock_remove_count (c : Cache) (l : Lookup) (key : String) :
    SameStock (c.remove key) ((c.count settings l).remove key) := by
  have hCount : (c.count settings l).find? key = c.find? key := rfl
  rw [remove, remove, hCount]
  split <;> exact ⟨rfl, rfl, rfl⟩

/-! ### What a lookup leaves -/

/-- The lookup is answered with `r` from the entry `p`: an entry that may answer it, and its own if
that has not expired.  The entry counts the hit and becomes the last used. -/
structure AnsweredFrom (settings : CacheSettings) (now : Nat) (l : Lookup) (c d : Cache)
    (p : String × Entry) (r : Answer) : Prop where
  mem : p ∈ c.entries
  mayAnswer : MayAnswer settings now l p
  own : ∀ e, (l.key, e) ∈ c.entries → now ≤ e.stored + settings.lifetimeMillis → p = (l.key, e)
  answer : r = { p.2.answer with cached := true }
  entries : d.entries = (c.withoutExpired settings now l).entries.map fun q =>
    (q.1, if q.1 = p.1 then { q.2 with hits := q.2.hits + 1, accessed := now } else q.2)
  order : d.order = (c.withoutExpired settings now l).order.erase p.1 ++ [p.1]
  memory : d.memory = (c.withoutExpired settings now l).memory

theorem answeredFrom_hit (hSame : SameStock (c.withoutExpired settings now l) d)
    (hFind : d.find? p.1 = some p.2) (hMem : p ∈ c.entries) (hMay : MayAnswer settings now l p)
    (hOwn : ∀ e, (l.key, e) ∈ c.entries → now ≤ e.stored + settings.lifetimeMillis →
      p = (l.key, e)) :
    ∃ r, (d.hit settings now p.1).1 = some r ∧
      AnsweredFrom settings now l c (d.hit settings now p.1).2 p r := by
  rw [hit, hFind]
  refine ⟨_, rfl, hMem, hMay, hOwn, rfl, ?_, ?_, hSame.memory⟩
  · simp only [hSame.entries, beq_iff_eq, Entry.used]
  · simp only [hSame.order]

theorem answeredFrom_own (hNodup : c.keys.Nodup) (hOwn : c.contains settings now l = true) :
    ∃ p r, ((c.count settings l).hit settings now l.key).1 = some r ∧
      AnsweredFrom settings now l c ((c.count settings l).hit settings now l.key).2 p r := by
  obtain ⟨e, he, hFresh⟩ := (contains_iff hNodup).1 hOwn
  have hSame : SameStock (c.withoutExpired settings now l) (c.count settings l) := by
    rw [withoutExpired, if_pos hOwn]
    exact ⟨rfl, rfl, rfl⟩
  refine ⟨(l.key, e), answeredFrom_hit hSame (find?_of_mem hNodup he) he ⟨hFresh, Or.inl rfl⟩ ?_⟩
  intro e' he' _
  rw [eq_of_mem_entries hNodup he he']

theorem getSimilar_outcome (hNodup : c.keys.Nodup) (hOwn : c.contains settings now l = false)
    (hSame : SameStock (c.withoutExpired settings now l) d)
    (hEntries : d.entries = c.entries.filter (·.1 != l.key)) :
    (∀ p ∈ c.entries, ¬MayAnswer settings now l p) ∧ (d.getSimilar settings now l).1 = none ∧
        SameStock (c.withoutExpired settings now l) (d.getSimilar settings now l).2 ∨
      ∃ p r, (d.getSimilar settings now l).1 = some r ∧
        AnsweredFrom settings now l c (d.getSimilar settings now l).2 p r := by
  have hNone : ∀ e, (l.key, e) ∈ c.entries → ¬now ≤ e.stored + settings.lifetimeMillis := by
    intro e he hFresh
    rw [(contains_iff hNodup).2 ⟨e, he, hFresh⟩] at hOwn
    cases hOwn
  rw [getSimilar]
  cases hFind : d.entries.find? (·.2.answersFor settings now l) with
  | none =>
    refine Or.inl ⟨fun p hp hMay => ?_, rfl, hSame.entries, hSame.order, hSame.memory⟩
    have hNe : p.1 ≠ l.key := fun hKey => hNone p.2 (hKey ▸ hp) hMay.fresh
    have hMem : p ∈ d.entries := by
      rw [hEntries]
      exact List.mem_filter.2 ⟨hp, by simpa using hNe⟩
    have hAnswers := answersFor_iff.2 ⟨hMay.fresh, hMay.asked.resolve_left hNe⟩
    exact List.find?_eq_none.1 hFind p hMem hAnswers
  | some p =>
    have hMem := List.mem_of_find?_eq_some hFind
    have hTest := List.find?_some hFind
    obtain ⟨hFresh, hAsked⟩ := answersFor_iff.1 hTest
    have hNodup' : d.keys.Nodup := by
      rw [keys, hEntries]
      exact hNodup.sublist (List.filter_sublist.map _)
    refine Or.inr ⟨p, answeredFrom_hit (d := { d with similarHits := d.similarHits + 1 })
      ⟨hSame.entries, hSame.order, hSame.memory⟩ (find?_of_mem hNodup' hMem)
      (List.mem_filter.1 (hEntries ▸ hMem)).1 ⟨hFresh, Or.inr hAsked⟩ ?_⟩
    exact fun e he hOwnFresh => absurd hOwnFresh (hNone e he)

/-- **A lookup is answered if an entry may answer it**, and otherwise leaves the cache without its
expired entry. -/
theorem get_outcome_cases (hNodup : c.keys.Nodup) (hOn : settings.enabled = true) (now : Nat)
    (l : Lookup) :
    (∀ p ∈ c.entries, ¬MayAnswer settings now l p) ∧ (c.get settings now l).1 = none ∧
        SameStock (c.withoutExpired settings now l) (c.get settings now l).2 ∨
      ∃ p r, (c.get settings now l).1 = some r ∧
        AnsweredFrom settings now l c (c.get settings now l).2 p r := by
  rw [get_eq hOn]
  cases hOwn : c.contains settings now l with
  | true => exact Or.inr (answeredFrom_own hNodup hOwn)
  | false =>
    have hSame : SameStock (c.withoutExpired settings now l)
        ((c.count settings l).remove l.key) := by
      rw [withoutExpired, hOwn]
      exact sameStock_remove_count c l l.key
    exact getSimilar_outcome hNodup hOwn hSame (entries_remove (c.count settings l) l.key)

theorem exists_answeredFrom (hNodup : c.keys.Nodup) {r : Answer}
    (h : (c.get settings now l).1 = some r) :
    ∃ p, AnsweredFrom settings now l c (c.get settings now l).2 p r := by
  cases hOn : settings.enabled with
  | false =>
    rw [get, if_pos (by simp [hOn])] at h
    cases h
  | true =>
    rcases get_outcome_cases hNodup hOn now l with ⟨_, hNone, _⟩ | ⟨p, r', hGet, hAnswered⟩
    · rw [hNone] at h
      cases h
    · rw [hGet] at h
      cases h
      exact ⟨p, hAnswered⟩

/-! ### Answers handed over -/

/-- The entry under a key, as it was stored, is that of an answer that was handed over, at the time
at which it was. -/
def Handed (handed : List (Timed × Stored)) (p : String × Entry) : Prop :=
  ∃ given ∈ handed, p = (given.2.call.lookup.key,
    given.2.call.lookup.entry given.1.now given.2.answer)

theorem Handed.mono {handed all : List (Timed × Stored)} (h : Handed handed p)
    (hSubset : handed ⊆ all) : Handed all p := by
  obtain ⟨given, hGiven, hp⟩ := h
  exact ⟨given, hSubset hGiven, hp⟩

def fitting (settings : CacheSettings) (handed : List (Timed × Stored)) : List (Timed × Stored) :=
  handed.filter (·.2.fits settings)

theorem fitting_append (first next : List (Timed × Stored)) :
    fitting settings (first ++ next) = fitting settings first ++ fitting settings next :=
  List.filter_append _ _

theorem handed_set (c : Cache) (now : Nat) (stored : Stored) :
    ∀ p ∈ (c.set settings now stored.call.lookup stored.answer).origins,
      p ∈ c.origins ∨ Handed (fitting settings [(⟨c, now⟩, stored)]) p := by
  intro p hp
  cases hFits : stored.fits settings with
  | false =>
    rw [set_of_not_fits hFits] at hp
    exact Or.inl hp
  | true =>
    rcases List.mem_cons.1 (origins_set _ _ _ hp) with rfl | hp
    · exact Or.inr ⟨(⟨c, now⟩, stored), List.mem_filter.2 ⟨List.mem_singleton.2 rfl, hFits⟩, rfl⟩
    · exact Or.inl hp

/-- **What an event leaves was there or was stored with it.** -/
theorem origins_apply (hs : Sound settings s.now s.cache) (event : Event) :
    ∀ p ∈ (event.apply settings s).cache.origins,
      p ∈ s.cache.origins ∨ Handed (fitting settings (event.handsOver settings s)) p := by
  rcases event.stores_cases settings s with
    ⟨call, answer, rfl⟩ | ⟨execute, rfl⟩ | ⟨_, hChange⟩
  · exact handed_set s.cache s.now ⟨call, answer⟩
  · refine stores_induction (P := fun w handed => ∀ p ∈ w.cache.origins,
      p ∈ s.cache.origins ∨ Handed (fitting settings handed) p) hs execute ?_ ?_ ?_
    · intro w hCache p hp
      rw [hCache] at hp
      exact Or.inl hp
    · intro w w' handed hCache hHanded
      rw [hCache]
      exact hHanded
    · intro w w' handed stored _ hCache hHanded p hp
      rw [hCache] at hp
      rw [fitting_append]
      rcases handed_set w.cache w'.now stored p hp with hp | hp
      · exact (hHanded p hp).imp_right (·.mono (List.subset_append_left _ _))
      · exact Or.inr (hp.mono (List.subset_append_right _ _))
  · exact fun p hp => Or.inl (hChange.origins_subset hp)

/-- **Every entry holds an answer that was handed over, and since when.** -/
theorem handed_of_recorded (h : Recorded settings history s) :
    ∀ p ∈ s.cache.origins, Handed (handedOver settings history) p := by
  induction h with
  | start now => exact fun p hp => (List.not_mem_nil hp).elim
  | arrange before hEntries _ ih =>
    exact fun p hp => ih p (origins_subset_of_entries_subset hEntries.subset hp)
  | step before event ih =>
    intro p hp
    rw [handedOver_concat]
    rcases origins_apply before.sound event p hp with hp | hp
    · exact (ih p hp).mono (List.subset_append_left _ _)
    · exact hp.mono (List.Subset.trans (List.filter_subset_self _) (List.subset_append_right _ _))

/-! ### Histories -/

/-- **The outcome of a lookup.**  After every history, a lookup in a cache that is on is answered
exactly if an entry may answer it.  If it is not, the entries, their order and the byte count are as
they were without its own expired entry; if it is, no more has changed than that the entry which
answers was used.  What it answers was handed over no longer ago than entries live. -/
theorem get_outcome (h : Recorded settings history s) (hOn : settings.enabled = true)
    (call : Call) :
    ((s.cache.get settings s.now call.lookup).1.isSome = true ↔
        ∃ p ∈ s.cache.entries, MayAnswer settings s.now call.lookup p) ∧
      ((s.cache.get settings s.now call.lookup).1 = none →
        SameStock (s.cache.withoutExpired settings s.now call.lookup)
          (s.cache.get settings s.now call.lookup).2) ∧
      ∀ r, (s.cache.get settings s.now call.lookup).1 = some r →
        ∃ p, AnsweredFrom settings s.now call.lookup s.cache
            (s.cache.get settings s.now call.lookup).2 p r ∧
          ∃ given ∈ handedOver settings history, p.1 = given.2.call.lookup.key ∧
            r = { given.2.answer with cached := true } ∧ given.1.now ≤ s.now ∧
            s.now ≤ given.1.now + settings.lifetimeMillis := by
  have hTidy := h.sound.toTidy
  rcases get_outcome_cases hTidy.nodup hOn s.now call.lookup with
    ⟨hNone, hGet, hSame⟩ | ⟨p, r, hGet, hAnswered⟩
  · rw [hGet]
    refine ⟨iff_of_false Bool.false_ne_true ?_, fun _ => hSame, nofun⟩
    rintro ⟨p, hp, hMay⟩
    exact hNone p hp hMay
  · rw [hGet]
    refine ⟨iff_of_true rfl ⟨p, hAnswered.mem, hAnswered.mayAnswer⟩, nofun, ?_⟩
    rintro _ ⟨rfl⟩
    obtain ⟨given, hGiven, hOrigin⟩ :=
      handed_of_recorded h (p.1, p.2.origin) (List.mem_map_of_mem hAnswered.mem)
    obtain ⟨hKey, hEntry⟩ := Prod.mk.inj hOrigin
    have hStored : p.2.stored = given.1.now := congrArg Entry.stored hEntry
    have hAnswer : p.2.answer = { given.2.answer with cached := false } :=
      congrArg Entry.answer hEntry
    refine ⟨p, hAnswered, given, hGiven, hKey, ?_, ?_, hStored ▸ hAnswered.mayAnswer.fresh⟩
    · rw [hAnswered.answer, hAnswer]
    · rw [← hStored]
      exact Nat.le_trans (hTidy.stored p hAnswered.mem) (hTidy.accessed p hAnswered.mem)

def matchOneSpaced : Call := { matchOne with context := "\x7b\x7d " }

def storedBefore : Timed :=
  (Event.advance CacheSettings.default.lifetimeMillis).apply .default (storedOnce matchOne)

def storedAgain : Timed := (Event.set matchOneSpaced .empty).apply .default storedBefore

def expiredOnce : Timed := (Event.advance 1).apply .default storedAgain

def storeTwice : History :=
  [(⟨.empty, 0⟩, .set matchOne .empty),
    (storedOnce matchOne, .advance CacheSettings.default.lifetimeMillis),
    (storedBefore, .set matchOneSpaced .empty), (storedAgain, .advance 1)]

/-- The entry of the lookup has expired, and that for the other context answers. -/
theorem get_outcome_expired :
    Recorded .default storeTwice expiredOnce ∧
      expiredOnce.cache.contains .default expiredOnce.now matchOne.lookup = false ∧
      matchOne.lookup.key ∈ expiredOnce.cache.keys ∧
      (expiredOnce.cache.get .default expiredOnce.now matchOne.lookup).1.isSome = true := by
  have hRecorded : Recorded .default storeTwice expiredOnce :=
    ((((Recorded.start 0).step (.set matchOne .empty)).step (.advance _)).step
      (.set matchOneSpaced .empty)).step (.advance 1)
  have hOn : CacheSettings.default.enabled = true := rfl
  obtain ⟨hAnswered, _⟩ := get_outcome hRecorded hOn matchOne
  have hRun : expiredOnce.cache.contains .default expiredOnce.now matchOne.lookup = false ∧
      matchOne.lookup.key ∈ expiredOnce.cache.keys ∧
      (expiredOnce.cache.find? matchOneSpaced.lookup.key).any
        (·.answersFor .default expiredOnce.now matchOne.lookup) = true := by
    decide +kernel
  obtain ⟨hExpired, hKey, hOther⟩ := hRun
  obtain ⟨e, hFind, hAnswers⟩ := (Option.any_eq_true _ _).1 hOther
  obtain ⟨hFresh, hAsked⟩ := answersFor_iff.1 hAnswers
  exact ⟨hRecorded, hExpired, hKey,
    hAnswered.2 ⟨_, mem_of_find? hFind, hFresh, Or.inr hAsked⟩⟩

end CodeGraph.Cache
