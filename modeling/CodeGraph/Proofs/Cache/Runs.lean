import CodeGraph.Proofs.Cache.Answers

/-!
# Runs of a cache

A run starts with an empty cache and takes events one after the other: lookups, answers that are
stored, entries taken out, warm-ups, and time that passes.  Next to the state it keeps every answer
that was handed to the cache, those of warm-ups among them.  Between events the entries and the
candidates may come into another order, as the order of a hash map is not settled.

After every run the cache is `Consistent` (`consistent_of_run`), and its entries are answers that
were handed to it (`stored_of_run`).  With that a lookup is answered with an answer that was stored
for its own query and parameters, or with one whose lookup clashes with it; and where two lookups
clash, an answer that is stored for one is given to the other (`get_crosses_iff_clash`).
-/

namespace CodeGraph

open Query (Params)

/-- What callers name an answer by. -/
structure Call where
  text : String
  params : Params
  context : String

namespace Call

def lookup (call : Call) : Lookup := .of call.text call.params call.context

def Same (a b : Call) : Prop :=
  NormalForm.ofText a.text = NormalForm.ofText b.text ∧ a.params = b.params

/-- One of the calls has no parameters and reads like the other followed by a digest. -/
def Clashes (a b : Call) : Prop := Clash a.lookup b.lookup ∨ Clash b.lookup a.lookup

end Call

namespace Cache

/-- An answer that was handed to the cache. -/
structure Stored where
  call : Call
  answer : Answer

inductive Event where
  | get (call : Call)
  | set (call : Call) (answer : Answer)
  | contains (call : Call)
  | invalidate (paths : Option (List String))
  | cleanUp
  | clear
  | warmUp (execute : Request → Except QueryError Answer)
  | advance (millis : Nat)

/-- A cache at a time. -/
structure Timed where
  cache : Cache
  now : Nat

namespace Event

def apply (settings : CacheSettings) (s : Timed) : Event → Timed
  | get call => { s with cache := (s.cache.get settings s.now call.lookup).2 }
  | set call answer => { s with cache := s.cache.set settings s.now call.lookup answer }
  | contains _ => s
  | invalidate paths => { s with cache := (s.cache.invalidate paths).2 }
  | cleanUp => { s with cache := (s.cache.cleanUp settings s.now).2 }
  | clear => { s with cache := .empty }
  | warmUp execute =>
    let done := s.cache.warmUp settings execute s.now
    ⟨done.cache, done.now⟩
  | advance millis => { s with now := s.now + millis }

def answered (execute : Request → Except QueryError Answer) (r : Request) : Option Stored :=
  (execute r).toOption.map fun answer => ⟨⟨r.query, r.params, warmUpContext⟩, answer⟩

def stores (settings : CacheSettings) (s : Timed) : Event → List Stored
  | set call answer => [⟨call, answer⟩]
  | warmUp execute => (s.cache.warmUp settings execute s.now).calls.filterMap (answered execute)
  | _ => []

end Event

/-- The caches that can be reached from an empty one, with the answers handed over on the way. -/
inductive Run (settings : CacheSettings) : List Stored → Timed → Prop
  | start (now : Nat) : Run settings [] ⟨.empty, now⟩
  | step {log : List Stored} {s : Timed} (before : Run settings log s) (event : Event) :
      Run settings (log ++ event.stores settings s) (event.apply settings s)
  | arrange {log : List Stored} {s : Timed} (before : Run settings log s)
      {entries : List (String × Entry)} {candidates : List (String × List Request)}
      (hEntries : entries.Perm s.cache.entries) (hCandidates : candidates.Perm s.cache.candidates) :
      Run settings log { s with cache := { s.cache with entries, candidates } }

variable {settings : CacheSettings} {log : List Stored} {s : Timed}

/-! ### Every entry was stored -/

/-- The entry under a key, as it was stored, is one that an answer of the log was put into. -/
def Logged (log : List Stored) (p : String × Entry) : Prop :=
  ∃ stored ∈ log, ∃ now, p = (stored.call.lookup.key, stored.call.lookup.entry now stored.answer)

theorem Logged.append {p : String × Entry} (h : Logged log p) (more : List Stored) :
    Logged (log ++ more) p := by
  obtain ⟨stored, hStored, now, hp⟩ := h
  exact ⟨stored, List.mem_append_left _ hStored, now, hp⟩

theorem logged_set {call : Call} {answer : Answer} {c : Cache} {now : Nat}
    (h : ∀ p ∈ c.origins, Logged log p) :
    ∀ p ∈ (c.set settings now call.lookup answer).origins,
      Logged (log ++ [⟨call, answer⟩]) p := by
  intro p hp
  rcases List.mem_cons.1 (origins_set _ _ _ hp) with rfl | hp
  · exact ⟨⟨call, answer⟩, List.mem_append_right _ (List.mem_singleton.2 rfl), now, rfl⟩
  · exact (h p hp).append _

theorem logged_warmUp {execute : Request → Except QueryError Answer}
    (h : ∀ p ∈ s.cache.origins, Logged log p) :
    ∀ p ∈ (s.cache.warmUp settings execute s.now).cache.origins,
      Logged (log ++ (Event.warmUp execute).stores settings s) p := by
  intro p hp
  rcases (origins_warmUp settings execute s.cache s.now).2 p hp with
    hp | ⟨r, hr, answer, stored, hAnswer, _, _, rfl⟩
  · exact (h p hp).append _
  · refine ⟨⟨⟨r.query, r.params, warmUpContext⟩, answer⟩, List.mem_append_right _ ?_, stored, rfl⟩
    refine List.mem_filterMap.2 ⟨r, hr, ?_⟩
    rw [Event.answered, hAnswer]
    rfl

theorem Event.stores_cases (settings : CacheSettings) (s : Timed) (event : Event) :
    (∃ call answer, event = .set call answer) ∨ (∃ execute, event = .warmUp execute) ∨
      event.stores settings s = [] ∧
        Change settings s.now s.cache (event.apply settings s).cache := by
  cases event with
  | get call => exact Or.inr (Or.inr ⟨rfl, .get s.cache call.lookup⟩)
  | set call answer => exact Or.inl ⟨call, answer, rfl⟩
  | contains call => exact Or.inr (Or.inr ⟨rfl, .refl s.cache⟩)
  | invalidate paths => exact Or.inr (Or.inr ⟨rfl, .invalidate s.cache paths⟩)
  | cleanUp => exact Or.inr (Or.inr ⟨rfl, .cleanUp s.cache⟩)
  | clear => exact Or.inr (Or.inr ⟨rfl, .clear rfl rfl rfl⟩)
  | warmUp execute => exact Or.inr (Or.inl ⟨execute, rfl⟩)
  | advance millis => exact Or.inr (Or.inr ⟨rfl, .refl s.cache⟩)

/-- **Every entry holds an answer that was handed to the cache.** -/
theorem stored_of_run (h : Run settings log s) : ∀ p ∈ s.cache.origins, Logged log p := by
  induction h with
  | start now => exact fun p hp => (List.not_mem_nil hp).elim
  | arrange before hEntries _ ih =>
    exact fun p hp => ih p (origins_subset_of_entries_subset hEntries.subset hp)
  | @step log s before event ih =>
    rcases event.stores_cases settings s with
      ⟨call, answer, rfl⟩ | ⟨execute, rfl⟩ | ⟨hNone, hChange⟩
    · exact logged_set ih
    · exact logged_warmUp ih
    · rw [hNone, List.append_nil]
      exact fun p hp => ih p (hChange.origins_subset hp)

/-! ### The parts of a cache agree -/

theorem sound_of_run (h : Run settings log s) : Sound settings s.now s.cache := by
  induction h with
  | start now => exact sound_empty settings now
  | arrange before hEntries _ ih => exact ih.same hEntries rfl rfl
  | @step log s before event ih =>
    cases event with
    | get call => exact (Change.get s.cache call.lookup).sound ih
    | set call answer => exact ih.set _ _
    | contains call => exact ih
    | invalidate paths => exact (Change.invalidate s.cache paths).sound ih
    | cleanUp => exact (Change.cleanUp s.cache).sound ih
    | clear => exact sound_empty settings s.now
    | warmUp execute => exact ih.warmUp execute
    | advance millis => exact ih.mono (Nat.le_add_right _ _)

/-- The parts of a cache agree at a time: every key stands once in the recency order, which is
that of the last uses; every entry stands under its own key, with its parameters written, and holds
its answer as one that is not from a cache; and the byte count is that of the entries and within the
limit. -/
structure Consistent (settings : CacheSettings) (now : Nat) (c : Cache) : Prop
    extends Sound settings now c where
  key : ∀ p ∈ c.entries, p.1 = entryKey p.2.request.query p.2.bindings p.2.context
  bindings : ∀ p ∈ c.entries, p.2.bindings = CodeGraph.bindings p.2.request.params
  cached : ∀ p ∈ c.entries, p.2.answer.cached = false

/-- **Every run leaves a consistent cache.**  No subtraction from the byte count is cut off, also
not in the midst of an operation that takes entries out or uses them. -/
theorem consistent_of_run (h : Run settings log s) :
    Consistent settings s.now s.cache ∧
      ∀ d, Change settings s.now s.cache d → ∀ p ∈ d.entries, p.2.size ≤ d.memory := by
  have hSound := sound_of_run h
  have hLookup : ∀ p ∈ s.cache.entries, ∃ l : Lookup, ∃ now answer, p.1 = l.key ∧
      p.2.origin = l.entry now answer := by
    intro p hp
    obtain ⟨stored, _, now, hStored⟩ := stored_of_run h (p.1, p.2.origin) (List.mem_map_of_mem hp)
    exact ⟨stored.call.lookup, now, stored.answer, congrArg Prod.fst hStored,
      congrArg Prod.snd hStored⟩
  refine ⟨{ hSound with key := ?_, bindings := ?_, cached := ?_ }, ?_⟩
  · intro p hp
    obtain ⟨l, now, answer, hKey, hOrigin⟩ := hLookup p hp
    rw [hKey, l.key_eq]
    show _ = entryKey p.2.origin.request.query p.2.origin.bindings p.2.origin.context
    rw [hOrigin]
    rfl
  · intro p hp
    obtain ⟨l, now, answer, _, hOrigin⟩ := hLookup p hp
    show p.2.origin.bindings = CodeGraph.bindings p.2.origin.request.params
    rw [hOrigin]
    exact l.bindings_eq
  · intro p hp
    obtain ⟨l, now, answer, _, hOrigin⟩ := hLookup p hp
    show p.2.origin.answer.cached = false
    rw [hOrigin]
    rfl
  · intro d hd p hp
    exact (hd.tidy hSound.toTidy).size_le hp

theorem consistent_of_run_stored :
    Run .default [⟨⟨"MATCH (n)", ∅, "\x7b\x7d"⟩, .empty⟩]
        ⟨empty.set .default 0 (Call.lookup ⟨"MATCH (n)", ∅, "\x7b\x7d"⟩) .empty, 0⟩ ∧
      Consistent .default 0
        (empty.set .default 0 (Call.lookup ⟨"MATCH (n)", ∅, "\x7b\x7d"⟩) .empty) := by
  have hRun : Run .default [⟨⟨"MATCH (n)", ∅, "\x7b\x7d"⟩, .empty⟩]
      ⟨empty.set .default 0 (Call.lookup ⟨"MATCH (n)", ∅, "\x7b\x7d"⟩) .empty, 0⟩ :=
    .step (.start 0) (.set _ _)
  exact ⟨hRun, (consistent_of_run hRun).1⟩

/-! ### Whose answer a lookup gets -/

theorem same_or_clashes {call : Call} {stored : Stored} {now : Nat} {p : String × Entry}
    (hKnown : Distinct (call.params :: log.map (·.call.params))) (hStored : stored ∈ log)
    (hOrigin : (p.1, p.2.origin) =
      (stored.call.lookup.key, stored.call.lookup.entry now stored.answer))
    (hAsked : p.1 = call.lookup.key ∨
      (p.2.request.query = call.lookup.request.query ∧ p.2.bindings = call.lookup.bindings)) :
    stored.call.Same call ∨ stored.call.Clashes call := by
  have hMem : stored.call.params ∈ call.params :: log.map (·.call.params) :=
    List.mem_cons_of_mem _ (List.mem_map_of_mem hStored)
  have hKey : p.1 = stored.call.lookup.key := congrArg Prod.fst hOrigin
  have hEntry : p.2.origin = stored.call.lookup.entry now stored.answer := congrArg Prod.snd hOrigin
  rcases hAsked with hAsked | ⟨hQuery, hBindings⟩
  · rw [hKey] at hAsked
    rcases Lookup.same_or_clash hKnown hMem List.mem_cons_self hAsked with hSame | hClash
    · exact Or.inl ⟨congrArg Request.query hSame, congrArg Request.params hSame⟩
    · exact Or.inr hClash
  · have hQuery' : p.2.origin.request.query = call.lookup.request.query := hQuery
    have hBindings' : p.2.origin.bindings = call.lookup.bindings := hBindings
    rw [hEntry] at hQuery' hBindings'
    exact Or.inl ⟨hQuery', hKnown.written _ hMem _ List.mem_cons_self hBindings'⟩

/-- **Answers cross where lookups clash, and nowhere else.**  An answer to a lookup was stored for
its query and parameters, or for a call that clashes with it; and an answer that is stored for a
call is given to every call that clashes with it, although the parameters differ. -/
theorem get_crosses_iff_clash (settings : CacheSettings) :
    (∀ (log : List Stored) (s : Timed) (call : Call) (r : Answer), Run settings log s →
      Distinct (call.params :: log.map (·.call.params)) →
      (s.cache.get settings s.now call.lookup).1 = some r →
      ∃ stored ∈ log, r = { stored.answer with cached := true } ∧
        (stored.call.Same call ∨ stored.call.Clashes call)) ∧
    ∀ (c : Cache) (now later : Nat) (call call' : Call) (answer : Answer), call.Clashes call' →
      settings.enabled = true → answer.size ≤ settings.maxMemory →
      later ≤ now + settings.lifetimeMillis →
      ¬call.Same call' ∧
        ((c.set settings now call.lookup answer).get settings later call'.lookup).1 =
          some { answer with cached := true } := by
  constructor
  · intro log s call r hRun hKnown hGet
    obtain ⟨p, hp, hAnswers, rfl⟩ := get_eq_some (sound_of_run hRun).nodup hGet
    obtain ⟨stored, hStored, now, hOrigin⟩ :=
      stored_of_run hRun (p.1, p.2.origin) (List.mem_map_of_mem hp)
    have hAnswer : p.2.origin.answer = { stored.answer with cached := false } := by
      rw [show p.2.origin = _ from congrArg Prod.snd hOrigin]
      rfl
    refine ⟨stored, hStored, ?_, same_or_clashes hKnown hStored hOrigin hAnswers.asked⟩
    show { p.2.origin.answer with cached := true } = _
    rw [hAnswer]
  · intro c now later call call' answer hClashes hOn hSize hLater
    have hKey : call.lookup.key = call'.lookup.key := by
      rcases hClashes with hClash | hClash
      · exact Lookup.key_eq_of_clash hClash
      · exact (Lookup.key_eq_of_clash hClash).symm
    refine ⟨?_, get_set c hOn hSize hLater hKey⟩
    rintro ⟨_, hParams⟩
    have hEmpty : call.lookup.request.params.isEmpty = call'.lookup.request.params.isEmpty :=
      congrArg Fields.isEmpty hParams
    rcases hClashes with hClash | hClash
    · rw [hClash.left, hClash.right] at hEmpty
      cases hEmpty
    · rw [hClash.left, hClash.right] at hEmpty
      cases hEmpty

/-- A call without parameters whose text ends in the digest of those of `matchOne`. -/
def matchDigest : Call := ⟨"MATCH (n)#015abd7f5cc57a2d", ∅, "\x7b\x7d"⟩

def matchOne : Call := ⟨"MATCH (n)", .ofList [("a", .integer 1)], "\x7b\x7d"⟩

theorem matchDigest_clashes : matchDigest.Clashes matchOne :=
  Or.inl ⟨by decide +kernel, by decide +kernel, by decide +kernel, rfl⟩

theorem distinct_matchOne : Distinct [matchOne.params, ∅] := distinct_of_nodup (by decide +kernel)

theorem size_empty_le : Answer.empty.size ≤ CacheSettings.default.maxMemory := by decide +kernel

def storedOnce (call : Call) : Timed := ⟨empty.set .default 0 call.lookup .empty, 0⟩

theorem run_storedOnce (call : Call) : Run .default [⟨call, .empty⟩] (storedOnce call) :=
  .step (.start 0) (.set call .empty)

theorem get_storedOnce {call call' : Call} (h : call.lookup.key = call'.lookup.key) :
    ((storedOnce call).cache.get .default 0 call'.lookup).1 =
      some { Answer.empty with cached := true } := by
  have hOn : CacheSettings.default.enabled = true := rfl
  have hLater : 0 ≤ 0 + CacheSettings.default.lifetimeMillis := Nat.zero_le _
  exact @get_set .default 0 empty call.lookup call'.lookup .empty 0 hOn size_empty_le hLater h

/-- What was stored for `matchDigest` is given to `matchOne`, for which nothing was stored. -/
theorem get_crosses_matchDigest :
    Run .default [⟨matchDigest, .empty⟩] (storedOnce matchDigest) ∧
      Distinct [matchOne.params, matchDigest.params] ∧
      Digest.short matchOne.context = Digest.short matchDigest.context ∧
      ((storedOnce matchDigest).cache.get .default 0 matchOne.lookup).1 =
        some { Answer.empty with cached := true } ∧
      ∀ stored ∈ [(⟨matchDigest, .empty⟩ : Stored)], ¬stored.call.Same matchOne := by
  have hKey : matchDigest.lookup.key = matchOne.lookup.key := by
    rcases matchDigest_clashes with h | h
    · exact Lookup.key_eq_of_clash h
    · exact (Lookup.key_eq_of_clash h).symm
  refine ⟨run_storedOnce matchDigest, distinct_matchOne, rfl,
    get_storedOnce hKey, ?_⟩
  intro stored hStored hSame
  rw [List.mem_singleton.1 hStored] at hSame
  have hEmpty : matchDigest.params.isEmpty = matchOne.params.isEmpty := congrArg _ hSame.2
  exact absurd hEmpty (by decide +kernel)

theorem get_crosses_matchOne :
    (∃ stored ∈ [(⟨matchOne, .empty⟩ : Stored)],
      { Answer.empty with cached := true } = { stored.answer with cached := true } ∧
        (stored.call.Same matchOne ∨ stored.call.Clashes matchOne)) ∧
    ¬matchDigest.Same matchOne := by
  have hCrosses := get_crosses_iff_clash .default
  refine ⟨hCrosses.1 [⟨matchOne, .empty⟩] (storedOnce matchOne) matchOne _ (run_storedOnce matchOne)
    (distinct_matchOne.mono (by simp)) (get_storedOnce rfl), ?_⟩
  exact (hCrosses.2 empty 0 0 matchDigest matchOne .empty matchDigest_clashes rfl size_empty_le
    (Nat.zero_le _)).1

end Cache

end CodeGraph
