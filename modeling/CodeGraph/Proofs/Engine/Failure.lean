import CodeGraph.Proofs.Cache.Outcome
import CodeGraph.Proofs.Cache.Removal
import CodeGraph.Proofs.Engine.Runs
import CodeGraph.Proofs.Saved.Mirror

/-!
# What failed requests leave

An `Ask` is a request in one of the six ways that there are.  Its lookup comes before its text is
parsed, and it can fail at every stage after that, so the question is what a failure leaves behind.
The cache is `Spared`: an expired entry under the key of the lookup may be gone, and the lookup may
be counted as one that was missed (`get_spared`).  The exception are rows that cannot be made of an
answer, where the cache is left as the answer leaves it.

The engines that can be reached (`Reached`) may have run their queries in any way, so failures of
the graph and of the time are among these.
-/

namespace CodeGraph

open Query (Budget Params)

namespace Cache

variable {settings : CacheSettings} {now : Nat} {c d : Cache} {l : Lookup} {key : String}

/-! ### Lookups without an answer -/

/-- `d` holds what `c` holds, but that an entry under the key may be gone if it has expired. -/
inductive Kept (settings : CacheSettings) (now : Nat) (key : String) (c d : Cache) : Prop
  | all (h : SameStock c d)
  | expired {e : Entry} (hMem : (key, e) ∈ c.entries)
      (hExpired : e.stored + settings.lifetimeMillis < now)
      (hEntries : d.entries = c.entries.filter (·.1 != key))
      (hOrder : d.order = c.order.filter (· != key)) (hMemory : d.memory + e.size = c.memory)

/-- What a lookup that fails leaves of a cache: what was there, and one more query that was missed
at most. -/
structure Spared (settings : CacheSettings) (now : Nat) (l : Lookup) (c d : Cache) : Prop where
  kept : Kept settings now l.key c d
  counts : d.queries = c.queries ∧ d.misses = c.misses ∧ d.frequency = c.frequency ∨
    d.queries = c.queries + 1 ∧ d.misses = c.misses + 1 ∧
      d.frequency = (c.count settings l).frequency
  hits : d.hits = c.hits
  similarHits : d.similarHits = c.similarHits
  evictions : d.evictions = c.evictions
  candidates : d.candidates = c.candidates

theorem fst_hit_ne_none (settings : CacheSettings) (now : Nat) (hKey : key ∈ c.keys) :
    (c.hit settings now key).1 ≠ none := by
  obtain ⟨e, hFind⟩ := exists_find? hKey
  rw [hit, hFind]
  exact Option.some_ne_none _

/-- **A lookup without an answer spares the cache.** -/
theorem get_spared (h : Tidy now c) (hNone : (c.get settings now l).1 = none) :
    Spared settings now l c (c.get settings now l).2 := by
  rcases get_cases h.nodup now l with
    ⟨_, _, hGet⟩ | ⟨_, d, hSearched, ⟨_, hGet⟩ | ⟨key, hKey, similar, _, _, hGet⟩⟩
  · rw [hGet]
    exact ⟨.all ⟨rfl, rfl, rfl⟩, Or.inl ⟨rfl, rfl, rfl⟩, rfl, rfl, rfl, rfl⟩
  · rw [hGet]
    cases hSearched with
    | all => exact ⟨.all ⟨rfl, rfl, rfl⟩, Or.inr ⟨rfl, rfl, rfl⟩, rfl, rfl, rfl, rfl⟩
    | @expired e hFind hExpired =>
      have hMem := mem_of_find? hFind
      have hOld : e.stored + settings.lifetimeMillis < now := by
        rw [Entry.isExpired, decide_eq_true_iff] at hExpired
        omega
      have hFindCounted : (c.count settings l).find? l.key = some e := hFind
      rw [remove_of_find? hFindCounted]
      exact ⟨.expired hMem hOld rfl (h.nodup_order.erase_eq_filter _)
        (Nat.sub_add_cancel (h.size_le hMem)), Or.inr ⟨rfl, rfl, rfl⟩, rfl, rfl, rfl, rfl⟩
  · rw [hGet] at hNone
    exact absurd hNone (fst_hit_ne_none settings now hKey)

end Cache

namespace Engine

/-! ### Requests -/

def Ask.recorded (id : String) (q : SavedQuery) : Ask → SavedQuery
  | .executeSaved asked _ date =>
    if id = asked then
      { q with lastUsed := some date, usageCount := (q.usageCount + 1) % UInt64.size }
    else q
  | _ => q

variable {settings : Settings} {e : Engine} {now : Nat} {run : Runner} {ask : Ask}

theorem get?_savedAfter (e : Engine) (ask : Ask) (id : String) :
    (ask.savedAfter e).get? id = (e.saved.get? id).map (ask.recorded id) := by
  cases ask with
  | executeSaved asked overrides date =>
    show (e.saved.use asked overrides date).2.get? id = _
    cases hQuery : e.saved.get? asked with
    | none =>
      rw [Registry.use_of_none hQuery]
      by_cases hId : id = asked
      · rw [hId, hQuery, Option.map_none]
      · cases e.saved.get? id <;> simp [Ask.recorded, hId]
    | some q =>
      rw [(Registry.use_of_some hQuery overrides date).2]
      by_cases hId : id = asked
      · simp [Ask.recorded, hId, hQuery]
      · cases e.saved.get? id <;> simp [Ask.recorded, hId]
  | _ => exact Option.map_id'.symm

/-! ### Engines that can be reached -/

/-- The engines that operations lead to, with the time.  The graph may be another for every
operation, and queries may be run in any way. -/
inductive Reached (settings : Settings) : Engine → Nat → Prop
  | opened (saved : Registry) (now : Nat) : Reached settings ⟨settings, .empty, saved⟩ now
  | operate {e : Engine} {now : Nat} (before : Reached settings e now) (graph : Snapshot)
      (op : Operation) :
      Reached settings (op.apply ⟨e, graph, now⟩).engine (op.apply ⟨e, graph, now⟩).now
  | arrange {e : Engine} {now : Nat} (before : Reached settings e now)
      {entries : List (String × Entry)} {candidates : List (String × List Request)}
      (hEntries : entries.Perm e.cache.entries)
      (hCandidates : candidates.Perm e.cache.candidates) :
      Reached settings { e with cache := { e.cache with entries, candidates } } now

theorem Reached.sound (h : Reached settings e now) : Cache.Sound e.settings.cache now e.cache := by
  induction h with
  | opened saved now => exact Cache.sound_empty _ _
  | operate before graph op ih => exact sound_of_effect (effect_apply _ op) ih
  | arrange before hEntries _ ih => exact ih.same hEntries rfl rfl

theorem reached_of_run [Query.Library] {saved : Registry} {graph : Snapshot} {start : Nat} {ops : List Operation}
    {w : World} (h : Run (.opened settings saved graph start) ops w) :
    Reached settings w.engine w.now := by
  generalize hStart : World.opened settings saved graph start = first at h
  induction h with
  | refl =>
    rw [← hStart]
    exact .opened saved start
  | @step m ops before op _ ih => exact ih.operate m.graph op
  | arrange before hEntries hCandidates ih => exact ih.arrange hEntries hCandidates

/-! ### Failures -/

/-- **A question that fails** spares the cache. -/
theorem spared_of_failed {q : Question} {error : QueryError} (h : Cache.Tidy now e.cache)
    (hFails : (q.answerBy e run now).1 = .error error) :
    Cache.Spared e.settings.cache now q.lookup e.cache (q.answerBy e run now).2.cache := by
  rcases q.answerBy_cases e run now with
    ⟨found, _, hAnswer⟩ | ⟨hNone, ⟨result, _, hAnswer⟩ | ⟨error, _, hAnswer⟩⟩
  · rw [hAnswer] at hFails
    cases hFails
  · rw [hAnswer] at hFails
    cases hFails
  · rw [hAnswer]
    exact Cache.get_spared h hNone

/-- **Failures leave the cache intact.**  If a request to an engine that can be reached fails, the
cache is as it was or it is spared; or rows could not be made of an answer, and the engine is as the
answer left it.  The saved queries are as they were, but that one that was executed counts the
use. -/
theorem failure_spares_cache {error : QueryError} (h : Reached settings e now)
    (hFails : (ask.outcome run e now).1 = some error) :
    (ask.outcome run e now).2.settings = e.settings ∧
      ((ask.outcome run e now).2.cache = e.cache ∨
        (∃ l, ask.lookup? e = some l ∧ Cache.Spared e.settings.cache now l e.cache
          (ask.outcome run e now).2.cache) ∨
        ∃ text params plan result, ask = .rows text params ∧
          Query.parse text params = .ok plan ∧ (e.executeBy run now text params).1 = .ok result ∧
          Query.rows plan result.nodes = .error error ∧
          (ask.outcome run e now).2 = (e.executeBy run now text params).2) ∧
      ∀ id, (ask.outcome run e now).2.saved.get? id = (e.saved.get? id).map (ask.recorded id) := by
  have hTidy := h.sound.toTidy
  have hSaved := get?_savedAfter e ask
  rcases ask.outcome_cases run e now with
    hSame | ⟨q, hLookup, hAnswer⟩ | ⟨text, params, plan, result, rfl, hPlan, hResult, hRows⟩
  · rw [hSame]
    exact ⟨rfl, Or.inl rfl, hSaved⟩
  · obtain ⟨hSettings, hRegistry⟩ := answerBy_frame q { e with saved := ask.savedAfter e } run now
    rw [hAnswer] at hFails
    have hSpared := spared_of_failed (e := { e with saved := ask.savedAfter e }) hTidy
      (failure?_eq_some_iff.1 hFails)
    rw [hAnswer, failed, hSettings, hRegistry]
    exact ⟨rfl, Or.inr (Or.inl ⟨q.lookup, hLookup, hSpared⟩), hSaved⟩
  · obtain ⟨hSettings, hRegistry⟩ :=
      answerBy_frame ⟨text, params, emptyContext, e.defaultBudget⟩ e run now
    rw [hRows] at hFails
    have hError := failure?_eq_some_iff.1 hFails
    rw [hRows]
    refine ⟨hSettings, Or.inr (Or.inr ?_),
      fun id => (congrArg (·.get? id) hRegistry).trans (hSaved id)⟩
    exact ⟨text, params, plan, result, rfl, hPlan, hResult, hError, rfl⟩

def unreadable (reason : String) : Runner := fun text params budget => do
  let _ ← (Query.parse text params).mapError QueryError.parse
  Query.checkBudget budget
  .error (.execution reason)

def outdated : World :=
  (Operation.advance (CacheSettings.default.lifetimeMillis + 1)).apply
    ((Operation.ask (Query.run .empty) (.execute "MATCH (n)" ∅)).apply
      (.opened .default (.onStore .none) .empty 0))

def askedInVain : Option QueryError × Engine :=
  (Ask.execute "MATCH (n)" ∅).outcome (unreadable "graph store lock poisoned") outdated.engine
    outdated.now

/-- The answer that has expired is gone, and one lookup was missed. -/
theorem failure_spares_cache_unreadable :
    Reached .default outdated.engine outdated.now ∧
      askedInVain.1 = some (.execution "graph store lock poisoned") ∧
      outdated.engine.cache.keys.length = 1 ∧ askedInVain.2.cache.keys = [] ∧
      Cache.Spared outdated.engine.settings.cache outdated.now (.of "MATCH (n)" ∅ emptyContext)
        outdated.engine.cache askedInVain.2.cache := by
  have hReached : Reached .default outdated.engine outdated.now :=
    reached_of_run (.step (.step (.refl _) _ fun run hRun => by
      cases hRun
      exact serves_run .empty) (.advance _) nofun)
  have hRun : askedInVain.1 = some (.execution "graph store lock poisoned") ∧
      outdated.engine.cache.keys.length = 1 ∧ askedInVain.2.cache.keys = [] := by
    decide +kernel
  obtain ⟨hFails, hBefore, hAfter⟩ := hRun
  obtain ⟨_, hSame | ⟨l, hLookup, hSpared⟩ | ⟨_, _, _, _, hRows, _⟩, _⟩ :=
    failure_spares_cache hReached hFails
  · have hKeys : askedInVain.2.cache.keys = outdated.engine.cache.keys := congrArg Cache.keys hSame
    rw [hKeys] at hAfter
    rw [hAfter] at hBefore
    cases hBefore
  · cases hLookup
    exact ⟨hReached, hFails, hBefore, hAfter, hSpared⟩
  · cases hRows

end Engine

end CodeGraph
