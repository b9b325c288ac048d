import Mathlib.Algebra.Order.BigOperators.Group.List
import Mathlib.Algebra.Order.Ring.Nat
import CodeGraph.Proofs.Cache.Count
import CodeGraph.Proofs.Cache.History
import CodeGraph.Proofs.Cache.Removal

/-!
# The accounts of a cache

A cache counts its lookups, how they ended, and what it evicted.  A `Tally` counts what happened
since the cache was new or was last cleared: the lookups, the answers that were stored, and the
entries that went in each of the other ways there are.  The two agree after every history
(`accounts_balance`): every lookup is a hit or a miss, no hit is counted for an entry without being
counted for the cache, and what was stored is still there or went in one of the ways.

Events other than a lookup leave the counts of lookups alone (`sameLookups_apply`).
-/

namespace CodeGraph.Cache

variable {settings : CacheSettings} {now : Nat} {c d : Cache} {key : String} {e : Entry}
variable {history : History} {s : Timed}

/-! ### What happened -/

def lost (c d : Cache) : List (String × Entry) := c.entries.filter fun p => p.1 ∉ d.keys

/-- How many of the answers that were handed over took the place of an entry. -/
def replacements (settings : CacheSettings) (handed : List (Timed × Stored)) : Nat :=
  handed.countP fun p => p.2.fits settings && p.2.call.lookup.key ∈ p.1.cache.keys

/-- What happened since a cache was new or was cleared. -/
structure Tally where
  /-- Lookups, if the cache is on. -/
  lookups : Nat
  stored : Nat
  /-- Entries that an answer took the place of. -/
  replaced : Nat
  /-- Expired entries that a lookup or a cleanup took out. -/
  expired : Nat
  invalidated : Nat
  deriving DecidableEq

namespace Tally

def zero : Tally := ⟨0, 0, 0, 0, 0⟩

/-- The tally after one more event, from what the event meets and what it leaves. -/
def next (settings : CacheSettings) (t : Tally) (s : Timed) (event : Event) : Tally :=
  let gone := s.cache.lost (event.apply settings s).cache
  match event with
  | .get _ =>
    { t with
      lookups := t.lookups + settings.enabled.toNat
      expired := t.expired + gone.countP (·.2.isExpired settings s.now) }
  | .cleanUp => { t with expired := t.expired + gone.countP (·.2.isExpired settings s.now) }
  | .invalidate _ => { t with invalidated := t.invalidated + gone.length }
  | .clear => zero
  | event =>
    { t with
      stored := t.stored + (storedKeys settings (event.handsOver settings s)).length
      replaced := t.replaced + replacements settings (event.handsOver settings s) }

def ofHistory (settings : CacheSettings) (history : History) : Tally :=
  history.foldl (fun t p => t.next settings p.1 p.2) zero

theorem ofHistory_concat (settings : CacheSettings) (history : History) (s : Timed)
    (event : Event) :
    ofHistory settings (history ++ [(s, event)]) =
      (ofHistory settings history).next settings s event := by
  rw [ofHistory, List.foldl_append]
  rfl

end Tally

def entryHits (c : Cache) : Nat := (c.entries.map (·.2.hits)).sum

/-- What a cache counts agrees with what happened, where some lookups are neither a hit nor a miss
yet. -/
structure Balanced (settings : CacheSettings) (t : Tally) (pending : Nat) (c : Cache) : Prop where
  answered : c.queries = c.hits + c.misses + pending
  lookups : c.queries = t.lookups
  similar : c.similarHits ≤ c.hits
  entryHits : c.entryHits ≤ c.hits
  frequency : settings.warmUp = true → c.frequency.total = c.queries
  entries : t.stored =
    c.entries.length + c.evictions + t.replaced + t.expired + t.invalidated

structure SameLookups (c d : Cache) : Prop where
  queries : d.queries = c.queries
  hits : d.hits = c.hits
  misses : d.misses = c.misses
  similarHits : d.similarHits = c.similarHits
  frequency : d.frequency = c.frequency

theorem SameLookups.refl (c : Cache) : SameLookups c c := ⟨rfl, rfl, rfl, rfl, rfl⟩

theorem SameLookups.trans {f : Cache} (h : SameLookups c d) (g : SameLookups d f) :
    SameLookups c f where
  queries := g.queries.trans h.queries
  hits := g.hits.trans h.hits
  misses := g.misses.trans h.misses
  similarHits := g.similarHits.trans h.similarHits
  frequency := g.frequency.trans h.frequency

/-! ### Entries that go -/

namespace Keeps

variable {test : String → Bool} {n : Nat}

theorem sameLookups (h : Keeps test n c d) : SameLookups c d := by
  obtain ⟨memory, rfl⟩ := h
  exact ⟨rfl, rfl, rfl, rfl, rfl⟩

theorem entryHits_le (h : Keeps test n c d) : d.entryHits ≤ c.entryHits := by
  rw [entryHits, entryHits, h.entries]
  exact (List.filter_sublist.map _).sum_le_sum fun _ _ => Nat.zero_le _

theorem lost_eq (h : Keeps test n c d) : c.lost d = c.entries.filter fun p => !test p.1 := by
  refine List.filter_congr fun p hp => ?_
  have hMem : p.1 ∈ d.keys ↔ test p.1 = true := by
    rw [h.mem_keys]
    exact and_iff_right (List.mem_map_of_mem hp)
  simp [hMem]

theorem length_entries (h : Keeps test n c d) :
    c.entries.length = d.entries.length + (c.lost d).length := by
  rw [h.lost_eq, h.entries]
  exact List.length_eq_length_filter_add _

end Keeps

theorem key_mem_filter_iff {p : String × Entry} (hNodup : c.keys.Nodup) (test : Entry → Bool)
    (hp : p ∈ c.entries) :
    p.1 ∈ (c.entries.filter fun q => test q.2).map (·.1) ↔ test p.2 = true := by
  rw [List.mem_map]
  constructor
  · rintro ⟨q, hq, hKey⟩
    obtain ⟨hMem, hTest⟩ := List.mem_filter.1 hq
    have hEntry : q.2 = p.2 := eq_of_mem_entries hNodup (hKey ▸ hMem : (p.1, q.2) ∈ c.entries) hp
    rwa [← hEntry]
  · exact fun hTest => ⟨p, List.mem_filter.2 ⟨hp, hTest⟩, rfl⟩

theorem lost_removeAll (h : Tidy now c) (test : Entry → Bool) :
    c.lost (c.removeAll test).2 = c.entries.filter fun p => test p.2 := by
  rw [(h.keeps_removeAll test).lost_eq]
  refine List.filter_congr fun p hp => ?_
  simp [-List.mem_map, key_mem_filter_iff h.nodup test hp]

theorem isExpired_of_lost_cleanUp (settings : CacheSettings) (h : Tidy now c) :
    ∀ p ∈ c.lost (c.cleanUp settings now).2, p.2.isExpired settings now = true := by
  rw [cleanUp, lost_removeAll h]
  exact fun p hp => (List.mem_filter.1 hp).2

theorem Balanced.of_sameLookups {t t' : Tally} {pending : Nat} (h : Balanced settings t pending c)
    (hSame : SameLookups c d) (hLookups : t'.lookups = t.lookups)
    (hHits : d.entryHits ≤ c.entryHits)
    (hEntries : t'.stored =
      d.entries.length + d.evictions + t'.replaced + t'.expired + t'.invalidated) :
    Balanced settings t' pending d where
  answered := by
    rw [hSame.queries, hSame.hits, hSame.misses]
    exact h.answered
  lookups := by
    rw [hSame.queries, hLookups]
    exact h.lookups
  similar := by
    rw [hSame.similarHits, hSame.hits]
    exact h.similar
  entryHits := by
    rw [hSame.hits]
    exact Nat.le_trans hHits h.entryHits
  frequency := by
    rw [hSame.frequency, hSame.queries]
    exact h.frequency
  entries := hEntries

theorem Balanced.of_keeps {test : String → Bool} {t t' : Tally} {pending : Nat}
    (h : Balanced settings t pending c) (hKeeps : Keeps test 0 c d)
    (hLookups : t'.lookups = t.lookups) (hStored : t'.stored = t.stored)
    (hLost : t'.replaced + t'.expired + t'.invalidated =
      t.replaced + t.expired + t.invalidated + (c.lost d).length) :
    Balanced settings t' pending d := by
  refine h.of_sameLookups hKeeps.sameLookups hLookups hKeeps.entryHits_le ?_
  have hEntries := h.entries
  have hLength := hKeeps.length_entries
  have hEvictions := hKeeps.evictions
  omega

/-! ### Lookups -/

theorem Searched.keeps {l : Lookup} (h : Searched settings now c l d) (hc : Tidy now c) :
    (∃ test, Keeps test 0 (c.count settings l) d) ∧
      ∀ p ∈ c.lost d, p.2.isExpired settings now = true := by
  refine ⟨h.keeps_count hc, fun p hp => ?_⟩
  cases h with
  | all =>
    obtain ⟨hMem, hGone⟩ := List.mem_filter.1 hp
    exact absurd (List.mem_map_of_mem hMem : p.1 ∈ c.keys) (of_decide_eq_true hGone)
  | @expired e hFind hExpired =>
    have hCount : Tidy now (c.count settings l) := (Change.count c l).tidy hc
    have hKeeps := hCount.keeps_remove l.key
    have hp' : p ∈ (c.count settings l).lost ((c.count settings l).remove l.key) := hp
    rw [hKeeps.lost_eq] at hp'
    obtain ⟨hMem, hGone⟩ := List.mem_filter.1 hp'
    have hKey : p.1 = l.key := by simpa using hGone
    have hEntry : p.2 = e :=
      eq_of_mem_entries hc.nodup (hKey ▸ hMem : (l.key, p.2) ∈ c.entries) (mem_of_find? hFind)
    rw [hEntry]
    exact hExpired

theorem entryHits_hit (settings : CacheSettings) (now : Nat) (hNodup : c.keys.Nodup)
    (hKey : key ∈ c.keys) :
    (c.hit settings now key).2.entryHits = c.entryHits + 1 := by
  obtain ⟨e, hFind⟩ := exists_find? hKey
  have hPerm := entries_perm hNodup (mem_of_find? hFind)
  have hOther : (c.entries.filter (·.1 != key)).map
      (fun p => (p.1, if p.1 == key then p.2.used now else p.2)) =
        c.entries.filter (·.1 != key) := by
    conv_rhs => rw [← List.map_id (c.entries.filter (·.1 != key))]
    refine List.map_congr_left fun p hp => ?_
    have hNe : p.1 ≠ key := by simpa using (List.mem_filter.1 hp).2
    simp [hNe]
  have hBefore := (hPerm.map (·.2.hits)).sum_eq
  have hAfter := ((hPerm.map
    (fun p => (p.1, if p.1 == key then p.2.used now else p.2))).map (·.2.hits)).sum_eq
  rw [List.map_cons, hOther] at hAfter
  rw [hit, hFind, entryHits, entryHits, hBefore, hAfter]
  simp only [List.map_cons, List.sum_cons, beq_self_eq_true, if_true, Entry.used]
  omega

theorem counts_hit (settings : CacheSettings) (now : Nat) (hKey : key ∈ c.keys) :
    (c.hit settings now key).2.queries = c.queries ∧
      (c.hit settings now key).2.hits = c.hits + 1 ∧
      (c.hit settings now key).2.misses = c.misses ∧
      (c.hit settings now key).2.similarHits = c.similarHits ∧
      (c.hit settings now key).2.frequency = c.frequency ∧
      (c.hit settings now key).2.evictions = c.evictions ∧
      (c.hit settings now key).2.entries.length = c.entries.length := by
  obtain ⟨e, hFind⟩ := exists_find? hKey
  rw [hit, hFind]
  exact ⟨rfl, rfl, rfl, rfl, rfl, rfl, List.length_map _⟩

theorem total_record (f : Frequency) (pattern : String) :
    (f.record pattern).2.total = f.total + 1 := by
  rw [Frequency.record]
  dsimp only
  split <;> rfl

theorem lost_congr {f : Cache} (h : f.keys = d.keys) : c.lost f = c.lost d := by
  rw [lost, lost, h]

theorem lost_self (c : Cache) : c.lost c = [] := by
  rw [lost, List.filter_eq_nil_iff]
  intro p hp
  have hKey : p.1 ∈ c.keys := List.mem_map_of_mem hp
  simp [hKey]

theorem Balanced.count {t : Tally} (h : Balanced settings t 0 c) (l : Lookup) :
    Balanced settings { t with lookups := t.lookups + 1 } 1 (c.count settings l) where
  answered := congrArg (· + 1) h.answered
  lookups := congrArg (· + 1) h.lookups
  similar := h.similar
  entryHits := h.entryHits
  frequency hWarm := by
    rw [Cache.count, if_pos hWarm, total_record, h.frequency hWarm]
  entries := h.entries

theorem Balanced.searched {t : Tally} {l : Lookup} (h : Balanced settings t 0 c)
    (hc : Tidy now c) (hSearched : Searched settings now c l d) :
    Balanced settings
      { t with
        lookups := t.lookups + 1
        expired := t.expired + (c.lost d).countP (·.2.isExpired settings now) } 1 d := by
  obtain ⟨⟨test, hKeeps⟩, hExpired⟩ := hSearched.keeps hc
  have hLost : (c.count settings l).lost d = c.lost d := rfl
  refine (h.count l).of_keeps hKeeps rfl rfl ?_
  rw [List.countP_eq_length.2 hExpired, hLost]
  dsimp only
  omega

theorem Balanced.miss {t : Tally} (h : Balanced settings t 1 c) :
    Balanced settings t 0 { c with misses := c.misses + 1 } :=
  { h with answered := h.answered }

theorem Balanced.hit {t : Tally} {similar : Nat} (h : Balanced settings t 1 c)
    (hNodup : c.keys.Nodup) (hKey : key ∈ c.keys) (hSimilar : similar ≤ 1) :
    Balanced settings t 0
      ({ c with similarHits := c.similarHits + similar }.hit settings now key).2 := by
  obtain ⟨hQueries, hHits, hMisses, hSimilarHits, hFrequency, hEvictions, hLength⟩ :=
    counts_hit (c := { c with similarHits := c.similarHits + similar }) settings now hKey
  have hEntryHits :=
    entryHits_hit (c := { c with similarHits := c.similarHits + similar }) settings now hNodup hKey
  refine ⟨?_, ?_, ?_, ?_, ?_, ?_⟩
  · have hAnswered : c.queries = c.hits + c.misses + 1 := h.answered
    rw [hQueries, hHits, hMisses]
    show c.queries = c.hits + 1 + c.misses + 0
    omega
  · rw [hQueries]
    exact h.lookups
  · rw [hSimilarHits, hHits]
    exact Nat.add_le_add h.similar hSimilar
  · rw [hEntryHits, hHits]
    exact Nat.add_le_add_right h.entryHits 1
  · rw [hFrequency, hQueries]
    exact h.frequency
  · rw [hLength, hEvictions]
    exact h.entries

theorem Balanced.get {t : Tally} (h : Balanced settings t 0 c) (hc : Tidy now c) (l : Lookup) :
    Balanced settings
      { t with
        lookups := t.lookups + settings.enabled.toNat
        expired := t.expired +
          (c.lost (c.get settings now l).2).countP (·.2.isExpired settings now) } 0
      (c.get settings now l).2 := by
  rcases get_cases hc.nodup now l with
    ⟨hOff, _, hGet⟩ | ⟨hOn, d, hSearched, ⟨_, hMiss⟩ | ⟨key, hKey, similar, hSimilar, _, hHit⟩⟩
  · rw [hGet, hOff, lost_self]
    exact h
  · rw [hMiss, hOn]
    exact (h.searched hc hSearched).miss
  · have hLost := @lost_congr c d
      ({ d with similarHits := d.similarHits + similar }.hit settings now key).2 (keys_hit _ _)
    rw [hHit, hOn, hLost]
    exact (h.searched hc hSearched).hit (hSearched.tidy hc).nodup hKey hSimilar

/-! ### Answers that are stored -/

theorem length_others (h : Tidy now c) (key : String) :
    c.entries.length = (c.others key).length + if key ∈ c.keys then 1 else 0 := by
  rw [← length_order h, others, ← h.nodup_order.erase_eq_filter]
  by_cases hKey : key ∈ c.keys
  · have hPos := List.length_pos_of_mem (h.mem_keys.2 hKey)
    rw [List.length_erase_of_mem (h.mem_keys.2 hKey), if_pos hKey]
    omega
  · rw [List.erase_of_not_mem (fun hOrder => hKey (h.mem_keys.1 hOrder)), if_neg hKey]
    rfl

theorem sameLookups_put (c : Cache) (key : String) (e : Entry) : SameLookups c (c.put key e) :=
  ⟨rfl, rfl, rfl, rfl, rfl⟩

theorem sameLookups_set (h : Tidy now c) (stored : Stored) :
    SameLookups c (c.set settings now stored.call.lookup stored.answer) := by
  cases hFits : stored.fits settings with
  | false =>
    rw [set_of_not_fits hFits]
    exact .refl c
  | true =>
    obtain ⟨hOn, hSize⟩ := le_of_fits hFits
    obtain ⟨k, d, hReadied, hSet⟩ := set_of_tidy (l := stored.call.lookup) h hOn hSize
    rw [hSet]
    exact hReadied.keeps.sameLookups.trans (sameLookups_put _ _ _)

theorem entryHits_set_le (h : Tidy now c) (stored : Stored) :
    (c.set settings now stored.call.lookup stored.answer).entryHits ≤ c.entryHits := by
  cases hFits : stored.fits settings with
  | false => rw [set_of_not_fits hFits]
  | true =>
    obtain ⟨hOn, hSize⟩ := le_of_fits hFits
    obtain ⟨k, d, hReadied, hSet⟩ := set_of_tidy (l := stored.call.lookup) h hOn hSize
    have hPut : (d.put stored.call.lookup.key (stored.call.lookup.entry now stored.answer)).entryHits
        = d.entryHits := by
      rw [entryHits, put, filter_key_eq_self hReadied.new, List.map_append, List.sum_append]
      rfl
    rw [hSet, hPut]
    exact hReadied.keeps.entryHits_le

/-- An answer that is stored adds an entry, but for those that are evicted and the one that it takes
the place of. -/
theorem length_set (settings : CacheSettings) (h : Tidy now c) (later : Nat) (stored : Stored) :
    c.entries.length + c.evictions + (storedKeys settings [(⟨c, later⟩, stored)]).length =
      (c.set settings now stored.call.lookup stored.answer).entries.length +
        (c.set settings now stored.call.lookup stored.answer).evictions +
        replacements settings [(⟨c, later⟩, stored)] := by
  cases hFits : stored.fits settings with
  | false =>
    rw [set_of_not_fits hFits, storedKeys_of_not_fits hFits]
    simp [replacements, hFits]
  | true =>
    obtain ⟨hOn, hSize⟩ := le_of_fits hFits
    obtain ⟨k, d, hReadied, hSet⟩ := set_of_tidy (l := stored.call.lookup) h hOn hSize
    have hReplaced : replacements settings [(⟨c, later⟩, stored)] =
        if stored.call.lookup.key ∈ c.keys then 1 else 0 := by
      simp [replacements, hFits, List.countP_cons]
    have hEntries : d.entries.length = ((c.others stored.call.lookup.key).drop k).length := by
      rw [← length_order hReadied.tidy, hReadied.order]
    have hOthers := length_others h stored.call.lookup.key
    have hEvictions : (d.put stored.call.lookup.key
        (stored.call.lookup.entry now stored.answer)).evictions = d.evictions := rfl
    rw [hSet, storedKeys_of_fits hFits, length_put hReadied.new, hReplaced, hEvictions,
      hReadied.keeps.evictions, hEntries, hOthers, List.length_singleton, List.length_drop,
      List.length_take]
    omega

theorem Balanced.set {t : Tally} {later : Nat} (h : Balanced settings t 0 c) (hc : Tidy now c)
    (stored : Stored) :
    Balanced settings
      { t with
        stored := t.stored + (storedKeys settings [(⟨c, later⟩, stored)]).length
        replaced := t.replaced + replacements settings [(⟨c, later⟩, stored)] } 0
      (c.set settings now stored.call.lookup stored.answer) := by
  refine h.of_sameLookups (sameLookups_set hc stored) rfl (entryHits_set_le hc stored) ?_
  have hLength := length_set settings hc later stored
  have hEntries := h.entries
  dsimp only
  omega

/-! ### Warm-ups -/

theorem replacements_append (first next : List (Timed × Stored)) :
    replacements settings (first ++ next) =
      replacements settings first + replacements settings next :=
  List.countP_append

theorem Balanced.warmUp {t : Tally} (h : Balanced settings t 0 s.cache)
    (hs : Sound settings s.now s.cache) (execute : Request → Except QueryError Answer) :
    Balanced settings (t.next settings s (.warmUp execute)) 0
      (s.cache.warmUp settings execute s.now).cache := by
  refine stores_induction (P := fun w handed => Balanced settings { t with
    stored := t.stored + (storedKeys settings handed).length
    replaced := t.replaced + replacements settings handed } 0 w.cache) hs execute ?_ ?_ ?_
  · intro w hCache
    rw [hCache]
    exact { h with }
  · intro w w' handed hCache hBalanced
    rw [hCache]
    exact hBalanced
  · intro w w' handed stored hLater hCache hBalanced
    rw [hCache, storedKeys_append, replacements_append, List.length_append, ← Nat.add_assoc,
      ← Nat.add_assoc]
    exact hBalanced.set hLater.toTidy stored

theorem sameLookups_warmUp (hs : Sound settings s.now s.cache)
    (execute : Request → Except QueryError Answer) :
    SameLookups s.cache (s.cache.warmUp settings execute s.now).cache := by
  refine stores_induction (P := fun w _ => SameLookups s.cache w.cache) hs execute ?_ ?_ ?_
  · intro w hCache
    rw [hCache]
    exact ⟨rfl, rfl, rfl, rfl, rfl⟩
  · intro w w' _ hCache hSame
    rw [hCache]
    exact hSame
  · intro w w' _ stored hLater hCache hSame
    rw [hCache]
    exact hSame.trans (sameLookups_set hLater.toTidy stored)

/-! ### Histories -/

/-- The event counts lookups, or forgets them. -/
def Event.Counts : Event → Prop
  | .get _ => True
  | .clear => True
  | _ => False

/-- **Only lookups are counted as lookups.** -/
theorem sameLookups_apply (hs : Sound settings s.now s.cache) {event : Event}
    (hEvent : ¬event.Counts) : SameLookups s.cache (event.apply settings s).cache := by
  cases event with
  | get call => exact absurd trivial hEvent
  | set call answer => exact sameLookups_set hs.toTidy ⟨call, answer⟩
  | contains call => exact .refl _
  | invalidate paths =>
    obtain ⟨test, hKeeps⟩ := hs.toTidy.keeps_invalidate paths
    exact hKeeps.sameLookups
  | cleanUp => exact (hs.toTidy.keeps_removeAll _).sameLookups
  | clear => exact absurd trivial hEvent
  | warmUp execute => exact sameLookups_warmUp hs execute
  | advance millis => exact .refl _

theorem balanced_zero (settings : CacheSettings) : Balanced settings .zero 0 .empty :=
  ⟨rfl, rfl, Nat.le_refl _, Nat.le_refl _, fun _ => rfl, rfl⟩

theorem balanced_of_recorded (h : Recorded settings history s) :
    Balanced settings (.ofHistory settings history) 0 s.cache := by
  induction h with
  | start now => exact balanced_zero settings
  | @arrange history s before entries candidates hEntries hCandidates ih =>
    have hLength : entries.length = s.cache.entries.length := hEntries.length_eq
    have hHits : (entries.map (·.2.hits)).sum = s.cache.entryHits := (hEntries.map _).sum_eq
    exact { ih with
      entryHits := hHits.trans_le ih.entryHits
      entries := hLength ▸ ih.entries }
  | @step history s before event ih =>
    have hSound := before.sound
    have hTidy := hSound.toTidy
    rw [Tally.ofHistory_concat]
    cases event with
    | get call => exact ih.get hTidy call.lookup
    | set call answer => exact ih.set hTidy ⟨call, answer⟩
    | contains call => exact ih
    | invalidate paths =>
      obtain ⟨test, hKeeps⟩ := hTidy.keeps_invalidate paths
      exact ih.of_keeps hKeeps rfl rfl (Nat.add_assoc _ _ _).symm
    | cleanUp =>
      refine ih.of_keeps (hTidy.keeps_removeAll _) rfl rfl ?_
      have hExpired := List.countP_eq_length.2 (isExpired_of_lost_cleanUp settings hTidy)
      simp only [Tally.next, Event.apply]
      rw [hExpired, cleanUp]
      omega
    | clear => exact balanced_zero settings
    | warmUp execute => exact ih.warmUp hSound execute
    | advance millis => exact ih

/-- **The accounts balance.**  After every history every lookup of a cache that is on was a hit or a
miss, similar lookups and the hits of the entries are among the hits, the frequencies are those of
all lookups, and every answer that was stored is still there, or was evicted, replaced, taken out
when it had expired, or invalidated.  Other events than lookups, but for clearing, change no count
of lookups. -/
theorem accounts_balance (h : Recorded settings history s) :
    Balanced settings (.ofHistory settings history) 0 s.cache ∧
      ∀ event : Event, ¬event.Counts →
        SameLookups s.cache (event.apply settings s).cache :=
  ⟨balanced_of_recorded h, fun _ hEvent => sameLookups_apply h.sound hEvent⟩

/-- The events one after the other, each with what it meets. -/
def trail (settings : CacheSettings) : Timed → List Event → History
  | _, [] => []
  | s, event :: events => (s, event) :: trail settings (event.apply settings s) events

theorem Recorded.follow (h : Recorded settings history s) (events : List Event) :
    Recorded settings (history ++ trail settings s events)
      (events.foldl (fun s event => event.apply settings s) s) := by
  induction events generalizing history s with
  | nil => rwa [trail, List.append_nil]
  | cons event events ih =>
    rw [trail, List.append_cons, List.foldl_cons]
    exact ih (h.step event)

/-- A call is missed, its answer is stored, stored again and looked up; another answer takes its
place in a cache for one, and expires. -/
def busyEvents : List Event :=
  [.get matchOne, .set matchOne .empty, .set matchOne .empty, .get matchOne,
    .set { matchOne with text := "MATCH (m)" } .empty, .advance (single.lifetimeMillis + 1),
    .cleanUp]

def busy : Timed := busyEvents.foldl (fun s event => event.apply single s) ⟨.empty, 0⟩

theorem accounts_balance_once :
    Recorded single (trail single ⟨.empty, 0⟩ busyEvents) busy ∧
      Tally.ofHistory single (trail single ⟨.empty, 0⟩ busyEvents) = ⟨2, 3, 1, 1, 0⟩ ∧
      busy.cache.hits + busy.cache.misses = 2 ∧
      busy.cache.entries.length + busy.cache.evictions = 1 ∧
      SameLookups busy.cache ((Event.cleanUp).apply single busy).cache := by
  have hRecorded : Recorded single (trail single ⟨.empty, 0⟩ busyEvents) busy :=
    (Recorded.start 0).follow busyEvents
  obtain ⟨hBalanced, hSame⟩ := accounts_balance hRecorded
  have hTally : Tally.ofHistory single (trail single ⟨.empty, 0⟩ busyEvents) =
      ⟨2, 3, 1, 1, 0⟩ := by
    decide +kernel
  have hLookups := hBalanced.lookups
  have hEntries := hBalanced.entries
  rw [hBalanced.answered, hTally] at hLookups
  rw [hTally] at hEntries
  dsimp only at hEntries
  exact ⟨hRecorded, hTally, hLookups, by omega, hSame .cleanUp id⟩

end CodeGraph.Cache
