import Mathlib.Data.List.DropRight
import CodeGraph.Proofs.Cache.Outcome
import CodeGraph.Proofs.Cache.Removal

/-!
# What an entry went through

An entry after an event was stored with it, or it was there before and counts one hit more at most,
that of a lookup which it answered (`entry_cases`).  A `Stay` follows an entry from the event that
stored it over the events that found it there, with those that hit it.  Every entry of a cache looks
back on a stay with exactly the hits that it counts, and all of it came after the last clear
(`stay_of_recorded`).
-/

namespace CodeGraph.Cache

variable {settings : CacheSettings} {now : Nat} {c : Cache} {l : Lookup} {key : String}
variable {p : String × Entry} {history : History} {s : Timed} {event : Event}

/-! ### The last clear -/

def Event.isClear : Event → Bool
  | .clear => true
  | _ => false

/-- What came after the last clear, and all of a history if there was none. -/
def sinceClear (history : History) : History := history.rtakeWhile fun p => !p.2.isClear

theorem sinceClear_of_clear (history : History) (s : Timed) (hClear : event.isClear = true) :
    sinceClear (history ++ [(s, event)]) = [] := by
  rw [sinceClear, List.rtakeWhile_concat, if_neg (by simp [hClear])]

theorem sinceClear_concat (history : History) (s : Timed) (hClear : event.isClear = false) :
    sinceClear (history ++ [(s, event)]) = sinceClear history ++ [(s, event)] := by
  rw [sinceClear, List.rtakeWhile_concat, if_pos (by simp [hClear]), sinceClear]

theorem apply_of_clear (s : Timed) (hClear : event.isClear = true) :
    (event.apply settings s).cache = .empty := by
  cases event with
  | clear => rfl
  | _ => cases hClear

/-! ### Hits -/

/-- The event is a lookup that the entry `p`, given as it was stored, answers. -/
def HitsOn (settings : CacheSettings) (p : String × Entry) (q : Timed × Event) : Prop :=
  ∃ call e r, q.2 = .get call ∧ e.origin = p.2 ∧
    (q.1.cache.get settings q.1.now call.lookup).1 = some r ∧
    AnsweredFrom settings q.1.now call.lookup q.1.cache
      (q.1.cache.get settings q.1.now call.lookup).2 (p.1, e) r

theorem answeredFrom_of_answering? (hc : Tidy now c)
    (h : c.answering? settings now l = some key) :
    ∃ e r, (c.get settings now l).1 = some r ∧
      AnsweredFrom settings now l c (c.get settings now l).2 (key, e) r := by
  rcases get_cases hc.nodup now l with
    ⟨_, hNone, _⟩ | ⟨_, d, hSearched, ⟨hNone, _⟩ | ⟨key', hKey, similar, _, hSome, hGet⟩⟩
  · rw [hNone] at h
    cases h
  · rw [hNone] at h
    cases h
  · rw [hSome] at h
    cases h
    obtain ⟨e, hFind⟩ := exists_find? hKey
    have hAnswer : (c.get settings now l).1 = some { e.answer with cached := true } := by
      have hFind' : { d with similarHits := d.similarHits + similar }.find? key = some e := hFind
      rw [hGet, hit, hFind']
    obtain ⟨p, hFrom⟩ := exists_answeredFrom hc.nodup hAnswer
    -- the entry that answers and the one that is named are both the last used
    have hLast : (c.get settings now l).2.order = d.order.erase key ++ [key] := by
      rw [hGet]
      exact order_hit (c := { d with similarHits := d.similarHits + similar }) hKey
    have hSame : p.1 = key := by
      have hOrder := hFrom.order
      rw [hLast] at hOrder
      simpa using (congrArg List.getLast? hOrder).symm
    exact ⟨p.2, _, hAnswer, hSame ▸ hFrom⟩

/-! ### Entries after an event -/

theorem mem_entries_set (hc : Tidy now c) (stored : Stored)
    (hp : p ∈ (c.set settings now stored.call.lookup stored.answer).entries) :
    Handed (fitting settings [(⟨c, now⟩, stored)]) p ∨
      p ∈ c.entries ∧ p.1 ∉ storedKeys settings [(⟨c, now⟩, stored)] := by
  cases hFits : stored.fits settings with
  | false =>
    rw [set_of_not_fits hFits] at hp
    rw [storedKeys_of_not_fits hFits]
    exact Or.inr ⟨hp, List.not_mem_nil⟩
  | true =>
    obtain ⟨hOn, hSize⟩ := le_of_fits hFits
    obtain ⟨k, d, hReadied, hSet⟩ := set_of_tidy (l := stored.call.lookup) hc hOn hSize
    rw [hSet, put] at hp
    rcases List.mem_append.1 hp with hOld | hNew
    · obtain ⟨hMem, hOther⟩ := List.mem_filter.1 hOld
      rw [hReadied.keeps.entries] at hMem
      rw [storedKeys_of_fits hFits, List.mem_singleton]
      exact Or.inr ⟨(List.mem_filter.1 hMem).1, by simpa using hOther⟩
    · exact Or.inl ⟨(⟨c, now⟩, stored), List.mem_filter.2 ⟨List.mem_singleton_self _, hFits⟩,
        List.mem_singleton.1 hNew⟩

theorem mem_entries_warmUp (hs : Sound settings s.now s.cache)
    (execute : Request → Except QueryError Answer) :
    ∀ p ∈ (s.cache.warmUp settings execute s.now).cache.entries,
      Handed (fitting settings ((Event.warmUp execute).handsOver settings s)) p ∨
        p ∈ s.cache.entries ∧
          p.1 ∉ storedKeys settings ((Event.warmUp execute).handsOver settings s) := by
  refine stores_induction (P := fun w handed => ∀ p ∈ w.cache.entries,
    Handed (fitting settings handed) p ∨ p ∈ s.cache.entries ∧ p.1 ∉ storedKeys settings handed)
    hs execute ?_ ?_ ?_
  · intro w hCache p hp
    rw [hCache] at hp
    exact Or.inr ⟨hp, List.not_mem_nil⟩
  · intro w w' handed hCache hBefore
    rw [hCache]
    exact hBefore
  · intro w w' handed stored hLater hCache hBefore p hp
    rw [hCache] at hp
    rw [fitting_append, storedKeys_append, List.mem_append, not_or]
    rcases mem_entries_set hLater.toTidy stored hp with hNew | ⟨hOld, hOther⟩
    · exact Or.inl (hNew.mono (List.subset_append_right _ _))
    · rcases hBefore p hOld with hNew | ⟨hThere, hNot⟩
      · exact Or.inl (hNew.mono (List.subset_append_left _ _))
      · exact Or.inr ⟨hThere, hNot, hOther⟩

theorem entries_withoutExpired_subset (settings : CacheSettings) (now : Nat) (c : Cache)
    (l : Lookup) : (c.withoutExpired settings now l).entries ⊆ c.entries := by
  rw [withoutExpired]
  split
  · exact List.Subset.refl _
  · rw [entries_remove]
    exact List.filter_subset_self _

theorem mem_entries_get (hc : Tidy now c) (call : Call)
    (hp : p ∈ (c.get settings now call.lookup).2.entries) :
    ∃ e, (p.1, e) ∈ c.entries ∧ e.origin = p.2.origin ∧
      (p.2.hits = e.hits ∨
        p.2.hits = e.hits + 1 ∧ HitsOn settings (p.1, p.2.origin) (⟨c, now⟩, .get call)) := by
  cases hOn : settings.enabled with
  | false =>
    rw [get, if_pos (by simp [hOn])] at hp
    exact ⟨p.2, hp, rfl, Or.inl rfl⟩
  | true =>
    have hSubset := entries_withoutExpired_subset settings now c call.lookup
    rcases get_outcome_cases hc.nodup hOn now call.lookup with
      ⟨_, _, hSame⟩ | ⟨⟨hitKey, hitEntry⟩, r, hGet, hFrom⟩
    · rw [hSame.entries] at hp
      exact ⟨p.2, hSubset hp, rfl, Or.inl rfl⟩
    · rw [hFrom.entries] at hp
      obtain ⟨⟨key, e⟩, hMem, rfl⟩ := List.mem_map.1 hp
      by_cases hKey : key = hitKey
      · subst hKey
        have hEntry : hitEntry = e := eq_of_mem_entries hc.nodup hFrom.mem (hSubset hMem)
        subst hEntry
        rw [if_pos rfl]
        have hHit : HitsOn settings (key, hitEntry.origin) (⟨c, now⟩, .get call) :=
          ⟨call, hitEntry, r, rfl, rfl, hGet, hFrom⟩
        exact ⟨hitEntry, hSubset hMem, rfl, Or.inr ⟨rfl, hHit⟩⟩
      · rw [if_neg hKey]
        exact ⟨e, hSubset hMem, rfl, Or.inl rfl⟩

/-- **What an entry after an event was before.** It was stored with the event; or nothing was stored
under its key, it was there, and it counts one more hit if the event is one. -/
theorem entry_cases (hs : Sound settings s.now s.cache) (event : Event)
    (hp : p ∈ (event.apply settings s).cache.entries) :
    Handed (fitting settings (event.handsOver settings s)) p ∨
      p.1 ∉ storedKeys settings (event.handsOver settings s) ∧
        ∃ e, (p.1, e) ∈ s.cache.entries ∧ e.origin = p.2.origin ∧
          (p.2.hits = e.hits ∨
            p.2.hits = e.hits + 1 ∧ HitsOn settings (p.1, p.2.origin) (s, event)) := by
  have hTidy := hs.toTidy
  cases event with
  | get call => exact Or.inr ⟨List.not_mem_nil, mem_entries_get hTidy call hp⟩
  | set call answer =>
    exact (mem_entries_set hTidy ⟨call, answer⟩ hp).imp_right fun ⟨hOld, hOther⟩ =>
      ⟨hOther, p.2, hOld, rfl, Or.inl rfl⟩
  | warmUp execute =>
    exact (mem_entries_warmUp hs execute p hp).imp_right fun ⟨hOld, hOther⟩ =>
      ⟨hOther, p.2, hOld, rfl, Or.inl rfl⟩
  | invalidate paths =>
    obtain ⟨test, hKeeps⟩ := hTidy.keeps_invalidate paths
    have hOld : p ∈ (s.cache.invalidate paths).2.entries := hp
    rw [hKeeps.entries] at hOld
    exact Or.inr ⟨List.not_mem_nil, p.2, (List.mem_filter.1 hOld).1, rfl, Or.inl rfl⟩
  | cleanUp =>
    have hOld : p ∈ (s.cache.cleanUp settings s.now).2.entries := hp
    rw [cleanUp, (hTidy.keeps_removeAll _).entries] at hOld
    exact Or.inr ⟨List.not_mem_nil, p.2, (List.mem_filter.1 hOld).1, rfl, Or.inl rfl⟩
  | clear => exact (List.not_mem_nil hp).elim
  | contains call => exact Or.inr ⟨List.not_mem_nil, p.2, hp, rfl, Or.inl rfl⟩
  | advance millis => exact Or.inr ⟨List.not_mem_nil, p.2, hp, rfl, Or.inl rfl⟩

/-! ### Stays -/

/-- The entry `p`, given as it was stored, comes with one event, and each of those `during` its stay
finds it there and stores nothing under its key.  Some of them, `hits`, are lookups that it
answers. -/
structure Stay (settings : CacheSettings) (p : String × Entry) (arrival : Timed × Event)
    (during hits : History) : Prop where
  arrived : Handed (fitting settings (arrival.2.handsOver settings arrival.1)) p
  present : ∀ q ∈ during, p ∈ q.1.cache.origins
  alone : ∀ q ∈ during, p.1 ∉ storedKeys settings (q.2.handsOver settings q.1)
  chosen : hits.Sublist during
  hits : ∀ q ∈ hits, HitsOn settings p q

namespace Stay

variable {arrival q : Timed × Event} {during hits : History}

theorem arrive (h : Handed (fitting settings (arrival.2.handsOver settings arrival.1)) p) :
    Stay settings p arrival [] [] where
  arrived := h
  present _ hq := (List.not_mem_nil hq).elim
  alone _ hq := (List.not_mem_nil hq).elim
  chosen := .slnil
  hits _ hq := (List.not_mem_nil hq).elim

theorem pass (h : Stay settings p arrival during hits) (hPresent : p ∈ q.1.cache.origins)
    (hAlone : p.1 ∉ storedKeys settings (q.2.handsOver settings q.1)) :
    Stay settings p arrival (during ++ [q]) hits where
  arrived := h.arrived
  present := List.forall_mem_append.2 ⟨h.present, List.forall_mem_singleton.2 hPresent⟩
  alone := List.forall_mem_append.2 ⟨h.alone, List.forall_mem_singleton.2 hAlone⟩
  chosen := h.chosen.trans (List.sublist_append_left _ _)
  hits := h.hits

theorem hit (h : Stay settings p arrival during hits) (hPresent : p ∈ q.1.cache.origins)
    (hAlone : p.1 ∉ storedKeys settings (q.2.handsOver settings q.1))
    (hHit : HitsOn settings p q) : Stay settings p arrival (during ++ [q]) (hits ++ [q]) :=
  { h.pass hPresent hAlone with
    chosen := h.chosen.append (List.Sublist.refl _)
    hits := List.forall_mem_append.2 ⟨h.hits, List.forall_mem_singleton.2 hHit⟩ }

theorem ofText_query (h : Stay settings p arrival during hits) :
    NormalForm.ofText p.2.request.query = p.2.request.query := by
  obtain ⟨given, _, rfl⟩ := h.arrived
  exact NormalForm.ofText_ofText given.2.call.text

end Stay

theorem Handed.origin {handed : List (Timed × Stored)} (h : Handed handed p) :
    p.2.origin = p.2 ∧ p.2.hits = 0 := by
  obtain ⟨given, _, rfl⟩ := h
  exact ⟨rfl, rfl⟩

/-- **Every entry looks back on a stay with the hits that it counts**, since the last clear. -/
theorem stay_of_recorded (h : Recorded settings history s) :
    ∀ p ∈ s.cache.entries, ∃ before arrival during hits,
      sinceClear history = before ++ arrival :: during ∧
        Stay settings (p.1, p.2.origin) arrival during hits ∧ hits.length = p.2.hits := by
  induction h with
  | start now => exact fun p hp => (List.not_mem_nil hp).elim
  | arrange before hEntries _ ih => exact fun p hp => ih p (hEntries.subset hp)
  | @step history s before event ih =>
    intro p hp
    cases hClear : event.isClear with
    | true =>
      rw [apply_of_clear s hClear] at hp
      exact (List.not_mem_nil hp).elim
    | false =>
      rw [sinceClear_concat history s hClear]
      rcases entry_cases before.sound event hp with hNew | ⟨hAlone, e, hOld, hOrigin, hHits⟩
      · obtain ⟨hOrigin, hNone⟩ := hNew.origin
        refine ⟨sinceClear history, (s, event), [], [], rfl, .arrive ?_, hNone.symm⟩
        rw [hOrigin]
        exact hNew
      · obtain ⟨first, arrival, during, hits, hSince, hStay, hLength⟩ := ih (p.1, e) hOld
        have hPresent : (p.1, p.2.origin) ∈ s.cache.origins :=
          List.mem_map.2 ⟨(p.1, e), hOld, by rw [hOrigin]⟩
        have hMore : sinceClear history ++ [(s, event)] =
            first ++ arrival :: (during ++ [(s, event)]) := by
          rw [hSince, List.append_assoc, List.cons_append]
        rw [hOrigin] at hStay
        rcases hHits with hSame | ⟨hOne, hHit⟩
        · exact ⟨first, arrival, _, hits, hMore, hStay.pass hPresent hAlone,
            hLength.trans hSame.symm⟩
        · refine ⟨first, arrival, _, hits ++ [(s, event)], hMore,
            hStay.hit hPresent hAlone hHit, ?_⟩
          rw [List.length_append, List.length_singleton, hLength, hOne]

end CodeGraph.Cache
