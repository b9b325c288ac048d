import CodeGraph.Proofs.Cache.Frequent
import CodeGraph.Proofs.Cache.Stays
import CodeGraph.Proofs.Cache.WarmUp

/-!
# Why a request is a candidate

A candidate stays when the entry behind it goes, and when its pattern is dropped from the table of
frequencies, so what makes it one is a fact about the past.  Of the history since the last clear,
`Wanted` says which: an entry with just this request was there and answered four lookups while it
stayed (`HitOften`), and the pattern was recorded three times.  Neither is undone by what comes
after, but for a clear, which takes the candidates too (`candidates_wanted`).
-/

namespace CodeGraph.Cache

variable {settings : CacheSettings} {now : Nat} {c : Cache} {l : Lookup} {p : String × Entry}
variable {history recent : History} {s : Timed} {event : Event} {q : Timed × Event}
variable {request : Request} {candidate : String × List Request}

/-! ### Patterns that were recorded -/

def Event.seen (settings : CacheSettings) : Event → List String
  | .get call =>
    if settings.enabled && settings.warmUp then [Mask.pattern call.lookup.request.query] else []
  | _ => []

def seen (settings : CacheSettings) (history : History) : List String :=
  history.flatMap fun q => q.2.seen settings

theorem seen_concat (history : History) (q : Timed × Event) :
    seen settings (history ++ [q]) = seen settings history ++ q.2.seen settings := by
  rw [seen, List.flatMap_append, List.flatMap_singleton, seen]

theorem frequency_get (hc : Tidy now c) (l : Lookup) :
    (c.get settings now l).2.frequency =
      if settings.enabled then (c.count settings l).frequency else c.frequency := by
  rcases get_cases hc.nodup now l with ⟨hOff, _, hGet⟩ | ⟨hOn, d, hSearched, hAnswered⟩
  · rw [hGet, hOff, if_neg Bool.false_ne_true]
  · obtain ⟨test, hKeeps⟩ := hSearched.keeps_count hc
    have hSame : d.frequency = (c.count settings l).frequency := hKeeps.sameLookups.frequency
    rw [if_pos hOn, ← hSame]
    rcases hAnswered with ⟨_, hGet⟩ | ⟨key, hKey, similar, _, _, hGet⟩
    · rw [hGet]
    · rw [hGet]
      exact (counts_hit (c := { d with similarHits := d.similarHits + similar }) settings now
        hKey).2.2.2.2.1

theorem frequency_get_ofSeen (settings : CacheSettings) (hc : Tidy now c) {before : List String}
    (h : c.frequency = .ofSeen before) (call : Call) :
    (c.get settings now call.lookup).2.frequency =
      .ofSeen (before ++ (Event.get call).seen settings) := by
  rw [frequency_get hc, Event.seen, count, h]
  cases settings.enabled with
  | false => simp
  | true =>
    cases settings.warmUp with
    | false => simp
    | true => simp [Frequency.ofSeen_concat]

/-- **The frequencies are those of the patterns recorded since the last clear.** -/
theorem frequency_of_recorded (h : Recorded settings history s) :
    s.cache.frequency = .ofSeen (seen settings (sinceClear history)) := by
  induction h with
  | start now => rfl
  | arrange before _ _ ih => exact ih
  | @step history s before event ih =>
    cases hClear : event.isClear with
    | true =>
      rw [apply_of_clear s hClear, sinceClear_of_clear history s hClear]
      rfl
    | false =>
      rw [sinceClear_concat history s hClear, seen_concat]
      by_cases hGet : ∃ call, event = .get call
      · obtain ⟨call, rfl⟩ := hGet
        exact frequency_get_ofSeen settings before.sound.toTidy ih call
      · have hCounts : ¬event.Counts := by
          intro hCounts
          cases event with
          | get call => exact hGet ⟨call, rfl⟩
          | clear => cases hClear
          | _ => exact hCounts
        have hNone : event.seen settings = [] := by
          cases event with
          | get call => exact absurd ⟨call, rfl⟩ hGet
          | _ => rfl
        rw [(sameLookups_apply before.sound hCounts).frequency, ih, hNone, List.append_nil]

/-! ### Requests with many hits -/

/-- Four lookups of a history were answered from one entry, stored for this very request. -/
def HitOften (settings : CacheSettings) (recent : History) (request : Request) : Prop :=
  ∃ before arrival during after p hits, recent = before ++ arrival :: (during ++ after) ∧
    p.2.request = request ∧ Stay settings p arrival during hits ∧ 4 ≤ hits.length

theorem HitOften.concat (h : HitOften settings recent request) (q : Timed × Event) :
    HitOften settings (recent ++ [q]) request := by
  obtain ⟨before, arrival, during, after, p, hits, rfl, hRequest, hStay, hFour⟩ := h
  refine ⟨before, arrival, during, after ++ [q], p, hits, ?_, hRequest, hStay, hFour⟩
  rw [List.append_assoc, List.cons_append, List.append_assoc]

/-- What a candidate of a history is: a pattern that was recorded three times, and requests of this
pattern that differ, are in their normal form, and had four hits each. -/
structure Wanted (settings : CacheSettings) (recent : History)
    (candidate : String × List Request) : Prop where
  nonempty : candidate.2 ≠ []
  /-- No two requests ask the same, as the cache compares them. -/
  differ : candidate.2.Pairwise fun a b => a.same b = false
  normal : ∀ r ∈ candidate.2, NormalForm.ofText r.query = r.query
  pattern : ∀ r ∈ candidate.2, Mask.pattern r.query = candidate.1
  hits : ∀ r ∈ candidate.2, HitOften settings recent r
  recorded : 3 ≤ (seen settings recent).count candidate.1

namespace Wanted

theorem concat (h : Wanted settings recent candidate) (q : Timed × Event) :
    Wanted settings (recent ++ [q]) candidate :=
  { h with
    hits := fun r hr => (h.hits r hr).concat q
    recorded := by
      rw [seen_concat, List.count_append]
      exact Nat.le_add_right_of_le h.recorded }

theorem add {pattern : String} {requests : List Request}
    (h : Wanted settings recent (pattern, requests))
    (hNew : Wanted settings recent (pattern, [request]))
    (hDiffer : ∀ r ∈ requests, r.same request = false) :
    Wanted settings recent (pattern, requests ++ [request]) where
  nonempty := List.append_ne_nil_of_right_ne_nil _ (List.cons_ne_nil _ _)
  differ := by
    refine List.pairwise_append.2 ⟨h.differ, hNew.differ, fun a ha b hb => ?_⟩
    rw [List.mem_singleton.1 hb]
    exact hDiffer a ha
  normal := List.forall_mem_append.2 ⟨h.normal, hNew.normal⟩
  pattern := List.forall_mem_append.2 ⟨h.pattern, hNew.pattern⟩
  hits := List.forall_mem_append.2 ⟨h.hits, hNew.hits⟩
  recorded := h.recorded

end Wanted

/-! ### Lookups that find a candidate -/

/-- A lookup that makes a request a candidate is the fourth hit on its entry, or a later one. -/
theorem hitOften_of_collects (h : Recorded settings history s) {call : Call} {d : Cache}
    (hCollects : Collects settings s.now s.cache call.lookup p d) :
    NormalForm.ofText p.2.request.query = p.2.request.query ∧
      HitOften settings (sinceClear history ++ [(s, .get call)]) p.2.request := by
  have hTidy := h.sound.toTidy
  obtain ⟨before, arrival, during, hits, hSince, hStay, hLength⟩ :=
    stay_of_recorded h p hCollects.mem
  obtain ⟨e, r, hGet, hFrom⟩ := answeredFrom_of_answering? hTidy hCollects.answers
  have hEntry : e = p.2 := eq_of_mem_entries hTidy.nodup hFrom.mem hCollects.mem
  have hHit : HitsOn settings (p.1, p.2.origin) (s, .get call) :=
    ⟨call, e, r, rfl, congrArg Entry.origin hEntry, hGet, hFrom⟩
  have hPresent : (p.1, p.2.origin) ∈ s.cache.origins := List.mem_map_of_mem hCollects.mem
  refine ⟨hStay.ofText_query, before, arrival, during ++ [(s, .get call)], [], (p.1, p.2.origin),
    hits ++ [(s, .get call)], ?_, rfl, hStay.hit hPresent List.not_mem_nil hHit, ?_⟩
  · rw [hSince, List.append_assoc, List.cons_append, List.append_nil]
  · have hThree : 3 ≤ p.2.hits := hCollects.hits
    rw [List.length_append, List.length_singleton]
    omega

theorem three_le_of_collects (h : Recorded settings history s) {call : Call} {d : Cache}
    (hCollects : Collects settings s.now s.cache call.lookup p d) :
    3 ≤ (seen settings (sinceClear history ++ [(s, .get call)])).count
      (Mask.pattern p.2.request.query) := by
  have hTidy := h.sound.toTidy
  have hTable := frequency_get_ofSeen settings hTidy (frequency_of_recorded h) call
  rw [frequency_get hTidy, if_pos hCollects.on] at hTable
  have hThree := Frequency.three_le_of_isFrequent hCollects.frequent
  rw [hTable] at hThree
  rw [seen_concat]
  exact Nat.le_trans hThree (Frequency.count_le _ _)

theorem wanted_of_collects (h : Recorded settings history s) {call : Call} {d : Cache}
    (hCollects : Collects settings s.now s.cache call.lookup p d) :
    Wanted settings (sinceClear history ++ [(s, .get call)])
      (Mask.pattern p.2.request.query, [p.2.request]) := by
  obtain ⟨hNormal, hHits⟩ := hitOften_of_collects h hCollects
  exact {
    nonempty := List.cons_ne_nil _ _
    differ := List.pairwise_singleton _ _
    normal := List.forall_mem_singleton.2 hNormal
    pattern := List.forall_mem_singleton.2 rfl
    hits := List.forall_mem_singleton.2 hHits
    recorded := three_le_of_collects h hCollects }

/-! ### Histories -/

theorem wanted_of_recorded (h : Recorded settings history s) :
    ∀ candidate ∈ s.cache.candidates, Wanted settings (sinceClear history) candidate := by
  induction h with
  | start now => exact fun candidate hMem => (List.not_mem_nil hMem).elim
  | arrange before _ hCandidates ih => exact fun candidate hMem => ih _ (hCandidates.subset hMem)
  | @step history s before event ih =>
    intro candidate hMem
    cases hClear : event.isClear with
    | true =>
      rw [apply_of_clear s hClear] at hMem
      exact (List.not_mem_nil hMem).elim
    | false =>
      rw [sinceClear_concat history s hClear]
      have hBefore : ∀ known ∈ s.cache.candidates,
          Wanted settings (sinceClear history ++ [(s, event)]) known :=
        fun known hKnown => (ih known hKnown).concat _
      rcases candidates_apply before.sound event with
        hSame | hNone | ⟨call, p, rfl, hCollects⟩
      · exact hBefore candidate (hSame ▸ hMem)
      · rw [hNone] at hMem
        exact (List.not_mem_nil hMem).elim
      · have hNew := wanted_of_collects before hCollects
        rw [hCollects.added] at hMem
        rcases mem_addCandidate hMem with hOld | rfl | ⟨requests, hOld, hDiffer, rfl⟩
        · exact hBefore candidate hOld
        · exact hNew
        · exact (hBefore _ hOld).add hNew hDiffer

/-- **The candidates of every history are wanted.**  Every pattern stands once, with the requests
that had enough hits since the last clear, whatever became of their entries; and there are none in a
cache that is off or looks for none. -/
theorem candidates_wanted (h : Recorded settings history s) :
    (s.cache.candidates.map (·.1)).Nodup ∧
      (∀ candidate ∈ s.cache.candidates, Wanted settings (sinceClear history) candidate) ∧
      (settings.enabled = false ∨ settings.warmUp = false → s.cache.candidates = []) := by
  have hCollected := collected_of_recorded h
  refine ⟨hCollected.patterns, wanted_of_recorded h, fun hOff => ?_⟩
  by_contra hSome
  obtain ⟨hOn, hWarmUp⟩ := hCollected.looked hSome
  rcases hOff with hOff | hOff
  · rw [hOn] at hOff
    cases hOff
  · rw [hWarmUp] at hOff
    cases hOff

def tenForgotten : Timed := (Event.invalidate none).apply .default tenWanted

/-- The entry behind a candidate goes, and the candidate stays. -/
theorem candidates_wanted_ten :
    ∃ history, Recorded .default history tenForgotten ∧ tenForgotten.cache.entries = [] ∧
      tenForgotten.cache.candidates.map (·.1) = ["MATCH (n) LIMIT NUM"] ∧
      ∀ candidate ∈ tenForgotten.cache.candidates,
        Wanted .default (sinceClear history) candidate := by
  obtain ⟨history, hRecorded⟩ := recorded_tenWanted
  have hForgotten : Recorded .default (history ++ [(tenWanted, .invalidate none)]) tenForgotten :=
    hRecorded.step (.invalidate none)
  obtain ⟨_, hWanted, _⟩ := candidates_wanted hForgotten
  exact ⟨_, hForgotten, rfl, by decide +kernel, hWanted⟩

end CodeGraph.Cache
