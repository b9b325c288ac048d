import CodeGraph.Proofs.Cache.WarmUp

/-!
# The number that a warm-up reports

A warm-up counts the requests that it ran and that gave an answer.  An answer that is larger than the
whole cache is counted like any other, though nothing is stored, so the number is that of the entries
that came only if all answers fit (`warmed_eq`).
-/

namespace CodeGraph.Cache

variable {settings : CacheSettings} {execute : Request → Except QueryError Answer}
variable {w w' : WarmUp} {r : Request}

def holds (settings : CacheSettings) (c : Cache) (now : Nat) (l : Lookup) (answer : Answer) : Bool :=
  (c.find? l.key).any fun e =>
    !e.isExpired settings now && e.answer == { answer with cached := false }

/-- The answer to a request is in the cache after the visit, and was not before. -/
def WarmUp.adds (settings : CacheSettings) (execute : Request → Except QueryError Answer)
    (v : WarmUp × Request) : Bool :=
  match execute v.2 with
  | .ok answer =>
    let done := v.1.step settings execute v.2
    done.cache.holds settings done.now (warmUpLookup v.2) answer &&
      !v.1.cache.holds settings v.1.now (warmUpLookup v.2) answer
  | .error _ => false

/-- The request is run and gives an answer that is larger than the whole cache. -/
def WarmUp.overflows (settings : CacheSettings) (execute : Request → Except QueryError Answer)
    (v : WarmUp × Request) : Bool :=
  match execute v.2 with
  | .ok answer => needs settings v && settings.maxMemory < answer.size
  | .error _ => false

theorem contains_of_holds {c : Cache} {now : Nat} {answer : Answer}
    (h : c.holds settings now (warmUpLookup r) answer = true) :
    c.contains settings now (warmUpLookup r) = true := by
  rw [holds, Option.any_eq_true] at h
  obtain ⟨e, hFind, hHeld⟩ := h
  rw [Bool.and_eq_true, Bool.not_eq_true'] at hHeld
  exact contains_iff_find?.2 ⟨e, hFind, hHeld.1⟩

theorem holds_mono {c : Cache} {now later : Nat} {l : Lookup} {answer : Answer}
    (hLater : now ≤ later) (h : c.holds settings later l answer = true) :
    c.holds settings now l answer = true := by
  rw [holds, Option.any_eq_true] at h ⊢
  obtain ⟨e, hFind, hHeld⟩ := h
  rw [Bool.and_eq_true, Bool.not_eq_true', isExpired_eq_false_iff] at hHeld
  refine ⟨e, hFind, ?_⟩
  rw [Bool.and_eq_true, Bool.not_eq_true', isExpired_eq_false_iff]
  exact ⟨Nat.le_trans hLater hHeld.1, hHeld.2⟩

theorem holds_put {now : Nat} {d : Cache} {l : Lookup} {answer : Answer} (hNew : l.key ∉ d.keys) :
    (d.put l.key (l.entry now answer)).holds settings now l answer = true := by
  rw [holds, find?_put hNew, Option.any_some, isExpired_entry (Nat.le_add_right _ _)]
  exact beq_self_eq_true _

theorem adds_eq_false_of_same {v : WarmUp × Request}
    (hSame : (v.1.step settings execute v.2).cache = v.1.cache) :
    WarmUp.adds settings execute v = false := by
  rw [WarmUp.adds]
  cases execute v.2 with
  | error error => rfl
  | ok answer =>
    dsimp only
    rw [hSame, Bool.eq_false_iff]
    intro h
    rw [Bool.and_eq_true, Bool.not_eq_true'] at h
    rw [holds_mono (WarmUp.le_now_step settings execute v.1 v.2) h.1] at h
    cases h.2

/-- **A visit counts as a request that gave an answer** if it adds that answer or the answer is too
large. -/
theorem warmed_of_ends (hStep : w.step settings execute r = w')
    (h : Ends settings execute w r w') :
    w'.warmed = w.warmed + ((if WarmUp.adds settings execute (w, r) then 1 else 0) +
      if WarmUp.overflows settings execute (w, r) then 1 else 0) := by
  have hSame : w'.cache = w.cache → WarmUp.adds settings execute (w, r) = false :=
    fun hCache => adds_eq_false_of_same ((congrArg WarmUp.cache hStep).trans hCache)
  cases h with
  | held hHeld =>
    rw [hSame rfl, WarmUp.overflows, WarmUp.needs, hHeld]
    cases execute r with
    | ok answer => rfl
    | error error => rfl
  | failed hLacks hError => rw [hSame rfl, WarmUp.overflows, hError]; rfl
  | refused hLacks hAnswer hLarge =>
    rw [hSame rfl, WarmUp.overflows, hAnswer]
    simp [needs_of_lacks hLacks, hLarge]
  | @stored answer k d hLacks hAnswer hFits hReadied =>
    have hBefore : w.cache.holds settings w.now (warmUpLookup r) answer = false :=
      Bool.eq_false_iff.2 fun h =>
        Bool.eq_false_iff.1 (hLacks w.now (Nat.le_refl _)) (contains_of_holds h)
    rw [WarmUp.adds, WarmUp.overflows]
    dsimp only
    rw [hStep, hAnswer]
    simp [holds_put hReadied.new, hBefore, Nat.not_lt.2 hFits]

theorem warmed_foldl (hOn : settings.enabled = true) (hw : Sound settings w.now w.cache)
    (requests : List Request) :
    (requests.foldl (WarmUp.step settings execute) w).warmed = w.warmed +
      ((w.visits settings execute requests).countP (WarmUp.adds settings execute) +
        (w.visits settings execute requests).countP (WarmUp.overflows settings execute)) := by
  induction requests generalizing w with
  | nil => rfl
  | cons r rest ih =>
    rw [List.foldl_cons, ih (hw.step execute r), warmed_of_ends rfl (ends_step hOn hw r),
      WarmUp.visits, List.countP_cons, List.countP_cons]
    omega

/-- **What a warm-up reports** is how many answers it added, together with how many were too large
to be stored; so it is the number of entries added exactly if no answer was too large. -/
theorem warmed_eq {history : History} {s : Timed} (h : Recorded settings history s)
    (execute : Request → Except QueryError Answer) :
    (s.cache.warmUp settings execute s.now).warmed =
        (visits settings execute s.cache s.now).countP (WarmUp.adds settings execute) +
          (visits settings execute s.cache s.now).countP (WarmUp.overflows settings execute) ∧
      ((s.cache.warmUp settings execute s.now).warmed =
          (visits settings execute s.cache s.now).countP (WarmUp.adds settings execute) ↔
        ∀ v ∈ visits settings execute s.cache s.now, ∀ answer, execute v.2 = .ok answer →
          WarmUp.needs settings v = true → answer.size ≤ settings.maxMemory) := by
  have hWarmed : (s.cache.warmUp settings execute s.now).warmed =
      (visits settings execute s.cache s.now).countP (WarmUp.adds settings execute) +
        (visits settings execute s.cache s.now).countP (WarmUp.overflows settings execute) := by
    by_cases hNone : s.cache.candidates = []
    · rw [warmUp, visits, hNone]
      rfl
    · have hOn := ((collected_of_recorded h).looked hNone).1
      exact (warmed_foldl hOn (sound_start h.sound) _).trans (Nat.zero_add _)
  refine ⟨hWarmed, ?_⟩
  rw [hWarmed, Nat.add_eq_left, List.countP_eq_zero]
  refine forall₂_congr fun v hv => ?_
  rw [WarmUp.overflows]
  cases execute v.2 with
  | ok answer => simp
  | error error => simp

theorem warmed_eq_ten :
    (∃ history, Recorded .default history tenWanted) ∧
      (tenWanted.cache.warmUp .default allButFifty tenWanted.now).warmed = 1 ∧
      (visits .default allButFifty tenWanted.cache tenWanted.now).countP
        (WarmUp.adds .default allButFifty) = 1 := by
  obtain ⟨history, hRecorded⟩ := recorded_tenWanted
  have hOne : (tenWanted.cache.warmUp .default allButFifty tenWanted.now).warmed = 1 := by
    decide +kernel
  have hFits : ∀ r answer, allButFifty r = .ok answer →
      answer.size ≤ CacheSettings.default.maxMemory := by
    intro r answer hAnswer
    rw [allButFifty] at hAnswer
    split at hAnswer
    · cases hAnswer
    · cases hAnswer
      exact size_empty_le
  refine ⟨⟨history, hRecorded⟩, hOne, ?_⟩
  rw [← (warmed_eq hRecorded allButFifty).2.2 fun v _ answer hAnswer _ => hFits v.2 answer hAnswer]
  exact hOne

def matchAll : Call := ⟨"MATCH (n)", ∅, "\x7b\x7d"⟩

def narrowWanted : Timed :=
  Event.applyAll narrow ⟨.empty, 0⟩ (lookedUpOften matchAll ++ [.invalidate none])

def tooWide (_ : Request) : Except QueryError Answer := .ok (wide 1048577)

theorem cache_step_tooWide (w : WarmUp) (r : Request) :
    (w.step narrow tooWide r).cache = w.cache := by
  rcases WarmUp.step_cases narrow tooWide w r with hSame | ⟨_, _, hSame | ⟨answer, hAnswer, hSet⟩⟩
  · rw [hSame]
  · exact hSame
  · cases hAnswer
    rw [hSet, set_of_large maxMemory_lt_size_wide]

/-- One entry is reported, and none was added. -/
theorem warmed_without_entry :
    (∃ history, Recorded narrow history narrowWanted) ∧
      (narrowWanted.cache.warmUp narrow tooWide narrowWanted.now).warmed = 1 ∧
      (visits narrow tooWide narrowWanted.cache narrowWanted.now).countP
        (WarmUp.adds narrow tooWide) = 0 ∧
      (narrowWanted.cache.warmUp narrow tooWide narrowWanted.now).cache.entries = [] := by
  refine ⟨(Recorded.start 0).exists_applyAll _, by decide +kernel, ?_, ?_⟩
  · rw [List.countP_eq_zero]
    intro v _
    rw [adds_eq_false_of_same (cache_step_tooWide v.1 v.2)]
    exact Bool.false_ne_true
  · refine warmUp_induction (P := fun w => w.cache.entries = []) rfl fun w r hw => ?_
    rw [cache_step_tooWide, hw]

end CodeGraph.Cache
