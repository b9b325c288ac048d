import CodeGraph.Proofs.Cache.Runs
import CodeGraph.Proofs.Json.Size

/-!
# The answer that was stored last

An answer that fits into the cache takes the place of what was kept under its key, and every call
that asks the same in the same context is then answered from its own entry.  An answer that is
larger than the whole cache leaves the cache as it is, with what was kept under its key
(`set_wins_iff_fits`).
-/

namespace CodeGraph.Cache

variable {settings : CacheSettings} {now : Nat} {c : Cache} {l : Lookup} {answer : Answer}

/-- No entry under the key holds another answer. -/
def HoldsOnly (c : Cache) (key : String) (answer : Answer) : Prop :=
  ∀ p ∈ c.entries, p.1 = key → p.2.answer = { answer with cached := false }

/-! ### Storing -/

theorem set_of_large (h : settings.maxMemory < answer.size) :
    c.set settings now l answer = c := by
  rcases set_eq settings now c l answer with ⟨_, hSet⟩ | ⟨d, _, _, _, hSet⟩
  · exact hSet
  · rw [set, if_pos (by simp [h])]

theorem holdsOnly_put {d : Cache} (l : Lookup) :
    (d.put l.key (l.entry now answer)).HoldsOnly l.key answer := by
  intro p hp hKey
  rcases List.mem_append.1 hp with hOld | hNew
  · have hNe : p.1 ≠ l.key := by simpa using (List.mem_filter.1 hOld).2
    exact absurd hKey hNe
  · rw [List.mem_singleton.1 hNew]
    rfl

theorem lookup_key_eq {call call' : Call} (hSame : call.Same call')
    (hContext : call'.context = call.context) : call'.lookup.key = call.lookup.key := by
  show entryKey (NormalForm.ofText call'.text) (bindings call'.params) call'.context =
    entryKey (NormalForm.ofText call.text) (bindings call.params) call.context
  rw [hSame.1, hSame.2, hContext]

/-- **The last answer wins if it fits.**  After an answer was stored nothing else is kept under its
key, unless it is too large for the cache and something else was kept there before, which then
stays.  If it fits, every call that asks the same in the same context has an entry, and is answered
from that entry and not from a similar one, until the answer expires. -/
theorem set_wins_iff_fits (c : Cache) (now : Nat) (call : Call) (answer : Answer)
    (hOn : settings.enabled = true) :
    ((c.set settings now call.lookup answer).HoldsOnly call.lookup.key answer ↔
        answer.size ≤ settings.maxMemory ∨ c.HoldsOnly call.lookup.key answer) ∧
      (settings.maxMemory < answer.size → c.set settings now call.lookup answer = c) ∧
      (answer.size ≤ settings.maxMemory → ∀ (call' : Call) (later : Nat), call.Same call' →
        call'.context = call.context → later ≤ now + settings.lifetimeMillis →
        (c.set settings now call.lookup answer).contains settings later call'.lookup = true ∧
        ∃ d, (c.set settings now call.lookup answer).get settings later call'.lookup =
            (some { answer with cached := true }, d) ∧
          d.hits = (c.set settings now call.lookup answer).hits + 1 ∧
          d.similarHits = (c.set settings now call.lookup answer).similarHits ∧
          d.misses = (c.set settings now call.lookup answer).misses) := by
  refine ⟨?_, fun hLarge => set_of_large hLarge, ?_⟩
  · by_cases hFits : answer.size ≤ settings.maxMemory
    · obtain ⟨d, _, hSet⟩ := set_of_fits c now call.lookup hOn hFits
      rw [hSet]
      exact ⟨fun _ => Or.inl hFits, fun _ => holdsOnly_put call.lookup⟩
    · rw [set_of_large (Nat.lt_of_not_le hFits)]
      exact ⟨Or.inr, fun h => h.resolve_left hFits⟩
  · intro hFits call' later hSame hContext hLater
    have hFind : (c.set settings now call.lookup answer).find? call'.lookup.key =
        some (call.lookup.entry now answer) := by
      rw [lookup_key_eq hSame hContext]
      exact find?_set c now call.lookup hOn hFits
    have hFresh : (call.lookup.entry now answer).isExpired settings later = false :=
      isExpired_entry hLater
    refine ⟨?_, get_eq_hit hOn hFind hFresh⟩
    rw [contains, hFind, Option.any_some, hFresh]
    rfl

theorem set_wins_iff_fits_second :
    ((empty.set .default 0 matchOne.lookup .empty).set .default 5 matchOne.lookup
        { Answer.empty with totalMatches := 1 }).HoldsOnly matchOne.lookup.key
          { Answer.empty with totalMatches := 1 } ∧
      ∃ d, ((empty.set .default 0 matchOne.lookup .empty).set .default 5 matchOne.lookup
          { Answer.empty with totalMatches := 1 }).get .default 9
            (Call.lookup { matchOne with text := "MATCH  (n) " }) =
        (some { Answer.empty with totalMatches := 1, cached := true }, d) := by
  have hFits : Answer.size { Answer.empty with totalMatches := 1 } ≤
      CacheSettings.default.maxMemory := by decide +kernel
  have hOn : CacheSettings.default.enabled = true := rfl
  have hWins := set_wins_iff_fits (empty.set .default 0 matchOne.lookup .empty) 5 matchOne
    { Answer.empty with totalMatches := 1 } hOn
  have hSame : matchOne.Same { matchOne with text := "MATCH  (n) " } :=
    ⟨by decide +kernel, rfl⟩
  refine ⟨hWins.1.2 (Or.inl hFits), ?_⟩
  obtain ⟨_, d, hGet, _⟩ := hWins.2.2 hFits _ 9 hSame rfl (by decide)
  exact ⟨d, hGet⟩

def narrow : CacheSettings := { CacheSettings.default with maxMemoryMegabytes := 1 }

def wide (width : Nat) : Answer :=
  { Answer.empty with
    nodes := [{ (default : Node) with name := String.ofList (List.replicate width 'x') }] }

theorem le_size_wide (width : Nat) : width ≤ (wide width).size := by
  have hLength := @Answer.length_name_le_size (wide width) _ List.mem_cons_self
  rwa [String.length_ofList, List.length_replicate] at hLength

theorem maxMemory_lt_size_wide : narrow.maxMemory < (wide 1048577).size := by
  have hName : 1048577 ≤ (wide 1048577).size := le_size_wide 1048577
  have hLimit : narrow.maxMemory = 1048576 := rfl
  omega

def narrowOnce : Cache := empty.set narrow 0 matchOne.lookup .empty

/-- An answer that is too large leaves another one under its key, and that one is still given. -/
theorem set_wide_keeps_other :
    Run narrow [⟨matchOne, .empty⟩] ⟨narrowOnce, 0⟩ ∧
      ¬(narrowOnce.set narrow 0 matchOne.lookup (wide 1048577)).HoldsOnly matchOne.lookup.key
        (wide 1048577) ∧
      ((narrowOnce.set narrow 0 matchOne.lookup (wide 1048577)).get narrow 0
        matchOne.lookup).1 = some { Answer.empty with cached := true } := by
  have hFits : Answer.empty.size ≤ narrow.maxMemory := by decide +kernel
  have hOn : narrow.enabled = true := rfl
  obtain ⟨d, hNew, hSet⟩ := set_of_fits empty 0 matchOne.lookup hOn hFits
  rw [set_of_large maxMemory_lt_size_wide, narrowOnce]
  refine ⟨.step (.start 0) (.set matchOne .empty), fun h => ?_, ?_⟩
  · rw [hSet] at h
    have hAnswer := h (matchOne.lookup.key, matchOne.lookup.entry 0 .empty)
      (List.mem_append_right _ List.mem_cons_self) rfl
    have hNodes : ([] : List Node) = (wide 1048577).nodes := congrArg Answer.nodes hAnswer
    cases hNodes
  · exact get_set empty hOn hFits (Nat.zero_le _) rfl

end CodeGraph.Cache
