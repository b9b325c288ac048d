import CodeGraph.Proofs.Cache.Accounts
import CodeGraph.Proofs.Cache.Frequency
import CodeGraph.Proofs.Double.Halfway

/-!
# Frequent patterns

Up to `2 ^ 53` calls, whether a pattern is frequent is decided as in exact arithmetic from its count
in the table (`isFrequent_iff`).  That count is how often the pattern was seen since a prune dropped
it the last time (`count_since`).  So no pattern is taken for frequent that is not, and one that was
never dropped is frequent exactly if it makes up two percent of all, but one that was dropped has to
earn its place again (`isFrequent_iff_since`).
-/

namespace CodeGraph.Frequency

variable {f : Frequency} {pattern p : String} {seen old recent : List String}

/-- A number of calls is frequent among all: it is at least three and at least two percent. -/
def Frequent (count total : Nat) : Prop := 3 ≤ count ∧ 2 * total ≤ 100 * count

/-- **What the table takes for frequent is so by its own count.** -/
theorem isFrequent_iff (hTotal : f.total ≤ 2 ^ 53) (hCount : f.count p ≤ f.total) :
    f.isFrequent p = true ↔ Frequent (f.count p) f.total := by
  have hSmall := Nat.le_trans hCount hTotal
  rw [isFrequent, Bool.and_eq_true, Double.ofNat_atMost_iff (by decide) hSmall, Frequent]
  refine and_congr_right fun hThree => ?_
  rw [Double.fiftieth_atMost_iff hTotal hSmall (by omega)]
  omega

theorem three_le_of_isFrequent (h : f.isFrequent p = true) : 3 ≤ f.count p := by
  by_contra hLess
  have hSmall : f.count p ≤ 2 ^ 53 := by omega
  rw [isFrequent, Bool.and_eq_true, Double.ofNat_atMost_iff (by decide) hSmall] at h
  exact hLess h.1

theorem total_ofSeen (seen : List String) : (ofSeen seen).total = seen.length := by
  induction seen using List.reverseRecOn with
  | nil => rfl
  | append_singleton before pattern ih =>
    rw [ofSeen_concat, Cache.total_record, ih, List.length_append, List.length_singleton]

theorem isFrequent_ofSeen_iff (h : seen.length ≤ 2 ^ 53) :
    (ofSeen seen).isFrequent p = true ↔ Frequent ((ofSeen seen).count p) seen.length := by
  have hCount : (ofSeen seen).count p ≤ (ofSeen seen).total := by
    rw [total_ofSeen]
    exact Nat.le_trans (count_le seen p) List.count_le_length
  have hFrequent := isFrequent_iff (total_ofSeen seen ▸ h) hCount
  rwa [total_ofSeen] at hFrequent

/-! ### The calls since a pattern was dropped -/

/-- The last call of a history drops a pattern: the prune that it brings leaves the pattern out. -/
def Drops (seen : List String) (p : String) : Prop :=
  ∃ before pattern, seen = before ++ [pattern] ∧
    p ∈ ((ofSeen before).counted pattern).counts.names ∧ p ∉ (ofSeen seen).counts.names

/-- Of a history, `recent` is what came since the pattern was dropped the last time, and all of it
if it never was. -/
structure Since (p : String) (old recent : List String) : Prop where
  dropped : old = [] ∨ Drops old p
  kept : ∀ start, start ≠ [] → start <+: recent → ¬Drops (old ++ start) p

theorem exists_since (seen : List String) (p : String) :
    ∃ old recent, seen = old ++ recent ∧ Since p old recent := by
  induction seen using List.reverseRecOn with
  | nil => exact ⟨[], [], rfl, Or.inl rfl, fun _ hNe h => absurd (List.prefix_nil.1 h) hNe⟩
  | append_singleton before pattern ih =>
    by_cases hDrops : Drops (before ++ [pattern]) p
    · exact ⟨_, [], (List.append_nil _).symm, Or.inr hDrops,
        fun _ hNe h => absurd (List.prefix_nil.1 h) hNe⟩
    · obtain ⟨old, recent, rfl, hSince⟩ := ih
      refine ⟨old, recent ++ [pattern], List.append_assoc .., hSince.dropped, ?_⟩
      intro start hNe hStart
      rcases List.prefix_concat_iff.1 hStart with rfl | hStart
      · rwa [← List.append_assoc]
      · exact hSince.kept start hNe hStart

/-- **A table counts what was seen of a pattern since it was dropped.** -/
theorem count_since (h : Since p old recent) :
    (ofSeen (old ++ recent)).count p = recent.count p := by
  induction recent using List.reverseRecOn with
  | nil =>
    rw [List.append_nil, List.count_nil]
    rcases h.dropped with rfl | ⟨_, _, _, _, hGone⟩
    · rfl
    · exact count_of_not_mem hGone
  | append_singleton before pattern ih =>
    have hBefore := ih ⟨h.dropped, fun start hNe hStart =>
      h.kept start hNe (hStart.trans (List.prefix_append _ _))⟩
    have hCounted : ((ofSeen (old ++ before)).counted pattern).count p =
        (before ++ [pattern]).count p := by
      rw [count_counted, hBefore, count_concat]
    rw [← List.append_assoc, ofSeen_concat, ← hCounted]
    rcases (ofSeen (old ++ before)).record_cases pattern with ⟨_, hSame⟩ | ⟨_, hPruned⟩
    · rw [hSame]
    · rcases hPruned.count p with ⟨_, hCount⟩ | ⟨hGone, hCount⟩
      · exact hCount
      · -- what this prune leaves out was not in the table before it either
        have hNot : p ∉ ((ofSeen (old ++ before)).counted pattern).counts.names := fun hMem =>
          h.kept (before ++ [pattern]) (by simp) List.prefix_rfl
            ⟨old ++ before, pattern, (List.append_assoc ..).symm, hMem,
              by rwa [← List.append_assoc, ofSeen_concat]⟩
        rw [hCount, count_of_not_mem hNot]

theorem Drops.tracked (h : Drops old p) : (ofSeen old).tracked = kept := by
  obtain ⟨before, pattern, rfl, hMem, hGone⟩ := h
  rw [ofSeen_concat] at hGone ⊢
  rcases (ofSeen before).record_cases pattern with ⟨_, hSame⟩ | ⟨_, hPruned⟩
  · rw [hSame] at hGone
    exact absurd hMem hGone
  · exact hPruned.tracked

theorem tracked_counted_le (f : Frequency) (pattern : String) :
    (f.counted pattern).tracked ≤ f.tracked + 1 := by
  have hSub : (f.counted pattern).counts.names ⊆ pattern :: f.counts.names :=
    fun _ hMem => List.mem_cons.2 (mem_names_counted.1 hMem)
  have hLength := (List.subperm_of_subset (Fields.nodup_names _) hSub).length_le
  rwa [List.length_cons, Fields.names, Fields.names, List.length_map, List.length_map] at hLength

theorem tracked_append_le (old recent : List String) :
    (ofSeen (old ++ recent)).tracked ≤ (ofSeen old).tracked + recent.length := by
  induction recent using List.reverseRecOn with
  | nil => rw [List.append_nil, List.length_nil, Nat.add_zero]
  | append_singleton before pattern ih =>
    have hStep : (ofSeen (old ++ (before ++ [pattern]))).tracked ≤
        ((ofSeen (old ++ before)).counted pattern).tracked := by
      rw [← List.append_assoc, ofSeen_concat]
      rcases (ofSeen (old ++ before)).record_cases pattern with ⟨_, hSame⟩ | ⟨hFull, hPruned⟩
      · rw [hSame]
      · rw [hPruned.tracked]
        exact Nat.le_trans (by decide) (Nat.le_of_lt hFull)
    have hCounted := (ofSeen (old ++ before)).tracked_counted_le pattern
    rw [List.length_append, List.length_singleton]
    omega

/-- Within fifty calls of a prune there is no other. -/
theorem since_of_drops (h : Drops old p) (hShort : recent.length ≤ 50) : Since p old recent where
  dropped := Or.inr h
  kept := by
    rintro start hNe hStart ⟨before, pattern, hSplit, hMem, hGone⟩
    obtain ⟨front, last, rfl⟩ := List.eq_nil_or_concat' start |>.resolve_left hNe
    rw [← List.append_assoc] at hSplit hGone
    obtain ⟨rfl, hLast⟩ := List.append_inj' hSplit rfl
    cases hLast
    have hFront : front.length < recent.length := by
      have hLength := hStart.length_le
      rwa [List.length_append, List.length_singleton] at hLength
    have hTracked := tracked_append_le old front
    have hCounted := (ofSeen (old ++ front)).tracked_counted_le pattern
    have hCapacity : kept + 50 = capacity := rfl
    rw [h.tracked] at hTracked
    rw [ofSeen_concat] at hGone
    rcases (ofSeen (old ++ front)).record_cases pattern with ⟨_, hSame⟩ | ⟨hFull, _⟩
    · rw [hSame] at hGone
      exact hGone hMem
    · omega

theorem Frequent.mono {count more total : Nat} (h : Frequent count total) (hMore : count ≤ more) :
    Frequent more total := by
  obtain ⟨hThree, hShare⟩ := h
  exact ⟨by omega, by omega⟩

/-- **A pattern is frequent if it was seen often enough since it was dropped the last time.**  So
what is taken for frequent was seen often enough, and the reverse holds too as long as few different
patterns were seen. -/
theorem isFrequent_iff_since (seen : List String) (h : seen.length ≤ 2 ^ 53) (p : String) :
    (∃ old recent, seen = old ++ recent ∧ Since p old recent) ∧
    (∀ old recent, seen = old ++ recent → Since p old recent →
      ((ofSeen seen).isFrequent p = true ↔ Frequent (recent.count p) seen.length)) ∧
    ((ofSeen seen).isFrequent p = true → Frequent (seen.count p) seen.length) ∧
    (seen.dedup.length ≤ capacity →
      ((ofSeen seen).isFrequent p = true ↔ Frequent (seen.count p) seen.length)) := by
  refine ⟨exists_since seen p, ?_, ?_, ?_⟩
  · rintro old recent rfl hSince
    rw [isFrequent_ofSeen_iff h, count_since hSince]
  · intro hFrequent
    exact ((isFrequent_ofSeen_iff h).1 hFrequent).mono (count_le seen p)
  · intro hFew
    rw [isFrequent_ofSeen_iff h, count_eq_of_few hFew]

/-! ### Patterns that are dropped -/

theorem PrunedTo.exists_dropped {g : Frequency} (h : PrunedTo f g) (hFull : capacity < f.tracked) :
    ∃ entry ∈ f.counts.toList, entry ∉ g.counts.toList := by
  by_contra hNone
  have hSub : f.counts.toList ⊆ g.counts.toList :=
    fun entry hMem => by_contra fun hNot => hNone ⟨entry, hMem, hNot⟩
  have hLe : f.tracked ≤ g.tracked :=
    (List.subperm_of_subset (.of_map _ f.counts.nodup_names) hSub).length_le
  have hKept : kept ≤ capacity := by decide
  rw [h.tracked] at hLe
  omega

/-- In a table that is full of other patterns, all of them earlier in the alphabet, a new pattern is
dropped at once. -/
theorem drops_of_last {others : List String} (hLength : others.length = capacity)
    (hNodup : others.Nodup) (hLess : ∀ other ∈ others, other < p) : Drops (others ++ [p]) p := by
  have hNew : p ∉ others := fun hMem => String.lt_irrefl p (hLess p hMem)
  have hFull := capacity_lt_tracked hLength hNodup hNew
  refine ⟨others, p, rfl, mem_names_counted.2 (Or.inl rfl), fun hKept => ?_⟩
  rw [ofSeen_concat] at hKept
  rcases (ofSeen others).record_cases p with ⟨hRoom, _⟩ | ⟨_, hPruned⟩
  · omega
  · -- some other pattern must have been dropped in its place, but all of them rank above it
    have hOne : ((ofSeen others).counted p).count p = 1 := by
      rw [count_counted, count_of_not_mem fun h => hNew (names_ofSeen_subset others h), if_pos rfl]
    have hCount : ((ofSeen others).record p).2.count p = ((ofSeen others).counted p).count p :=
      (hPruned.count p).elim (·.2) fun hGone => absurd hKept hGone.1
    obtain ⟨⟨other, n⟩, hMem, hNot⟩ := hPruned.exists_dropped hFull
    have hEntry := mem_of_mem_names hKept
    rw [hCount, hOne] at hEntry
    have hAbove := hPruned.above _ hEntry _ hMem hNot
    rcases mem_names_counted.1 (List.mem_map_of_mem hMem) with rfl | hOther
    · rw [← count_of_mem hMem, hOne] at hNot
      exact hNot hEntry
    · have hIn := names_ofSeen_subset others hOther
      have hSame : ((ofSeen others).counted p).count other = 1 := by
        rw [count_counted, count_ofSeen_of_nodup (Nat.le_of_eq hLength) hNodup hIn,
          if_neg (by rintro rfl; exact hNew hIn)]
      rw [← count_of_mem hMem, hSame] at hAbove
      rcases hAbove with hMore | ⟨_, hLater⟩
      · exact Nat.lt_irrefl _ hMore
      · exact String.lt_irrefl _ (String.lt_trans hLater (hLess other hIn))

theorem drops_manyOthers : Drops (manyOthers ++ ["b"]) "b" :=
  drops_of_last length_manyOthers nodup_manyOthers fun _ => lt_of_mem_manyOthers

/-- A pattern that was seen three times of four is frequent; and so is one that a prune dropped and
that was seen four times after it, of a hundred and fifty-five calls. -/
theorem isFrequent_iff_since_four :
    (ofSeen ["a", "b", "a", "a"]).isFrequent "a" = true ∧
      (ofSeen (manyOthers ++ ["b"] ++ List.replicate 4 "b")).isFrequent "b" = true := by
  have hFew := (isFrequent_iff_since ["a", "b", "a", "a"] (by decide) "a").2.2.2 (by decide)
  have hLength : (manyOthers ++ ["b"] ++ List.replicate 4 "b").length = 155 := by
    rw [List.length_append, List.length_append, length_manyOthers]
    rfl
  have hSince : Since "b" (manyOthers ++ ["b"]) (List.replicate 4 "b") :=
    since_of_drops drops_manyOthers (by decide)
  have hLate := (isFrequent_iff_since _ (by rw [hLength]; decide) "b").2.1 _ _ rfl hSince
  refine ⟨hFew.2 ⟨by decide, by decide⟩, hLate.2 ?_⟩
  rw [List.count_replicate_self, hLength]
  exact ⟨by decide, by decide⟩

/-- A hundred and fifty patterns that are seen once, and one after them that is seen four times. -/
def lateFour : List String := manyOthers ++ ["b"] ++ List.replicate 3 "b"

theorem length_lateFour : lateFour.length = 154 := by
  rw [lateFour, List.length_append, List.length_append, length_manyOthers]
  rfl

theorem count_ofSeen_lateFour : (ofSeen lateFour).count "b" = 3 := by
  rw [lateFour, count_since (since_of_drops drops_manyOthers (by decide)),
    List.count_replicate_self]

theorem count_lateFour : lateFour.count "b" = 4 := by
  rw [lateFour, List.count_append, List.count_append, List.count_eq_zero.2 not_mem_manyOthers,
    List.count_replicate_self]
  rfl

/-- A history of more than `2 ^ 53` calls, of which just less than a fiftieth are for `a`. -/
def longHistory : List String :=
  List.replicate 180143985094820 "a" ++ List.replicate 8827055269646181 "b"

theorem length_longHistory : longHistory.length = 9007199254741001 := by
  rw [longHistory, List.length_append, List.length_replicate, List.length_replicate]

theorem count_longHistory : longHistory.count "a" = 180143985094820 := by
  rw [longHistory, List.count_append, List.count_replicate_self, List.count_replicate,
    if_neg (by decide), Nat.add_zero]

theorem few_longHistory : longHistory.dedup.length ≤ capacity := by
  have hSub : longHistory.dedup ⊆ ["a", "b"] := by
    intro pattern hMem
    rcases List.mem_append.1 (List.mem_dedup.1 hMem) with hMem | hMem
    · rw [List.eq_of_mem_replicate hMem]
      exact List.mem_cons_self
    · rw [List.eq_of_mem_replicate hMem]
      exact List.mem_cons_of_mem _ List.mem_cons_self
  exact Nat.le_trans (List.subperm_of_subset longHistory.nodup_dedup hSub).length_le (by decide)

/-- A pattern that was seen four times of a hundred and fifty-four is missed, as the table dropped
it the first time.  And beyond `2 ^ 53` calls their number is rounded, so that a pattern is taken
for frequent with less than two percent. -/
theorem isFrequent_departs :
    ((ofSeen lateFour).isFrequent "b" = false ∧
      Frequent (lateFour.count "b") lateFour.length) ∧
    (ofSeen longHistory).isFrequent "a" = true ∧
      ¬Frequent (longHistory.count "a") longHistory.length := by
  refine ⟨⟨?_, ?_⟩, ?_, ?_⟩
  · rw [Bool.eq_false_iff, ne_eq, isFrequent_ofSeen_iff (by rw [length_lateFour]; decide),
      length_lateFour]
    rw [count_ofSeen_lateFour]
    rintro ⟨_, hShare⟩
    omega
  · rw [count_lateFour, length_lateFour]
    exact ⟨by decide, by decide⟩
  · rw [isFrequent, count_eq_of_few few_longHistory, count_longHistory, total_ofSeen,
      length_longHistory]
    decide +kernel
  · rw [count_longHistory, length_longHistory]
    rintro ⟨_, hShare⟩
    omega

end CodeGraph.Frequency
