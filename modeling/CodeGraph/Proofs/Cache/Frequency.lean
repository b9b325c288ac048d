import Mathlib.Algebra.GroupWithZero.Nat
import Mathlib.Algebra.BigOperators.Group.List.Lemmas
import Mathlib.Algebra.Order.BigOperators.Group.List
import Mathlib.Algebra.Order.Group.Nat
import CodeGraph.Cache.Frequency
import CodeGraph.Proofs.Fields
import CodeGraph.Text.Digits

/-!
# What a table of frequencies remembers

A table counts the pattern that is seen and then, if it has become too long, keeps the hundred
patterns that rank first (`record_eq`).  Pruning forgets counts and never adds to one, so a table
knows at most how often a pattern was seen (`count_le`), and it knows exactly that as long as there
were few different patterns (`count_eq_of_few`).

Ranks do not depend on the order in which the entries of a table stand (`ranking_of_perm`): the
patterns that rank first are the same for any order, and fewer of them are a prefix of more.
-/

namespace CodeGraph.Frequency

variable {f g : Frequency} {pattern p : String} {n m : Nat} {a b c : String × Nat}

/-! ### Ranks -/

/-- One pattern ranks above another: it was seen more often, or as often and stands earlier in the
alphabet. -/
def Above (a b : String × Nat) : Prop := b.2 < a.2 ∨ a.2 = b.2 ∧ a.1 < b.1

theorem ranksBefore_iff :
    ranksBefore a b = true ↔ b.2 < a.2 ∨ a.2 = b.2 ∧ a.1 ≤ b.1 := by
  rw [ranksBefore, Bool.or_eq_true, Bool.and_eq_true, decide_eq_true_eq, beq_iff_eq,
    decide_eq_true_eq]

theorem above_of_ranksBefore (h : ranksBefore a b = true) (hNe : a.1 ≠ b.1) : Above a b := by
  rcases ranksBefore_iff.1 h with hMore | ⟨hEqual, hLe⟩
  · exact Or.inl hMore
  · exact Or.inr ⟨hEqual, Std.lt_of_le_of_ne hLe hNe⟩

theorem ranksBefore_trans (hab : ranksBefore a b = true) (hbc : ranksBefore b c = true) :
    ranksBefore a c = true := by
  rw [ranksBefore_iff] at *
  rcases hab with hab | ⟨hab, hName⟩
  · rcases hbc with hbc | ⟨hbc, _⟩
    · exact Or.inl (by omega)
    · exact Or.inl (by omega)
  · rcases hbc with hbc | ⟨hbc, hName'⟩
    · exact Or.inl (by omega)
    · exact Or.inr ⟨hab.trans hbc, String.le_trans hName hName'⟩

theorem ranksBefore_total (a b : String × Nat) : (ranksBefore a b || ranksBefore b a) = true := by
  rw [Bool.or_eq_true, ranksBefore_iff, ranksBefore_iff]
  rcases Nat.lt_trichotomy a.2 b.2 with hlt | heq | hgt
  · exact Or.inr (Or.inl hlt)
  · rcases String.le_total a.1 b.1 with hLe | hLe
    · exact Or.inl (Or.inr ⟨heq, hLe⟩)
    · exact Or.inr (Or.inr ⟨heq.symm, hLe⟩)
  · exact Or.inl (Or.inl hgt)

theorem ranksBefore_antisymm (hab : ranksBefore a b = true) (hba : ranksBefore b a = true) :
    a = b := by
  rw [ranksBefore_iff] at hab hba
  refine Prod.ext ?_ (by omega)
  rcases hab with hab | ⟨_, hab⟩
  · omega
  · rcases hba with hba | ⟨_, hba⟩
    · omega
    · exact String.le_antisymm hab hba

def ranking (f : Frequency) : List (String × Nat) := f.counts.toList.mergeSort ranksBefore

theorem top_eq (f : Frequency) (n : Nat) : f.top n = f.ranking.take n := rfl

theorem ranking_perm (f : Frequency) : f.ranking.Perm f.counts.toList := List.mergeSort_perm _ _

theorem pairwise_ranksBefore (entries : List (String × Nat)) :
    (entries.mergeSort ranksBefore).Pairwise (ranksBefore · · = true) :=
  @List.pairwise_mergeSort _ ranksBefore (fun _ _ _ => ranksBefore_trans) ranksBefore_total entries

/-- **The ranking is the same for any order of the entries.** -/
theorem ranking_of_perm {entries : List (String × Nat)} (h : entries.Perm f.counts.toList) :
    entries.mergeSort ranksBefore = f.ranking := by
  have hPerm : (entries.mergeSort ranksBefore).Perm f.ranking :=
    ((List.mergeSort_perm _ _).trans h).trans f.ranking_perm.symm
  exact hPerm.eq_of_pairwise (fun _ _ _ _ => ranksBefore_antisymm) (pairwise_ranksBefore _)
    (pairwise_ranksBefore _)

theorem nodup_ranking (f : Frequency) : (f.ranking.map (·.1)).Nodup :=
  (f.ranking_perm.map _).nodup_iff.2 f.counts.nodup_names

theorem pairwise_ranking (f : Frequency) : f.ranking.Pairwise Above :=
  ((pairwise_ranksBefore _).and (List.pairwise_map.1 f.nodup_ranking)).imp
    fun ⟨hRank, hNe⟩ => above_of_ranksBefore hRank hNe

/-! ### The patterns that rank first -/

theorem length_top (f : Frequency) (n : Nat) : (f.top n).length = min n f.tracked := by
  rw [top_eq, List.length_take, f.ranking_perm.length_eq, tracked]

theorem mem_counts_of_mem_top (h : a ∈ f.top n) : a ∈ f.counts.toList :=
  f.ranking_perm.mem_iff.1 (List.mem_of_mem_take h)

theorem nodup_top (f : Frequency) (n : Nat) : ((f.top n).map (·.1)).Nodup :=
  f.nodup_ranking.sublist ((List.take_sublist n _).map _)

theorem above_of_not_mem_top (ha : a ∈ f.top n) (hb : b ∈ f.counts.toList) (hNot : b ∉ f.top n) :
    Above a b := by
  have hSplit := f.pairwise_ranking
  rw [← List.take_append_drop n f.ranking, List.pairwise_append] at hSplit
  have hRest : b ∈ f.ranking.drop n := by
    have hMem := f.ranking_perm.mem_iff.2 hb
    rw [← List.take_append_drop n f.ranking, List.mem_append] at hMem
    exact hMem.resolve_left hNot
  exact hSplit.2.2 a ha b hRest

/-- The list is made of the `n` patterns of a table that rank first, with their counts. -/
structure First (f : Frequency) (n : Nat) (list : List (String × Nat)) : Prop where
  length : list.length = min n f.tracked
  distinct : (list.map (·.1)).Nodup
  counted : ∀ entry ∈ list, f.counts.find? entry.1 = some entry.2
  ordered : list.Pairwise Above
  above : ∀ entry ∈ list, ∀ other ∈ f.counts.toList, other ∉ list → Above entry other

theorem first_top (f : Frequency) (n : Nat) : First f n (f.top n) where
  length := f.length_top n
  distinct := f.nodup_top n
  counted _ h := Fields.find?_eq_some_iff.2 (mem_counts_of_mem_top h)
  ordered := f.pairwise_ranking.sublist (List.take_sublist n _)
  above _ h _ hOther hNot := above_of_not_mem_top h hOther hNot

theorem top_prefix (f : Frequency) (h : n ≤ m) : f.top n <+: f.top m := by
  rw [top_eq, top_eq, ← Nat.min_eq_left h, ← List.take_take]
  exact List.take_prefix _ _

/-! ### Pruning -/

/-- One table is what pruning leaves of another: a hundred patterns with their counts, which rank
above all that are dropped. -/
structure PrunedTo (f g : Frequency) : Prop where
  tracked : g.tracked = kept
  left : g.counts.toList ⊆ f.counts.toList
  above : ∀ entry ∈ g.counts.toList, ∀ dropped ∈ f.counts.toList, dropped ∉ g.counts.toList →
    Above entry dropped

theorem toList_prune_perm (f : Frequency) : f.prune.counts.toList.Perm (f.top kept) :=
  Fields.toList_ofList_perm (f.nodup_top kept)

theorem prunedTo_prune (h : kept ≤ f.tracked) : PrunedTo f f.prune where
  tracked := by
    rw [tracked, f.toList_prune_perm.length_eq, length_top, Nat.min_eq_left h]
  left _ hMem := mem_counts_of_mem_top (f.toList_prune_perm.mem_iff.1 hMem)
  above entry hMem dropped hDropped hNot := by
    rw [f.toList_prune_perm.mem_iff] at hMem hNot
    exact above_of_not_mem_top hMem hDropped hNot

theorem count_of_mem (h : (p, n) ∈ f.counts.toList) : f.count p = n := by
  rw [count, Fields.find?_eq_some_iff.2 h, Option.getD_some]

theorem count_of_not_mem (h : p ∉ f.counts.names) : f.count p = 0 := by
  rw [count, Fields.find?, List.lookup_eq_none_iff.2, Option.getD_none]
  intro entry hMem
  rw [bne_iff_ne]
  rintro rfl
  exact h (List.mem_map_of_mem hMem)

theorem mem_of_mem_names (h : p ∈ f.counts.names) : (p, f.count p) ∈ f.counts.toList := by
  obtain ⟨⟨q, n⟩, hMem, rfl⟩ := List.mem_map.1 h
  rw [count_of_mem hMem]
  exact hMem

theorem PrunedTo.count (h : PrunedTo f g) (p : String) :
    p ∈ g.counts.names ∧ g.count p = f.count p ∨ p ∉ g.counts.names ∧ g.count p = 0 := by
  by_cases hMem : p ∈ g.counts.names
  · exact Or.inl ⟨hMem, (count_of_mem (h.left (mem_of_mem_names hMem))).symm⟩
  · exact Or.inr ⟨hMem, count_of_not_mem hMem⟩

/-! ### Counting -/

/-- The table with a pattern counted once more, before it is pruned. -/
def counted (f : Frequency) (pattern : String) : Frequency :=
  ⟨f.counts.insert pattern (f.count pattern + 1), f.total + 1⟩

theorem record_eq (f : Frequency) (pattern : String) : f.record pattern =
    (f.count pattern + 1,
      if capacity < (f.counted pattern).tracked then (f.counted pattern).prune
      else f.counted pattern) := rfl

theorem count_counted (f : Frequency) (pattern p : String) :
    (f.counted pattern).count p = f.count p + if p = pattern then 1 else 0 := by
  rw [count, counted, Fields.find?_insert]
  split
  · next h => rw [h, Option.getD_some]
  · rfl

theorem mem_names_counted :
    p ∈ (f.counted pattern).counts.names ↔ p = pattern ∨ p ∈ f.counts.names := by
  rw [Fields.mem_names_iff, Fields.mem_names_iff, counted, Fields.find?_insert]
  by_cases h : p = pattern
  · simp [h]
  · simp [h]

/-- What a table is after a pattern was counted in it: with room left nothing is forgotten, else it
is pruned. -/
theorem record_cases (f : Frequency) (pattern : String) :
    (f.counted pattern).tracked ≤ capacity ∧ (f.record pattern).2 = f.counted pattern ∨
      capacity < (f.counted pattern).tracked ∧
        PrunedTo (f.counted pattern) (f.record pattern).2 := by
  rw [record_eq]
  by_cases h : capacity < (f.counted pattern).tracked
  · have hKept : kept ≤ (f.counted pattern).tracked := Nat.le_trans (by decide) (Nat.le_of_lt h)
    rw [if_pos h]
    exact Or.inr ⟨h, prunedTo_prune hKept⟩
  · rw [if_neg h]
    exact Or.inl ⟨Nat.le_of_not_lt h, rfl⟩

theorem tracked_record_le (f : Frequency) (pattern : String) :
    (f.record pattern).2.tracked ≤ capacity := by
  rcases f.record_cases pattern with ⟨hRoom, hSame⟩ | ⟨_, hPruned⟩
  · rw [hSame]
    exact hRoom
  · rw [hPruned.tracked]
    decide

theorem count_record_le (f : Frequency) (pattern p : String) :
    (f.record pattern).2.count p ≤ f.count p + if p = pattern then 1 else 0 := by
  rw [← count_counted]
  rcases f.record_cases pattern with ⟨_, hSame⟩ | ⟨_, hPruned⟩
  · rw [hSame]
  · rcases hPruned.count p with ⟨_, hCount⟩ | ⟨_, hCount⟩
    · exact Nat.le_of_eq hCount
    · rw [hCount]
      exact Nat.zero_le _

theorem names_record_subset (f : Frequency) (pattern : String) :
    (f.record pattern).2.counts.names ⊆ (f.counted pattern).counts.names := by
  rcases f.record_cases pattern with ⟨_, hSame⟩ | ⟨_, hPruned⟩
  · rw [hSame]
    exact List.Subset.refl _
  · exact List.map_subset _ hPruned.left

/-! ### Histories -/

def ofSeen (seen : List String) : Frequency :=
  seen.foldl (fun f pattern => (f.record pattern).2) empty

variable {seen : List String}

theorem ofSeen_concat (seen : List String) (pattern : String) :
    ofSeen (seen ++ [pattern]) = ((ofSeen seen).record pattern).2 := by
  rw [ofSeen, List.foldl_append]
  rfl

theorem count_concat (seen : List String) (pattern p : String) :
    (seen ++ [pattern]).count p = seen.count p + if p = pattern then 1 else 0 := by
  rw [List.count_append, List.count_singleton]
  simp only [beq_iff_eq, @eq_comm _ pattern]

theorem tracked_ofSeen_le (seen : List String) : (ofSeen seen).tracked ≤ capacity := by
  rcases List.eq_nil_or_concat seen with rfl | ⟨before, pattern, rfl⟩
  · exact Nat.zero_le _
  · rw [List.concat_eq_append, ofSeen_concat]
    exact tracked_record_le _ _

/-- **A table knows at most how often a pattern was seen.** -/
theorem count_le (seen : List String) (p : String) : (ofSeen seen).count p ≤ seen.count p := by
  induction seen using List.reverseRecOn with
  | nil => exact Nat.zero_le _
  | append_singleton before pattern ih =>
    rw [ofSeen_concat, count_concat]
    exact Nat.le_trans (count_record_le _ pattern p) (Nat.add_le_add_right ih _)

theorem names_ofSeen_subset (seen : List String) : (ofSeen seen).counts.names ⊆ seen := by
  induction seen using List.reverseRecOn with
  | nil => exact List.nil_subset _
  | append_singleton before pattern ih =>
    rw [ofSeen_concat]
    intro p hMem
    rw [List.mem_append, List.mem_singleton]
    rcases mem_names_counted.1 (names_record_subset _ pattern hMem) with hEq | hOld
    · exact Or.inr hEq
    · exact Or.inl (ih hOld)

theorem tracked_le_dedup (h : f.counts.names ⊆ seen) : f.tracked ≤ seen.dedup.length := by
  have hSub : f.counts.names ⊆ seen.dedup := fun _ hMem => List.mem_dedup.2 (h hMem)
  calc f.tracked = f.counts.names.length := (List.length_map _).symm
    _ ≤ seen.dedup.length := (List.subperm_of_subset f.counts.nodup_names hSub).length_le

/-- **As long as few different patterns were seen, nothing is forgotten.** -/
theorem count_eq_of_few (h : seen.dedup.length ≤ capacity) (p : String) :
    (ofSeen seen).count p = seen.count p := by
  induction seen using List.reverseRecOn with
  | nil => rfl
  | append_singleton before pattern ih =>
    have hBefore : before.dedup.length ≤ (before ++ [pattern]).dedup.length := by
      refine (List.subperm_of_subset before.nodup_dedup fun q hMem => ?_).length_le
      exact List.mem_dedup.2 (List.mem_append_left _ (List.mem_dedup.1 hMem))
    have hNames : ((ofSeen before).counted pattern).counts.names ⊆ before ++ [pattern] := by
      intro q hMem
      rw [List.mem_append, List.mem_singleton]
      exact (mem_names_counted.1 hMem).symm.imp_left (names_ofSeen_subset before ·)
    have hRoom := Nat.le_trans (tracked_le_dedup hNames) h
    rcases (ofSeen before).record_cases pattern with ⟨_, hSame⟩ | ⟨hFull, _⟩
    · rw [ofSeen_concat, hSame, count_counted, count_concat, ih (Nat.le_trans hBefore h)]
    · omega

theorem sum_counts_le (seen : List String) :
    ((ofSeen seen).counts.toList.map (·.2)).sum ≤ seen.length := by
  have hSub : (ofSeen seen).counts.names ⊆ seen.dedup :=
    fun _ hMem => List.mem_dedup.2 (names_ofSeen_subset seen hMem)
  obtain ⟨names, hPerm, hSublist⟩ := List.subperm_of_subset (ofSeen seen).counts.nodup_names hSub
  calc ((ofSeen seen).counts.toList.map (·.2)).sum
      ≤ ((ofSeen seen).counts.toList.map fun entry => seen.count entry.1).sum := by
        refine List.sum_le_sum fun entry hMem => ?_
        rw [← count_of_mem hMem]
        exact count_le seen entry.1
    _ = ((ofSeen seen).counts.names.map seen.count).sum := by
        rw [Fields.names, List.map_map]
        rfl
    _ = (names.map seen.count).sum := (hPerm.map _).sum_eq.symm
    _ ≤ (seen.dedup.map seen.count).sum :=
        (hSublist.map _).sum_le_sum fun _ _ => Nat.zero_le _
    _ = seen.length := List.sum_map_count_dedup_eq_length seen

/-! ### One pattern too many -/

theorem mem_names_of_count_ne (h : f.count p ≠ 0) : p ∈ f.counts.names :=
  Decidable.byContradiction fun hNot => h (count_of_not_mem hNot)

theorem count_ofSeen_of_nodup (hLength : seen.length ≤ capacity) (hNodup : seen.Nodup)
    (hMem : p ∈ seen) : (ofSeen seen).count p = 1 := by
  rw [count_eq_of_few (by rwa [hNodup.dedup]), List.count_eq_one_of_mem hNodup hMem]

theorem capacity_lt_tracked (hLength : seen.length = capacity) (hNodup : seen.Nodup)
    (hNew : p ∉ seen) : capacity < ((ofSeen seen).counted p).tracked := by
  have hSub : p :: seen ⊆ ((ofSeen seen).counted p).counts.names := by
    intro other hMem
    rw [mem_names_counted]
    refine (List.mem_cons.1 hMem).imp_right fun hMem => mem_names_of_count_ne ?_
    rw [count_ofSeen_of_nodup (Nat.le_of_eq hLength) hNodup hMem]
    exact Nat.one_ne_zero
  have hLess := (List.subperm_of_subset (List.nodup_cons.2 ⟨hNew, hNodup⟩) hSub).length_le
  rwa [List.length_cons, hLength, Fields.names, List.length_map] at hLess

/-- The patterns `a0` to `a149`. -/
def manyOthers : List String :=
  (List.range 150).map fun i => String.ofList ('a' :: Text.decimal i)

theorem nodup_manyOthers : manyOthers.Nodup := by
  refine List.nodup_range.map fun i j h => ?_
  have hDigits : Text.decimal i = Text.decimal j := List.tail_eq_of_cons_eq (String.ofList_inj.1 h)
  have hValue := congrArg (Nat.ofDigitChars 10 · 0) hDigits
  simpa only [Text.decimal, Nat.ofDigitChars_ten_toDigits] using hValue

theorem lt_of_mem_manyOthers {other : String} (h : other ∈ manyOthers) : other < "b" := by
  obtain ⟨i, _, rfl⟩ := List.mem_map.1 h
  rw [String.lt_iff, String.toList_ofList]
  exact List.Lex.rel (by decide)

theorem length_manyOthers : manyOthers.length = capacity := by
  rw [manyOthers, List.length_map, List.length_range, capacity]

theorem not_mem_manyOthers : "b" ∉ manyOthers :=
  fun h => String.lt_irrefl _ (lt_of_mem_manyOthers h)

/-- **The table after any history.**  It is never longer than its capacity; a call gives the count
before it plus one; counts and their sum are bounded by the calls, and exact while few different
patterns were seen; a call changes the count of its pattern and, where the table has become too
long, prunes it to the hundred that rank first; and the patterns that rank first are listed in the
order of their ranks, fewer of them as a prefix of more, in whatever order the table holds them. -/
theorem table_of_history (seen : List String) :
    (ofSeen seen).tracked ≤ capacity ∧
    (∀ pattern, ((ofSeen seen).record pattern).1 = (ofSeen seen).count pattern + 1) ∧
    (∀ p, (ofSeen seen).count p ≤ seen.count p) ∧
    (seen.dedup.length ≤ capacity → ∀ p, (ofSeen seen).count p = seen.count p) ∧
    ((ofSeen seen).counts.toList.map (·.2)).sum ≤ seen.length ∧
    (∀ pattern, let next := (ofSeen seen).counted pattern
      next.tracked ≤ capacity ∧ ofSeen (seen ++ [pattern]) = next ∨
        capacity < next.tracked ∧ PrunedTo next (ofSeen (seen ++ [pattern]))) ∧
    ∀ n, First (ofSeen seen) n ((ofSeen seen).top n) ∧
      (∀ m, n ≤ m → (ofSeen seen).top n <+: (ofSeen seen).top m) ∧
      ∀ entries : List (String × Nat), entries.Perm (ofSeen seen).counts.toList →
        (entries.mergeSort ranksBefore).take n = (ofSeen seen).top n := by
  refine ⟨tracked_ofSeen_le seen, fun _ => rfl, count_le seen, count_eq_of_few, sum_counts_le seen,
    fun pattern => ?_, fun n => ⟨first_top _ n, fun m h => top_prefix _ h, fun entries h => ?_⟩⟩
  · rw [ofSeen_concat]
    exact record_cases _ pattern
  · rw [ranking_of_perm h, top_eq]

/-- What a table knows of three calls, and lists, whatever order its entries stand in; and what a
pattern does to a table that is full of others. -/
theorem table_of_history_three :
    (ofSeen ["b", "a", "b"]).count "b" = 2 ∧
      (ofSeen ["b", "a", "b"]).top 1 <+: (ofSeen ["b", "a", "b"]).top 2 ∧
      ([("b", 2), ("a", 1)].mergeSort ranksBefore).take 2 = (ofSeen ["b", "a", "b"]).top 2 ∧
      PrunedTo ((ofSeen manyOthers).counted "b") (ofSeen (manyOthers ++ ["b"])) := by
  obtain ⟨_, _, _, hFew, _, _, hTop⟩ := table_of_history ["b", "a", "b"]
  obtain ⟨_, _, _, _, _, hCalls, _⟩ := table_of_history manyOthers
  refine ⟨hFew (by decide) "b", (hTop 1).2.1 2 (by decide), (hTop 2).2.2 _ (by decide), ?_⟩
  rcases hCalls "b" with ⟨hRoom, _⟩ | ⟨_, hPruned⟩
  · have hFull := capacity_lt_tracked length_manyOthers nodup_manyOthers not_mem_manyOthers
    omega
  · exact hPruned

end CodeGraph.Frequency
