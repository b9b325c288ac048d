/-! # Stable sorts

A comparison orders the members of a list if it is a total preorder of them. Sorting them stably
leaves them in that order, and those that are equal as they stood. Insertion does this
(`stablySorts_insertionSort`); of a comparison that is no order it makes something too, on which
nothing here relies.
-/

namespace CodeGraph.Query

variable {α : Type}

/-- The comparison is a total preorder of the members. -/
structure Orders (cmp : α → α → Ordering) (xs : List α) : Prop where
  self : ∀ a ∈ xs, cmp a a = .eq
  swap : ∀ a ∈ xs, ∀ b ∈ xs, cmp b a = (cmp a b).swap
  trans : ∀ a ∈ xs, ∀ b ∈ xs, ∀ c ∈ xs, cmp a b ≠ .gt → cmp b c ≠ .gt → cmp a c ≠ .gt

/-- `sorted` has the members in order, and those that are equal as they stood in `xs`. -/
structure StablySorts (cmp : α → α → Ordering) (xs sorted : List α) : Prop where
  perm : sorted.Perm xs
  inOrder : sorted.Pairwise fun a b => cmp a b ≠ .gt
  stable : ∀ a b, [a, b].Sublist xs → cmp a b = .eq → [a, b].Sublist sorted

/-- Puts a member into sorted ones, the last of which stands first: after those at the end that it
precedes. -/
def insertSorted (cmp : α → α → Ordering) (a : α) : List α → List α
  | [] => [a]
  | last :: rest =>
    if cmp a last == .lt then last :: insertSorted cmp a rest else a :: last :: rest

def insertionSort (cmp : α → α → Ordering) (xs : List α) : List α :=
  (xs.foldl (fun sorted a => insertSorted cmp a sorted) []).reverse

/-! ### Insertion is stable -/

variable {cmp : α → α → Ordering} {a b : α} {xs sorted : List α}

theorem swap_ne_gt {o : Ordering} : o.swap ≠ .gt ↔ o ≠ .lt := by
  cases o <;> decide

theorem Orders.mono {fewer : List α} (h : Orders cmp xs) (hFewer : fewer ⊆ xs) :
    Orders cmp fewer where
  self a ha := h.self a (hFewer ha)
  swap a ha b hb := h.swap a (hFewer ha) b (hFewer hb)
  trans a ha b hb c hc := h.trans a (hFewer ha) b (hFewer hb) c (hFewer hc)

theorem insertSorted_perm (cmp : α → α → Ordering) (a : α) (sorted : List α) :
    (insertSorted cmp a sorted).Perm (a :: sorted) := by
  induction sorted with
  | nil => exact .refl _
  | cons last rest ih =>
    rw [insertSorted]
    split
    · exact (ih.cons last).trans (.swap a last rest)
    · exact .refl _

theorem sublist_insertSorted (cmp : α → α → Ordering) (a : α) (sorted : List α) :
    sorted.Sublist (insertSorted cmp a sorted) := by
  induction sorted with
  | nil => exact List.nil_sublist _
  | cons last rest ih =>
    rw [insertSorted]
    split
    · exact ih.cons_cons last
    · exact List.sublist_cons_self a _

theorem pair_sublist_insertSorted (hb : b ∈ sorted) (h : cmp a b ≠ .lt) :
    [a, b].Sublist (insertSorted cmp a sorted) := by
  induction sorted with
  | nil => cases hb
  | cons last rest ih =>
    rw [insertSorted]
    split
    · next hlt =>
      rcases List.mem_cons.1 hb with rfl | hRest
      · exact absurd (beq_iff_eq.1 hlt) h
      · exact (ih hRest).cons last
    · exact (List.singleton_sublist.2 hb).cons_cons a

theorem pairwise_insertSorted (hOrders : Orders cmp (a :: sorted))
    (h : sorted.Pairwise fun c b => cmp b c ≠ .gt) :
    (insertSorted cmp a sorted).Pairwise fun c b => cmp b c ≠ .gt := by
  induction sorted with
  | nil => exact List.pairwise_singleton _ _
  | cons last rest ih =>
    obtain ⟨hLast, hRest⟩ := List.pairwise_cons.1 h
    have ha : a ∈ a :: last :: rest := List.mem_cons_self
    have hMem : ∀ b ∈ last :: rest, b ∈ a :: last :: rest := fun b hb => List.mem_cons_of_mem _ hb
    rw [insertSorted]
    split
    · next hlt =>
      have hFewer : a :: rest ⊆ a :: last :: rest :=
        List.cons_subset_cons a (List.subset_cons_self last rest)
      refine List.pairwise_cons.2 ⟨fun b hb => ?_, ih (hOrders.mono hFewer) hRest⟩
      rcases List.mem_cons.1 ((insertSorted_perm cmp a rest).subset hb) with rfl | hb
      · rw [beq_iff_eq.1 hlt]
        decide
      · exact hLast b hb
    · next hNot =>
      have hLe : cmp last a ≠ .gt := by
        rw [hOrders.swap a ha last (hMem last List.mem_cons_self), swap_ne_gt]
        exact fun hlt => hNot (beq_iff_eq.2 hlt)
      -- what stands before the last is not greater than it, hence than the new member
      refine List.pairwise_cons.2 ⟨fun b hb => ?_, h⟩
      rcases List.mem_cons.1 hb with rfl | hRest
      · exact hLe
      · exact hOrders.trans b (hMem b hb) last (hMem last List.mem_cons_self) a ha
          (hLast b hRest) hLe

theorem pair_sublist_concat {c : α} (h : [b, c].Sublist (xs ++ [a])) :
    [b, c].Sublist xs ∨ b ∈ xs ∧ c = a := by
  have hReverse : [c, b].Sublist (a :: xs.reverse) := by simpa using h.reverse
  rcases List.sublist_cons_iff.1 hReverse with hOld | ⟨back, hSplit, hBack⟩
  · exact Or.inl (by simpa using hOld.reverse)
  · cases hSplit
    exact Or.inr ⟨List.mem_reverse.1 (List.singleton_sublist.1 hBack), rfl⟩

/-- Members that were put in one by one. -/
structure Inserted (cmp : α → α → Ordering) (xs sorted : List α) : Prop where
  perm : sorted.Perm xs
  inOrder : Orders cmp xs → sorted.Pairwise fun c b => cmp b c ≠ .gt
  stable : Orders cmp xs → ∀ b c, [b, c].Sublist xs → cmp b c = .eq → [c, b].Sublist sorted

theorem Inserted.step (h : Inserted cmp xs sorted) (a : α) :
    Inserted cmp (xs ++ [a]) (insertSorted cmp a sorted) := by
  have hPerm : (a :: sorted).Perm (xs ++ [a]) :=
    (h.perm.cons a).trans (@List.perm_append_comm α [a] xs)
  have hBefore : Orders cmp (xs ++ [a]) → Orders cmp xs :=
    fun hOrders => hOrders.mono (List.subset_append_left _ _)
  refine ⟨(insertSorted_perm cmp a sorted).trans hPerm, fun hOrders => ?_, ?_⟩
  · exact pairwise_insertSorted (hOrders.mono hPerm.subset) (h.inOrder (hBefore hOrders))
  · intro hOrders b c hPair hEq
    rcases pair_sublist_concat hPair with hOld | ⟨hb, rfl⟩
    · exact (h.stable (hBefore hOrders) b c hOld hEq).trans (sublist_insertSorted cmp a sorted)
    · refine pair_sublist_insertSorted (h.perm.mem_iff.2 hb) ?_
      rw [hOrders.swap b (List.mem_append_left _ hb) c (by simp), hEq]
      decide

theorem inserted_foldl (rest : List α) (h : Inserted cmp xs sorted) :
    Inserted cmp (xs ++ rest) (rest.foldl (fun sorted a => insertSorted cmp a sorted) sorted) := by
  induction rest generalizing xs sorted with
  | nil => rwa [List.append_nil]
  | cons a rest ih =>
    rw [List.append_cons]
    exact ih (h.step a)

theorem inserted_insertionSort (cmp : α → α → Ordering) (xs : List α) :
    Inserted cmp xs (insertionSort cmp xs).reverse := by
  have hEmpty : Inserted cmp [] [] :=
    ⟨.refl _, fun _ => .nil, fun _ _ _ hPair => by cases hPair⟩
  rw [insertionSort, List.reverse_reverse]
  exact inserted_foldl xs hEmpty

theorem insertionSort_perm (cmp : α → α → Ordering) (xs : List α) :
    (insertionSort cmp xs).Perm xs :=
  (List.reverse_perm _).symm.trans (inserted_insertionSort cmp xs).perm

/-- **Insertion sorts stably.** -/
theorem stablySorts_insertionSort (h : Orders cmp xs) :
    StablySorts cmp xs (insertionSort cmp xs) where
  perm := insertionSort_perm cmp xs
  inOrder := List.pairwise_reverse.1 ((inserted_insertionSort cmp xs).inOrder h)
  stable b c hPair hEq := by
    simpa using ((inserted_insertionSort cmp xs).stable h b c hPair hEq).reverse

end CodeGraph.Query
