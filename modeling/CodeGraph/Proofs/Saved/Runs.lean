import CodeGraph.Proofs.Saved.RoundTrip
import CodeGraph.Proofs.Value.Order
import CodeGraph.Saved.Registry

/-!
# Changes of a registry

A registry is changed by keeping a query, deleting one and recording the use of one.  A change that
finds its query is saved: the store gets the list that the registry then has (`apply_of_saves`).
Any other leaves everything as it was (`apply_of_not_saves`).  What a change answers and what it
makes of the queries does not depend on the store (`apply_same`).

Each query stands under its own identifier (`Keyed`), so the list of a registry has no identifier
twice, and its queries put together again are the registry's (`insertAll_list`).
-/

namespace CodeGraph

open Query (Params)

/-! ### The order of lists -/

namespace SavedQuery

def compareListed (a b : SavedQuery) : Ordering :=
  (a.createdAt.compare b.createdAt).then (compare a.id b.id)

def compareAge (a b : SavedQuery) : Ordering := a.createdAt.compare b.createdAt

instance transCmp_compareAge : Std.TransCmp compareAge where
  eq_swap {a b} := @Std.OrientedCmp.eq_swap _ Timestamp.compare _ a.createdAt b.createdAt
  isLE_trans {a b c} :=
    @Std.TransCmp.isLE_trans _ Timestamp.compare _ a.createdAt b.createdAt c.createdAt

instance transCmp_compareListed : Std.TransCmp compareListed :=
  inferInstanceAs (Std.TransCmp (compareLex compareAge (compareOn SavedQuery.id)))

theorem listedBefore_trans (a b c : SavedQuery) (hab : listedBefore a b = true)
    (hbc : listedBefore b c = true) : listedBefore a c = true :=
  @Std.TransCmp.isLE_trans _ compareListed _ _ _ _ hab hbc

theorem listedBefore_total (a b : SavedQuery) :
    (listedBefore a b || listedBefore b a) = true := by
  have hSwap : compareListed a b = (compareListed b a).swap := Std.OrientedCmp.eq_swap
  show ((compareListed a b).isLE || (compareListed b a).isLE) = true
  rw [hSwap]
  cases compareListed b a <;> rfl

end SavedQuery

namespace Registry

variable {queries : Fields SavedQuery} {r : Registry}

/-! ### Lists -/

def Keyed (queries : Fields SavedQuery) : Prop := ∀ entry ∈ queries.toList, entry.2.id = entry.1

theorem list_perm (r : Registry) : r.list.Perm (r.queries.toList.map (·.2)) :=
  List.mergeSort_perm _ _

theorem entries_list_perm (h : Keyed r.queries) :
    (r.list.map fun q => (q.id, q)).Perm r.queries.toList := by
  have hEntries : (r.queries.toList.map (·.2)).map (fun q => (q.id, q)) = r.queries.toList := by
    rw [List.map_map]
    conv_rhs => rw [← List.map_id r.queries.toList]
    exact List.map_congr_left fun entry hMem => Prod.ext (h entry hMem) rfl
  rw [← hEntries]
  exact r.list_perm.map _

theorem insertAll_list (h : Keyed r.queries) :
    (∅ : Fields SavedQuery).insertAll (r.list.map fun q => (q.id, q)) = r.queries :=
  Fields.insertAll_perm (entries_list_perm h)

theorem ids_list_perm (h : Keyed r.queries) : (r.list.map (·.id)).Perm r.queries.names := by
  have hPerm := (entries_list_perm h).map (·.1)
  rwa [List.map_map] at hPerm

theorem nodup_ids_list (h : Keyed r.queries) : (r.list.map (·.id)).Nodup :=
  (ids_list_perm h).nodup_iff.2 r.queries.nodup_names

theorem mem_ids_list (h : Keyed r.queries) {id : String} :
    id ∈ r.list.map (·.id) ↔ r.queries.contains id = true := by
  rw [(ids_list_perm h).mem_iff, Fields.names, Fields.contains, List.any_eq_true, List.mem_map]
  simp only [beq_iff_eq]

theorem pairwise_list (r : Registry) :
    r.list.Pairwise fun a b => SavedQuery.listedBefore a b = true :=
  List.pairwise_mergeSort SavedQuery.listedBefore_trans SavedQuery.listedBefore_total _

/-! ### Keys -/

theorem keyed_empty : Keyed ∅ := fun _ h => absurd h List.not_mem_nil

theorem keyed_insert (h : Keyed queries) {id : String} {q : SavedQuery} (hq : q.id = id) :
    Keyed (queries.insert id q) := by
  intro entry hMem
  rcases Fields.mem_insertEntry hMem with rfl | hMem
  · exact hq
  · exact h entry hMem

theorem keyed_erase (h : Keyed queries) (id : String) : Keyed (queries.erase id) :=
  fun entry hMem => h entry (List.mem_filter.1 hMem).1

theorem keyed_insertAll (h : Keyed queries) (list : List SavedQuery) :
    Keyed (queries.insertAll (list.map fun q => (q.id, q))) := by
  intro entry hMem
  rcases Fields.mem_insertAll hMem with hMem | hMem
  · exact h entry hMem
  · obtain ⟨q, _, rfl⟩ := List.mem_map.1 hMem
    rfl

theorem id_of_get? (h : Keyed r.queries) {id : String} {q : SavedQuery} (hq : r.get? id = some q) :
    q.id = id :=
  h _ (Fields.find?_eq_some_iff.1 hq)

theorem keyed_load (h : Keyed r.queries) : Keyed r.load.2.queries := by
  rw [load]
  split
  · exact keyed_insertAll h _
  · exact h

/-! ### Loading -/

theorem store_load (r : Registry) : r.load.2.store = r.store := by
  rw [load]
  split <;> rfl

theorem load_of_none (h : r.load.1 = none) : r.load.2 = r := by
  unfold load at h ⊢
  split
  · next hLoad =>
    rw [hLoad] at h
    cases h
  · rfl

theorem load_of_some {list : List SavedQuery} (h : r.store.load? = some list) :
    r.load.1 = some list.length := by
  rw [load, h]

/-! ### Changes -/

/-- What changes a registry. -/
inductive Change where
  | add (q : SavedQuery)
  | delete (id : String)
  | use (id : String) (overrides : Params) (now : Timestamp)

inductive Reply where
  | added (id : String)
  | deleted (found : Bool)
  | used (result : Except QueryError (String × Params))

namespace Change

def apply : Change → Registry → Reply × Registry
  | add q, r => (.added q.id, r.add q)
  | delete id, r => (.deleted (r.delete id).1, (r.delete id).2)
  | use id overrides now, r => (.used (r.use id overrides now).1, (r.use id overrides now).2)

/-- Whether the change is saved: a query that is deleted or used must be there. -/
def saves : Change → Registry → Bool
  | add _, _ => true
  | delete id, r => r.queries.contains id
  | use id _ _, r => r.queries.contains id

variable {c : Change}

theorem get?_of_contains {id : String} (h : r.queries.contains id = true) :
    ∃ q, r.get? id = some q := by
  rw [Fields.contains_eq_isSome] at h
  exact Option.isSome_iff_exists.1 h

theorem get?_of_not_contains {id : String} (h : r.queries.contains id = false) :
    r.get? id = none := by
  rw [Fields.contains_eq_isSome] at h
  exact Option.isSome_eq_false_iff.1 h |> Option.isNone_iff_eq_none.1

def queriesAfter : Change → Registry → Fields SavedQuery
  | add q, r => r.queries.insert q.id q
  | delete id, r => r.queries.erase id
  | use id _ now, r => match r.get? id with
    | some q => r.queries.insert id (q.usedAt now)
    | none => r.queries

/-- **A change that is saved leaves a registry whose store was given its list.** -/
theorem apply_of_saves (h : c.saves r = true) :
    (c.apply r).2 = persist ⟨c.queriesAfter r, r.store⟩ := by
  cases c with
  | add q => rfl
  | delete id =>
    simp only [apply, Registry.delete, show r.queries.contains id = true from h]
    rfl
  | use id overrides now =>
    obtain ⟨q, hq⟩ := get?_of_contains h
    simp only [apply, Registry.use, queriesAfter, hq]

theorem store_of_saves {text : Option String} (hText : r.store = .file text)
    (h : c.saves r = true) :
    (c.apply r).2.store = .file (some (SavedQuery.writeList (c.apply r).2.list)) := by
  rw [apply_of_saves h, persist, hText]
  rfl

/-- **Any other change leaves the registry and its store as they were.** -/
theorem apply_of_not_saves (h : c.saves r = false) : (c.apply r).2 = r := by
  cases c with
  | add q => cases h
  | delete id =>
    simp only [apply, Registry.delete, show r.queries.contains id = false from h]
    rfl
  | use id overrides now => simp only [apply, Registry.use, get?_of_not_contains h]

theorem keyed_apply (h : Keyed r.queries) : Keyed (c.apply r).2.queries := by
  by_cases hSaves : c.saves r = true
  · rw [apply_of_saves hSaves]
    show Keyed (c.queriesAfter r)
    cases c with
    | add q => exact keyed_insert h rfl
    | delete id => exact keyed_erase h id
    | use id overrides now =>
      obtain ⟨q, hq⟩ := get?_of_contains hSaves
      have hId := id_of_get? h hq
      simp only [queriesAfter, hq]
      exact keyed_insert h hId
  · rw [apply_of_not_saves (Bool.eq_false_iff.2 hSaves)]
    exact h

/-- **Registries with the same queries answer the same and have the same queries afterwards.** -/
theorem apply_same {s : Registry} (h : r.queries = s.queries) :
    (c.apply r).1 = (c.apply s).1 ∧ (c.apply r).2.queries = (c.apply s).2.queries ∧
      c.saves r = c.saves s := by
  obtain ⟨queries, store⟩ := r
  obtain ⟨queries', store'⟩ := s
  obtain rfl : queries = queries' := h
  cases c with
  | add q => exact ⟨rfl, rfl, rfl⟩
  | delete id =>
    simp only [apply, Registry.delete]
    split <;> exact ⟨rfl, rfl, rfl⟩
  | use id overrides now =>
    simp only [apply, Registry.use, Registry.get?]
    split <;> exact ⟨rfl, rfl, rfl⟩

end Change

end Registry

end CodeGraph
