import CodeGraph.Proofs.Saved.Runs

/-!
# The file mirrors the registry

A registry that loads a file and then is changed, some of its saves failing, behaves as if none had
failed.  The file keeps its text up to the first save that succeeds, and from then on holds the list
that the registry had at the last one.  A new registry that loads it has this list again, provided
that its queries are `Steady`.

Two things are outside: a registry without a store, whose saves succeed and keep nothing, and
parameters that are nested deeper than a text is read (`mirror_fails`).
-/

namespace CodeGraph.Registry

open Query (Params)

/-! ### Runs with failing saves -/

/-- A change, and whether a save that it makes succeeds. -/
structure Attempt where
  change : Change
  succeeds : Bool

def Attempt.succeeding (a : Attempt) : Attempt := { a with succeeds := true }

/-- A registry with the list that it had at the last successful save. -/
structure Watched where
  registry : Registry
  last : Option (List SavedQuery)

namespace Watched

/-- What one change leaves. A save that fails leaves the store as it was. -/
def next (w : Watched) (a : Attempt) : Watched :=
  let after := (a.change.apply w.registry).2
  if a.succeeds && a.change.saves w.registry then ⟨after, some after.list⟩
  else ⟨{ after with store := w.registry.store }, w.last⟩

/-- The answers to changes one after the other, and what these leave. -/
def run (w : Watched) : List Attempt → List Reply × Watched
  | [] => ([], w)
  | a :: rest =>
    let (replies, final) := (w.next a).run rest
    ((a.change.apply w.registry).1 :: replies, final)

variable {w v : Watched}

theorem queries_next (w : Watched) (a : Attempt) :
    (w.next a).registry.queries = (a.change.apply w.registry).2.queries := by
  unfold next
  dsimp only
  split <;> rfl

/-- **Whether saves fail changes neither the answers nor the queries in memory.** -/
theorem run_same (attempts : List Attempt) (h : w.registry.queries = v.registry.queries) :
    (w.run attempts).1 = (v.run (attempts.map .succeeding)).1 ∧
      (w.run attempts).2.registry.queries =
        (v.run (attempts.map .succeeding)).2.registry.queries := by
  induction attempts generalizing w v with
  | nil => exact ⟨rfl, h⟩
  | cons a rest ih =>
    obtain ⟨hReply, hQueries, -⟩ := @Change.apply_same w.registry a.change v.registry h
    have hNext : (w.next a).registry.queries = (v.next a.succeeding).registry.queries := by
      rw [queries_next, queries_next]
      exact hQueries
    obtain ⟨hReplies, hFinal⟩ := ih hNext
    exact ⟨congrArg₂ _ hReply hReplies, hFinal⟩

/-! ### The file -/

/-- The file holds the last list, which a registry had, or its first text. -/
structure Mirrors (text : Option String) (w : Watched) : Prop where
  keyed : Keyed w.registry.queries
  store : w.registry.store =
    .file (w.last.elim text fun queries => some (SavedQuery.writeList queries))
  listed : ∀ queries, w.last = some queries → ∃ r : Registry, Keyed r.queries ∧ queries = r.list

variable {text : Option String}

theorem Mirrors.next (h : Mirrors text w) (a : Attempt) : Mirrors text (w.next a) := by
  have hKeyed : Keyed (a.change.apply w.registry).2.queries := Change.keyed_apply h.keyed
  unfold Watched.next
  dsimp only
  split
  · next hSaved =>
    have hSaves : a.change.saves w.registry = true := (Bool.and_eq_true_iff.1 hSaved).2
    refine ⟨hKeyed, ?_, fun queries hLast => ⟨_, hKeyed, (Option.some.inj hLast).symm⟩⟩
    exact Change.store_of_saves h.store hSaves
  · exact ⟨hKeyed, h.store, h.listed⟩

theorem Mirrors.run (h : Mirrors text w) (attempts : List Attempt) :
    Mirrors text (w.run attempts).2 := by
  induction attempts generalizing w with
  | nil => exact h
  | cons a rest ih => exact ih (h.next a)

def loaded (store : Store) : Watched := ⟨(onStore store).load.2, none⟩

theorem mirrors_loaded (text : Option String) : Mirrors text (loaded (.file text)) where
  keyed := keyed_load keyed_empty
  store := store_load _
  listed _ h := by cases h

end Watched

/-! ### Loading again -/

/-- **The list of a registry comes back from a file.** -/
theorem load_writeList {r : Registry} (hKeyed : Keyed r.queries)
    (hSteady : ∀ q ∈ r.list, q.Steady) :
    (onStore (.file (some (SavedQuery.writeList r.list)))).load.1 = some r.list.length ∧
      (onStore (.file (some (SavedQuery.writeList r.list)))).load.2.list = r.list := by
  have hRead : Store.load? (.file (some (SavedQuery.writeList r.list))) = some r.list :=
    SavedQuery.readList?_writeList hSteady
  have hLoad : (onStore (.file (some (SavedQuery.writeList r.list)))).load =
      (some r.list.length, ⟨r.queries, .file (some (SavedQuery.writeList r.list))⟩) := by
    simp only [load, onStore, hRead, insertAll_list hKeyed]
  rw [hLoad]
  exact ⟨rfl, rfl⟩

/-! ### One operation -/

theorem delete_of_none {r : Registry} {id : String} (h : r.get? id = none) :
    r.delete id = (false, r) := by
  have hNot : r.queries.contains id = false := by
    rw [Fields.contains_eq_isSome]
    exact Option.isSome_eq_false_iff.2 (Option.isNone_iff_eq_none.2 h)
  rw [delete, hNot]
  rfl

theorem use_of_none {r : Registry} {id : String} (h : r.get? id = none) (overrides : Params)
    (now : Timestamp) : r.use id overrides now = (.error (.savedQueryNotFound id), r) := by
  rw [use, h]

/-- The use of a query gives its text, with parameters in which the call's own take the place of
those that are stored, and changes no other query. -/
theorem use_of_some {r : Registry} {id : String} {q : SavedQuery} (h : r.get? id = some q)
    (overrides : Params) (now : Timestamp) :
    (∃ params, (r.use id overrides now).1 = .ok (q.query, params) ∧
      ∀ name, params.find? name =
        (overrides.find? name).or ((q.parameters.getD ∅).find? name)) ∧
    ∀ other, (r.use id overrides now).2.get? other =
      if other = id then
        some { q with lastUsed := some now, usageCount := (q.usageCount + 1) % UInt64.size }
      else r.get? other := by
  rw [use, h]
  refine ⟨⟨_, rfl, fun name => ?_⟩, fun other => ?_⟩
  · exact Fields.find?_insertAll overrides.nodup_names _ name
  · exact Fields.find?_insert _ _ _ _

/-! ### The mirror -/

/-- **The file mirrors the registry.** -/
theorem file_mirrors_registry (text : Option String) (attempts : List Attempt) :
    let start := Watched.loaded (.file text)
    let ended := (start.run attempts).2
    ((start.run attempts).1 = (start.run (attempts.map .succeeding)).1 ∧
      ended.registry.queries = (start.run (attempts.map .succeeding)).2.registry.queries) ∧
    ended.registry.store =
      .file (ended.last.elim text fun queries => some (SavedQuery.writeList queries)) ∧
    (∀ queries, ended.last = some queries →
      (queries.map (·.id)).Nodup ∧
      queries.Pairwise (fun a b => SavedQuery.listedBefore a b = true) ∧
      ((∀ q ∈ queries, q.Steady) →
        (onStore ended.registry.store).load.1 = some queries.length ∧
        (onStore ended.registry.store).load.2.list = queries)) ∧
    (∀ r : Registry, r.load.1 = none → r.load.2 = r) ∧
    (∀ (r : Registry) id, r.get? id = none → r.delete id = (false, r) ∧
      ∀ overrides now, r.use id overrides now = (.error (.savedQueryNotFound id), r)) ∧
    ∀ (r : Registry) id q overrides now, r.get? id = some q →
      (∃ params, (r.use id overrides now).1 = .ok (q.query, params) ∧
        ∀ name, params.find? name =
          (overrides.find? name).or ((q.parameters.getD ∅).find? name)) ∧
      ∀ other, (r.use id overrides now).2.get? other =
        if other = id then
          some { q with lastUsed := some now, usageCount := (q.usageCount + 1) % UInt64.size }
        else r.get? other := by
  intro start ended
  have hMirrors : Watched.Mirrors text ended := (Watched.mirrors_loaded text).run attempts
  refine ⟨Watched.run_same attempts rfl, hMirrors.store, fun queries hLast => ?_,
    fun r => load_of_none, fun r id h => ⟨delete_of_none h, use_of_none h⟩,
    fun r id q overrides now h => use_of_some h overrides now⟩
  obtain ⟨r, hKeyed, rfl⟩ := hMirrors.listed queries hLast
  refine ⟨nodup_ids_list hKeyed, pairwise_list r, fun hSteady => ?_⟩
  rw [hMirrors.store, hLast]
  exact load_writeList hKeyed hSteady

def kept (parameter : Json) : SavedQuery where
  id := "a"
  name := "files"
  description := ""
  query := "MATCH (n:file)"
  parameters := some (.ofList [("p", parameter)])
  createdAt := .epoch
  lastUsed := none
  usageCount := 0

theorem list_single (q : SavedQuery) (store : Store) :
    list ⟨(∅ : Fields SavedQuery).insert q.id q, store⟩ = [q] :=
  List.mergeSort_singleton q

theorem store_add (q : SavedQuery) :
    ((Watched.loaded (.file none)).run [⟨.add q, true⟩]).2.registry.store =
      .file (some (SavedQuery.writeList [q])) :=
  congrArg (fun queries => Store.file (some (SavedQuery.writeList queries))) (list_single q _)

/-- After a use whose save fails, the file still has the query as it was before. -/
theorem file_mirrors_registry_unsaved :
    let ended := ((Watched.loaded (.file none)).run
      [⟨.add (kept (.integer 5)), true⟩, ⟨.use "a" ∅ ⟨60, 0⟩, false⟩]).2
    (onStore ended.registry.store).load.2.list = [kept (.integer 5)] := by
  intro ended
  have hLast : ended.last = some [kept (.integer 5)] :=
    congrArg some (list_single (kept (.integer 5)) _)
  have hSteady : (kept (.integer 5)).Steady := by
    refine ⟨fun params hParams entry hMem => ?_, by decide +kernel, fun t ht => ?_, by decide⟩
    · cases hParams
      rw [List.mem_singleton.1 hMem]
      exact ⟨rfl, Json.reread_integer ⟨by decide, by decide⟩, rfl⟩
    · cases ht
  have hMirror := file_mirrors_registry none
    [⟨.add (kept (.integer 5)), true⟩, ⟨.use "a" ∅ ⟨60, 0⟩, false⟩]
  have hBack := (hMirror.2.2.1 _ hLast).2.2 fun q hMem => List.mem_singleton.1 hMem ▸ hSteady
  exact hBack.2

def nested : Nat → Json
  | 0 => .null
  | depth + 1 => .array [nested depth]

/-- Without a store a successful save keeps nothing, and a file in which a parameter is nested
`125` deep is not read again. -/
theorem mirror_fails :
    (let ended := ((Watched.loaded .none).run [⟨.add (kept .null), true⟩]).2
     ended.last = some [kept .null] ∧ (onStore ended.registry.store).load.2.list = []) ∧
    (let ended := ((Watched.loaded (.file none)).run [⟨.add (kept (nested 125)), true⟩]).2
     ended.last = some [kept (nested 125)] ∧ (onStore ended.registry.store).load.1 = none) := by
  have hUnread : SavedQuery.readList? (SavedQuery.writeList [kept (nested 125)]) = none := by
    rw [SavedQuery.readList?, SavedQuery.writeList, Json.ofText?_indented, Option.bind_some]
    exact Option.isNone_iff_eq_none.1 (by decide +kernel)
  have hLoad : ∀ store : Store, store.load? = none → (onStore store).load.1 = none :=
    fun store hStore => by rw [load, onStore, hStore]
  refine ⟨⟨congrArg some (list_single _ _), List.mergeSort_nil⟩,
    congrArg some (list_single _ _), hLoad _ ?_⟩
  rw [store_add, Store.load?, Option.elim_some, hUnread]

end CodeGraph.Registry
