import CodeGraph.Proofs.Saved.Runs

/-!
# What a file loses

Every saved change writes the queries in memory over the whole file.  So a query that is in the file
is lost by a change that is saved while the registry does not hold it, and in no other way
(`mem_ids_of_saves`, `store_of_not_saves`).  A registry that has loaded the file holds all that is
in it, and keeps holding it (`Covers`): where each registry loads the file with success before it
first saves, a query stays until it is deleted.  One that saves before it has loaded loses what was
there (`save_before_load_loses`).
-/

namespace CodeGraph.Registry

open Query (Params)

/-- What happens to the registries of one store. -/
inductive Event where
  /-- A new registry takes the place of the last. -/
  | reopen
  | load
  | change (c : Change)

namespace Event

def apply : Event → Registry → Registry
  | reopen, r => onStore r.store
  | load, r => r.load.2
  | change c, r => (c.apply r).2

def saves : Event → Registry → Bool
  | change c, r => c.saves r
  | _, _ => false

def Deletes (e : Event) (id : String) : Prop := e = change (.delete id)

/-- Whether the registry after the event has loaded its store with success. -/
def loadedAfter (loaded : Bool) (r : Registry) : Event → Bool
  | reopen => false
  | load => loaded || r.load.1.isSome
  | change _ => loaded

end Event

def after (r : Registry) (events : List Event) : Registry := events.foldl (fun r e => e.apply r) r

/-- No registry is saved that has not loaded its store. -/
def LoadsFirst (loaded : Bool) (r : Registry) : List Event → Prop
  | [] => True
  | e :: rest => (e.saves r = true → loaded = true) ∧
      LoadsFirst (e.loadedAfter loaded r) (e.apply r) rest

def fileIds (store : Store) : List String := store.fileText?.elim [] SavedQuery.idsIn

variable {r : Registry} {e : Event} {id : String} {loaded : Bool}

/-- The registry has a file for its store, and each query under its own identifier. -/
structure OnFile (r : Registry) : Prop where
  file : ∃ text, r.store = .file text
  keyed : Keyed r.queries

/-! ### One event -/

theorem onFile_onStore (text : Option String) : OnFile (onStore (.file text)) :=
  ⟨⟨text, rfl⟩, keyed_empty⟩

theorem OnFile.apply (h : OnFile r) (e : Event) : OnFile (e.apply r) := by
  obtain ⟨⟨text, hText⟩, hKeyed⟩ := h
  cases e with
  | reopen => exact ⟨⟨text, hText⟩, keyed_empty⟩
  | load => exact ⟨⟨text, (store_load r).trans hText⟩, keyed_load hKeyed⟩
  | change c =>
    refine ⟨?_, Change.keyed_apply hKeyed⟩
    by_cases hSaves : c.saves r = true
    · exact ⟨_, Change.store_of_saves hText hSaves⟩
    · rw [Event.apply, Change.apply_of_not_saves (Bool.eq_false_iff.2 hSaves)]
      exact ⟨text, hText⟩

/-- **An event that saves leaves in the file what the registry then holds.** -/
theorem mem_ids_of_saves (h : OnFile r) (hSaves : e.saves r = true) :
    id ∈ fileIds (e.apply r).store ↔ (e.apply r).queries.contains id = true := by
  obtain ⟨⟨text, hText⟩, hKeyed⟩ := h
  cases e with
  | reopen => cases hSaves
  | load => cases hSaves
  | change c =>
    have hKeyedAfter : Keyed (c.apply r).2.queries := Change.keyed_apply hKeyed
    rw [Event.apply, ← mem_ids_list hKeyedAfter, Change.store_of_saves hText hSaves,
      ← SavedQuery.idsIn_writeList]
    rfl

/-- **Any other event leaves the store as it was.** -/
theorem store_of_not_saves (hSaves : e.saves r = false) : (e.apply r).store = r.store := by
  cases e with
  | reopen => rfl
  | load => exact store_load r
  | change c => rw [Event.apply, Change.apply_of_not_saves hSaves]

/-- **A query in the file is lost by a save of a registry that does not hold it.** -/
theorem lost_iff (h : OnFile r) (hId : id ∈ fileIds r.store) :
    id ∉ fileIds (e.apply r).store ↔
      e.saves r = true ∧ (e.apply r).queries.contains id = false := by
  by_cases hSaves : e.saves r = true
  · rw [mem_ids_of_saves h hSaves]
    simp [hSaves]
  · rw [store_of_not_saves (Bool.eq_false_iff.2 hSaves)]
    simp [hSaves, hId]

/-! ### Registries that have loaded their file -/

def Covers (r : Registry) : Prop := ∀ id ∈ fileIds r.store, r.queries.contains id = true

theorem contains_insert (queries : Fields SavedQuery) (q : SavedQuery) (key : String) :
    (queries.insert key q).contains id = (id == key || queries.contains id) := by
  rw [Fields.contains_eq_isSome, Fields.contains_eq_isSome, Fields.find?_insert]
  by_cases h : id = key <;> simp [h]

theorem contains_apply (hHeld : r.queries.contains id = true) {c : Change}
    (hKept : c ≠ .delete id) : (c.apply r).2.queries.contains id = true := by
  by_cases hSaves : c.saves r = true
  · rw [Change.apply_of_saves hSaves]
    show (c.queriesAfter r).contains id = true
    cases c with
    | add q => rw [Change.queriesAfter, contains_insert, hHeld, Bool.or_true]
    | delete other =>
      have hNe : ¬id = other := fun h => hKept (h ▸ rfl)
      rw [Change.queriesAfter, Fields.contains_eq_isSome, Fields.find?_erase, if_neg hNe,
        ← Fields.contains_eq_isSome, hHeld]
    | use other overrides now =>
      obtain ⟨q, hq⟩ := Change.get?_of_contains hSaves
      simp only [Change.queriesAfter, hq]
      rw [contains_insert, hHeld, Bool.or_true]
  · rw [Change.apply_of_not_saves (Bool.eq_false_iff.2 hSaves), hHeld]

theorem contains_insertAll (queries : Fields SavedQuery) (list : List SavedQuery) :
    (queries.insertAll (list.map fun q => (q.id, q))).contains id = true ↔
      queries.contains id = true ∨ id ∈ list.map (·.id) := by
  induction list generalizing queries with
  | nil => simp [Fields.insertAll]
  | cons q list ih =>
    have hStep : queries.insertAll ((q :: list).map fun q => (q.id, q)) =
        (queries.insert q.id q).insertAll (list.map fun q => (q.id, q)) := rfl
    rw [hStep, ih, contains_insert, List.map_cons, List.mem_cons, Bool.or_eq_true, beq_iff_eq]
    tauto

theorem covers_load (h : OnFile r) (hLoad : r.load.1.isSome = true) : Covers r.load.2 := by
  obtain ⟨⟨text, hText⟩, -⟩ := h
  intro id hId
  rw [store_load, hText] at hId
  unfold load at hLoad ⊢
  split
  · next queries hQueries =>
    refine (contains_insertAll _ _).2 (Or.inr ?_)
    rw [hText] at hQueries
    cases text with
    | none => cases hId
    | some text =>
      have hIds := SavedQuery.idsIn_of_readList? hQueries
      rw [← hIds]
      exact hId
  · next hNone =>
    rw [hNone] at hLoad
    cases hLoad

theorem Covers.apply (hFile : OnFile r) (h : loaded = true → Covers r)
    (hLoaded : e.loadedAfter loaded r = true) : Covers (e.apply r) := by
  by_cases hSaves : e.saves r = true
  · exact fun id hId => (mem_ids_of_saves hFile hSaves).1 hId
  · cases e with
    | reopen => cases hLoaded
    | load =>
      rw [Event.loadedAfter, Bool.or_eq_true] at hLoaded
      rcases hLoaded with hBefore | hNow
      · by_cases hNow : r.load.1.isSome = true
        · exact covers_load hFile hNow
        · rw [Event.apply, load_of_none (by simpa using hNow)]
          exact h hBefore
      · exact covers_load hFile hNow
    | change c =>
      rw [Event.apply, Change.apply_of_not_saves (Bool.eq_false_iff.2 hSaves)]
      exact h hLoaded

theorem mem_ids_apply (hFile : OnFile r) (h : e.saves r = true → Covers r)
    (hId : id ∈ fileIds r.store) (hKept : ¬e.Deletes id) : id ∈ fileIds (e.apply r).store := by
  by_cases hSaves : e.saves r = true
  · rw [mem_ids_of_saves hFile hSaves]
    cases e with
    | reopen => cases hSaves
    | load => cases hSaves
    | change c => exact contains_apply (h hSaves id hId) fun hDelete => hKept (hDelete ▸ rfl)
  · rw [store_of_not_saves (Bool.eq_false_iff.2 hSaves)]
    exact hId

/-! ### Runs -/

theorem OnFile.after (h : OnFile r) (events : List Event) : OnFile (r.after events) := by
  induction events generalizing r with
  | nil => exact h
  | cons e rest ih => exact ih (h.apply e)

/-- **What is in the file stays there where every registry loads it first.** -/
theorem mem_ids_after (hFile : OnFile r) (hCovers : loaded = true → Covers r) {later : List Event}
    (hLoads : LoadsFirst loaded r later) (hId : id ∈ fileIds r.store)
    (hKept : ∀ e ∈ later, ¬e.Deletes id) : id ∈ fileIds (r.after later).store := by
  induction later generalizing r loaded with
  | nil => exact hId
  | cons e rest ih =>
    obtain ⟨hFirst, hRest⟩ := hLoads
    have hStays := mem_ids_apply hFile (fun hSaves => hCovers (hFirst hSaves)) hId
      (hKept e List.mem_cons_self)
    exact ih (hFile.apply e) (Covers.apply hFile hCovers) hRest hStays
      fun other hMem => hKept other (List.mem_cons_of_mem _ hMem)

theorem mem_ids_after_append (hFile : OnFile r) (hCovers : loaded = true → Covers r)
    {events later : List Event} (hLoads : LoadsFirst loaded r (events ++ later))
    (hId : id ∈ fileIds (r.after events).store) (hKept : ∀ e ∈ later, ¬e.Deletes id) :
    id ∈ fileIds (r.after (events ++ later)).store := by
  induction events generalizing r loaded with
  | nil => exact mem_ids_after hFile hCovers hLoads hId hKept
  | cons e rest ih =>
    obtain ⟨-, hRest⟩ := hLoads
    exact ih (hFile.apply e) (Covers.apply hFile hCovers) hRest hId

/-- **Queries are lost from the file exactly by saves of registries that do not hold them, and where
every registry loads the file before it saves, only by deletion.** -/
theorem lost_from_file (text : Option String) (events : List Event) :
    (∀ e id, id ∈ fileIds ((onStore (.file text)).after events).store →
      (id ∉ fileIds ((onStore (.file text)).after (events ++ [e])).store ↔
        e.saves ((onStore (.file text)).after events) = true ∧
        ((onStore (.file text)).after (events ++ [e])).queries.contains id = false)) ∧
    (∀ later id, LoadsFirst false (onStore (.file text)) (events ++ later) →
      id ∈ fileIds ((onStore (.file text)).after events).store →
      (∀ e ∈ later, ¬e.Deletes id) →
      id ∈ fileIds ((onStore (.file text)).after (events ++ later)).store) := by
  have hStart := onFile_onStore text
  refine ⟨fun e id hId => ?_, fun later id hLoads hId hKept =>
    mem_ids_after_append hStart (fun h => by cases h) hLoads hId hKept⟩
  have hLast : (onStore (.file text)).after (events ++ [e]) =
      e.apply ((onStore (.file text)).after events) := by
    rw [after, List.foldl_append]
    rfl
  rw [hLast]
  exact lost_iff (hStart.after events) hId

def marked (id : String) : SavedQuery := { (default : SavedQuery) with id }

theorem steady_marked (id : String) : (marked id).Steady where
  parameters _ h := by cases h
  createdAt := by
    show Timestamp.ReadsBack .epoch
    decide +kernel
  lastUsed _ h := by cases h
  usageCount := by
    show 0 < 2 ^ 64
    decide

theorem mem_marked : "a" ∈ fileIds (.file (some (SavedQuery.writeList [marked "a"]))) := by
  rw [fileIds, Store.fileText?, Option.elim_some, SavedQuery.idsIn_writeList]
  exact List.mem_singleton_self _

theorem lost_from_file_loaded :
    "a" ∈ fileIds ((onStore (.file (some (SavedQuery.writeList [marked "a"])))).after
      [.load, .change (.add (marked "b")), .reopen]).store := by
  have hRead : SavedQuery.readList? (SavedQuery.writeList [marked "a"]) = some [marked "a"] :=
    SavedQuery.readList?_writeList fun q hMem => List.mem_singleton.1 hMem ▸ steady_marked "a"
  have hStore : (onStore (.file (some (SavedQuery.writeList [marked "a"])))).store.load? =
      some [marked "a"] := by
    rw [onStore, Store.load?, Option.elim_some, hRead]
  have hLoad := load_of_some hStore
  have hLoads : LoadsFirst false (onStore (.file (some (SavedQuery.writeList [marked "a"]))))
      [.load, .change (.add (marked "b")), .reopen] := by
    simp [LoadsFirst, Event.saves, Event.loadedAfter, hLoad]
  exact (lost_from_file _ []).2 _ "a" hLoads mem_marked (by simp [Event.Deletes])

/-- **A new registry that saves before it loads writes over the file.** -/
theorem save_before_load_loses :
    "a" ∈ fileIds (onStore (.file (some (SavedQuery.writeList [marked "a"])))).store ∧
    "a" ∉ fileIds ((onStore (.file (some (SavedQuery.writeList [marked "a"])))).after
      [.change (.add (marked "b"))]).store := by
  have hLost := (@lost_iff _ (.change (.add (marked "b"))) "a" (onFile_onStore _) mem_marked).2
    ⟨rfl, (contains_insert ∅ (marked "b") "b").trans rfl⟩
  exact ⟨mem_marked, hLost⟩

end CodeGraph.Registry
