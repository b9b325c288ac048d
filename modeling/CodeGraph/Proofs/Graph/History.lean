import Mathlib.Data.List.Nodup
import CodeGraph.Graph.Snapshot
import CodeGraph.Proofs.Fields

/-!
# What a graph lists

What is in a graph can be told from what was done to it.  Its nodes and its edges are each a map in
the order of insertion, to which changes put elements or drop those that pass a test.  An element
remains if it was put and spared since then (`Remains`); of a list of changes, `latest` gives the
one that remains under a key, and `since` the moment at which an element came to be there.  The map
lists just the elements that remain, in the order of these moments (`Lists`).

A node that is taken out drops the edges at it, but only if it was there (`Event.onEdges`), so the
changes of the edges depend on those of the nodes.
-/

namespace CodeGraph

/-- What is done to elements under keys: one is put, or those that pass a test are dropped. -/
inductive OrderedMap.Change (α : Type) where
  | put (x : α)
  | drop (test : α → Bool)

namespace OrderedMap

variable {α : Type} {key : α → String} {m : OrderedMap key} {id : String} {x : α}

/-! ### Elements of a map -/

theorem mem_toList : x ∈ m.toList ↔ m.find? (key x) = some x := by
  rw [toList, List.mem_filterMap]
  constructor
  · rintro ⟨id, _, hFind⟩
    rw [m.key_eq hFind]
    exact hFind
  · intro hFind
    exact ⟨key x, (m.mem_order _).2 (Option.isSome_iff_exists.2 ⟨x, hFind⟩), hFind⟩

theorem eq_toList {xs : List α} (hKeys : xs.map key = m.order)
    (hFind : ∀ x ∈ xs, m.find? (key x) = some x) : xs = m.toList := by
  rw [toList, ← hKeys, List.filterMap_map]
  exact (List.filterMap_some.symm.trans (List.filterMap_congr fun x hx => (hFind x hx).symm))

theorem find?_toList (m : OrderedMap key) (id : String) :
    m.toList.find? (key · == id) = m.find? id := by
  cases hFind : m.find? id with
  | none =>
    rw [List.find?_eq_none]
    intro x hx hKey
    rw [mem_toList, eq_of_beq hKey, hFind] at hx
    cases hx
  | some x =>
    have hKey : key x = id := m.key_eq hFind
    have hSome : (m.toList.find? (key · == id)).isSome := by
      rw [List.find?_isSome]
      exact ⟨x, mem_toList.2 (hKey ▸ hFind), by simp [hKey]⟩
    obtain ⟨y, hy⟩ := Option.isSome_iff_exists.1 hSome
    have hMem := mem_toList.1 (List.mem_of_find?_eq_some hy)
    have hEq : key y = id := by simpa using List.find?_some hy
    rw [hEq, hFind] at hMem
    rw [hy, hMem]

theorem size_eq (m : OrderedMap key) : m.size = m.toList.length := by
  have hPerm : m.content.names.Perm m.order := by
    rw [List.perm_ext_iff_of_nodup m.content.nodup_names m.nodup]
    intro id
    rw [m.mem_order, Option.isSome_iff_exists, Fields.names, List.mem_map]
    constructor
    · rintro ⟨entry, hEntry, rfl⟩
      exact ⟨entry.2, Fields.find?_eq_some_iff.2 hEntry⟩
    · rintro ⟨x, hx⟩
      exact ⟨(id, x), Fields.find?_eq_some_iff.1 hx, rfl⟩
  rw [← List.length_map key, map_key_toList, ← hPerm.length_eq, Fields.names, List.length_map]
  rfl

/-! ### Elements that are taken out -/

theorem mem_keysOf (test : α → Bool) (hFind : m.find? id = some x) :
    id ∈ m.keysOf test ↔ test x = true := by
  rw [keysOf, List.mem_map]
  constructor
  · rintro ⟨entry, hEntry, hKey⟩
    obtain ⟨hMem, hTest⟩ := List.mem_filter.1 hEntry
    have hFound : m.find? entry.1 = some entry.2 := Fields.find?_eq_some_iff.2 hMem
    rw [← m.key_eq hFound, hKey, hFind] at hFound
    rw [Option.some.inj hFound]
    exact hTest
  · intro hTest
    have hMem : (id, x) ∈ m.content.toList := Fields.find?_eq_some_iff.1 hFind
    exact ⟨(id, x), List.mem_filter.2 ⟨hMem, hTest⟩, m.key_eq hFind⟩

theorem find?_eraseAll (m : OrderedMap key) (test : α → Bool) (id : String) :
    (m.eraseAll test).find? id = (m.find? id).filter (!test ·) := by
  have hErase : (m.eraseAll test).find? id =
      if id ∈ m.keysOf test then none else m.find? id := Fields.find?_foldl_erase _ _ _
  rw [hErase]
  cases hFind : m.find? id with
  | none => rw [ite_self, Option.filter_none]
  | some x =>
    simp only [mem_keysOf test hFind, Option.filter_some]
    cases test x <;> rfl

theorem toList_eraseAll (m : OrderedMap key) (test : α → Bool) :
    (m.eraseAll test).toList = m.toList.filter (!test ·) := by
  refine (eq_toList ?_ ?_).symm
  · have hOrder : (m.eraseAll test).order = m.order.filter (!(m.keysOf test).contains ·) := rfl
    rw [hOrder, ← map_key_toList, List.filter_map]
    refine congrArg (List.map key) (List.filter_congr fun x hx => ?_)
    have hMem := mem_keysOf test (mem_toList.1 hx)
    rw [Function.comp_apply, Bool.not_inj_iff, Bool.eq_iff_iff, List.contains_iff_mem, hMem]
  · intro x hx
    obtain ⟨hMem, hTest⟩ := List.mem_filter.1 hx
    rw [find?_eraseAll, mem_toList.1 hMem, Option.filter_some, if_pos hTest]

theorem erase_eq_eraseAll (m : OrderedMap key) (id : String) :
    m.erase id = m.eraseAll (key · == id) := by
  have hKeys : ∀ other ∈ m.order, other ∈ m.keysOf (key · == id) ↔ other = id := by
    intro other hOther
    obtain ⟨x, hFind⟩ := Option.isSome_iff_exists.1 ((m.mem_order other).1 hOther)
    rw [mem_keysOf _ hFind, m.key_eq hFind, beq_iff_eq]
  refine OrderedMap.ext (Fields.ext_find? fun other => ?_)
    (List.filter_congr fun other hOther => ?_)
  · have hErase : (m.eraseAll (key · == id)).content.find? other =
        (m.find? other).filter (fun x => !(key x == id)) := find?_eraseAll m _ other
    have hContent : (m.erase id).content.find? other =
        if other = id then none else m.find? other := Fields.find?_erase _ _ _
    rw [hErase, hContent]
    cases hFind : m.find? other with
    | none => rw [ite_self, Option.filter_none]
    | some x =>
      rw [Option.filter_some, m.key_eq hFind]
      by_cases hOther : other = id <;> simp [hOther]
  · have hMem := hKeys other hOther
    by_cases hId : other = id
    · simp [hId, hId ▸ hMem]
    · simp [hId, hMem]

/-! ### Changes -/

/-- The element that changes leave under a key.  The latest change is the first of the list. -/
def latest (key : α → String) (id : String) : List (Change α) → Option α
  | [] => none
  | .put x :: past => if key x = id then some x else latest key id past
  | .drop test :: past => (latest key id past).filter (!test ·)

/-- The number of the changes before the one with which an element came to be under a key.  One that
took its place afterwards does not count. -/
def since (key : α → String) (id : String) : List (Change α) → Nat
  | [] => 0
  | .put x :: past =>
    if key x = id ∧ (latest key id past).isNone then past.length else since key id past
  | .drop _ :: past => since key id past

/-- A change leaves an element where it is. -/
def Change.Spares (key : α → String) (x : α) : Change α → Prop
  | put y => key y ≠ key x
  | drop test => test x = false

variable {changes : List (Change α)} {xs ys : List α}

/-- The element was put, and all changes since then have spared it. -/
def Remains (key : α → String) (changes : List (Change α)) (x : α) : Prop :=
  ∃ later past, changes = later ++ .put x :: past ∧ ∀ c ∈ later, Change.Spares key x c

/-- **What changes leave under a key is the element that remains.** -/
theorem latest_eq_some_iff :
    latest key id changes = some x ↔ key x = id ∧ Remains key changes x := by
  induction changes with
  | nil => simp [latest, Remains]
  | cons change changes ih =>
    constructor
    · intro h
      have hRest : latest key id changes = some x → Change.Spares key x change →
          key x = id ∧ Remains key (change :: changes) x := by
        intro hLatest hSpares
        obtain ⟨hKey, later, past, rfl, hLater⟩ := ih.1 hLatest
        exact ⟨hKey, change :: later, past, rfl, List.forall_mem_cons.2 ⟨hSpares, hLater⟩⟩
      cases change with
      | put y =>
        rw [latest] at h
        split at h
        · next hKey =>
          obtain rfl := Option.some.inj h
          exact ⟨hKey, [], changes, rfl, fun c hc => absurd hc List.not_mem_nil⟩
        · next hKey =>
          have hEq : key x = id := (ih.1 h).1
          exact hRest h fun hSame => hKey (hSame.trans hEq)
      | drop test =>
        rw [latest, Option.filter_eq_some_iff] at h
        have hTest : test x = false := by simpa using h.2
        exact hRest h.1 hTest
    · rintro ⟨hKey, later, past, hChanges, hLater⟩
      cases later with
      | nil =>
        obtain ⟨rfl, rfl⟩ := List.cons.inj hChanges
        rw [latest, if_pos hKey]
      | cons c later =>
        obtain ⟨rfl, rfl⟩ := List.cons.inj hChanges
        obtain ⟨hSpares, hLater⟩ := List.forall_mem_cons.1 hLater
        have hLatest := ih.2 ⟨hKey, later, past, rfl, hLater⟩
        cases change with
        | put y => rw [latest, if_neg fun hSame => hSpares (hSame.trans hKey.symm), hLatest]
        | drop test =>
          have hTest : test x = false := hSpares
          rw [latest, hLatest, Option.filter_some, hTest]
          rfl

theorem since_cons {change : Change α} (hBefore : (latest key id changes).isSome) :
    since key id (change :: changes) = since key id changes := by
  cases change with
  | put x =>
    rw [since, if_neg]
    rintro ⟨_, hNone⟩
    rw [Option.isNone_iff_eq_none.1 hNone] at hBefore
    cases hBefore
  | drop test => rfl

/-- An element that is there came with a change that found the key free, and an element has been
there since. -/
theorem exists_since (h : (latest key id changes).isSome) :
    ∃ later x past, changes = later ++ .put x :: past ∧ key x = id ∧
      latest key id past = none ∧ since key id changes = past.length ∧
      ∀ recent, recent <:+ later → (latest key id (recent ++ .put x :: past)).isSome := by
  induction changes with
  | nil => cases h
  | cons change changes ih =>
    by_cases hBefore : (latest key id changes).isSome
    · obtain ⟨later, x, past, rfl, hKey, hNone, hSince, hThere⟩ := ih hBefore
      refine ⟨change :: later, x, past, rfl, hKey, hNone, (since_cons hBefore).trans hSince, ?_⟩
      intro recent hRecent
      rcases List.suffix_cons_iff.1 hRecent with rfl | hRecent
      · exact h
      · exact hThere recent hRecent
    · have hNone : latest key id changes = none := by simpa using hBefore
      cases change with
      | put x =>
        by_cases hKey : key x = id
        · refine ⟨[], x, changes, rfl, hKey, hNone, ?_, ?_⟩
          · rw [since, hNone, if_pos ⟨hKey, rfl⟩]
          · intro recent hRecent
            rw [List.suffix_nil.1 hRecent]
            exact h
        · rw [latest, if_neg hKey, hNone] at h
          cases h
      | drop test =>
        rw [latest, hNone] at h
        cases h

theorem since_lt_length (h : (latest key id changes).isSome) :
    since key id changes < changes.length := by
  obtain ⟨later, x, past, rfl, _, _, hSince, _⟩ := exists_since h
  rw [hSince, List.length_append, List.length_cons]
  omega

/-! ### Lists -/

/-- A list holds just the elements that remain, in the order in which they came to be there. -/
structure Lists (key : α → String) (changes : List (Change α)) (xs : List α) : Prop where
  nodup : (xs.map key).Nodup
  mem : ∀ x, x ∈ xs ↔ Remains key changes x
  sorted : xs.Pairwise fun x y => since key (key x) changes < since key (key y) changes

/-- **There is one such list.** -/
theorem Lists.unique (h : Lists key changes xs) (g : Lists key changes ys) : xs = ys := by
  have hMem : ∀ x, x ∈ xs ↔ x ∈ ys := fun x => (h.mem x).trans (g.mem x).symm
  have hPerm : xs.Perm ys :=
    (List.perm_ext_iff_of_nodup (.of_map _ h.nodup) (.of_map _ g.nodup)).2 hMem
  refine hPerm.eq_of_pairwise ?_ h.sorted g.sorted
  intro x y _ _ hxy hyx
  exact absurd (Nat.lt_trans hxy hyx) (Nat.lt_irrefl _)

/-- The map is what changes make of an empty one. -/
structure Follows (changes : List (Change α)) (m : OrderedMap key) : Prop where
  find? : ∀ id, m.find? id = latest key id changes
  sorted : m.order.Pairwise fun a b => since key a changes < since key b changes

namespace Follows

theorem lists (h : Follows changes m) : Lists key changes m.toList where
  nodup := m.nodup_map_toList
  mem x := by rw [mem_toList, h.find?, latest_eq_some_iff, and_iff_right rfl]
  sorted := by
    have hSorted := h.sorted
    rw [← map_key_toList, List.pairwise_map] at hSorted
    exact hSorted

theorem empty : Follows [] (.empty : OrderedMap key) := ⟨fun _ => rfl, .nil⟩

theorem isSome_latest (h : Follows changes m) (hId : id ∈ m.order) :
    (latest key id changes).isSome := by
  rw [← h.find?]
  exact (m.mem_order id).1 hId

theorem put (h : Follows changes m) (x : α) : Follows (.put x :: changes) (m.put x) := by
  have hOld : ∀ a ∈ m.order, since key a (.put x :: changes) = since key a changes :=
    fun a ha => since_cons (h.isSome_latest ha)
  have hSorted : m.order.Pairwise fun a b =>
      since key a (.put x :: changes) < since key b (.put x :: changes) := by
    refine h.sorted.imp_of_mem fun ha hb hab => ?_
    rw [hOld _ ha, hOld _ hb]
    exact hab
  constructor
  · intro id
    have hFind : (m.put x).find? id = if id = key x then some x else m.find? id :=
      Fields.find?_insert _ _ _ _
    rw [hFind, latest, h.find?]
    simp only [eq_comm]
  · have hOrder : (m.put x).order = if key x ∈ m.order then m.order else m.order ++ [key x] := by
      rw [OrderedMap.put]
      simp only [contains_iff_mem_order]
    rw [hOrder]
    split
    · exact hSorted
    · next hNew =>
      have hNone : latest key (key x) changes = none := by
        rw [← h.find?]
        simpa [m.mem_order, OrderedMap.find?] using hNew
      refine List.pairwise_append.2 ⟨hSorted, List.pairwise_singleton _ _, ?_⟩
      intro a ha b hb
      rw [List.mem_singleton.1 hb, hOld a ha, since, hNone, if_pos ⟨rfl, rfl⟩]
      exact since_lt_length (h.isSome_latest ha)

theorem drop {m' : OrderedMap key} {test : α → Bool} (h : Follows changes m)
    (hFind : ∀ id, m'.find? id = (m.find? id).filter (!test ·))
    (hOrder : m'.order.Sublist m.order) : Follows (.drop test :: changes) m' where
  find? id := by rw [hFind, h.find?, latest]
  sorted := h.sorted.sublist hOrder

theorem eraseAll (h : Follows changes m) (test : α → Bool) :
    Follows (.drop test :: changes) (m.eraseAll test) :=
  h.drop (find?_eraseAll m test) List.filter_sublist

theorem erase (h : Follows changes m) (id : String) :
    Follows (.drop (key · == id) :: changes) (m.erase id) := by
  rw [erase_eq_eraseAll]
  exact h.eraseAll _

theorem clear (h : Follows changes m) :
    Follows (.drop (fun _ => true) :: changes) (.empty : OrderedMap key) := by
  refine h.drop (fun id => ?_) (List.nil_sublist _)
  cases m.find? id <;> rfl

theorem keep {test : α → Bool} (h : Follows changes m)
    (hTest : ∀ id x, m.find? id = some x → test x = false) :
    Follows (.drop test :: changes) m := by
  refine h.drop (fun id => ?_) (List.Sublist.refl _)
  cases hFind : m.find? id with
  | none => rfl
  | some x =>
    rw [Option.filter_some, hTest id x hFind]
    rfl

end Follows

end OrderedMap

/-! ### Graphs -/

namespace Snapshot

open OrderedMap

/-- What is done to a graph. -/
inductive Event where
  | putNode (node : Node)
  | putEdge (edge : Edge)
  | removeNode (id : String)
  | clear

namespace Event

def apply (g : Snapshot) : Event → Snapshot
  | putNode node => g.putNode node
  | putEdge edge => g.putEdge edge
  | removeNode id => (g.removeNode id).2
  | clear => .empty

def onNodes : Event → Change Node
  | putNode node => .put node
  | putEdge _ => .drop fun _ => false
  | removeNode id => .drop (·.id == id)
  | clear => .drop fun _ => true

end Event

def after : List Event → Snapshot
  | [] => .empty
  | event :: past => event.apply (after past)

def nodeChanges (events : List Event) : List (Change Node) := events.map Event.onNodes

/-- What an event changes of the edges.  A node that was not there takes no edges with it. -/
def Event.onEdges (past : List Event) : Event → Change Edge
  | putNode _ => .drop fun _ => false
  | putEdge edge => .put edge
  | removeNode id =>
    .drop fun edge => (latest Node.id id (nodeChanges past)).isSome && edge.touches id
  | clear => .drop fun _ => true

def edgeChanges : List Event → List (Change Edge)
  | [] => []
  | event :: past => event.onEdges past :: edgeChanges past

variable {g : Snapshot} {id : String} {node : Node}

theorem removeNode_of_find? (h : g.node? id = some node) :
    g.removeNode id = (some node, g.eraseNode id) := by
  rw [removeNode, h]

theorem removeNode_of_absent (h : g.node? id = none) : g.removeNode id = (none, g) := by
  rw [removeNode, h]

theorem nodes_eraseNode (g : Snapshot) (id : String) :
    (g.eraseNode id).nodes = g.nodes.filter (·.id != id) := by
  have hErase : (g.eraseNode id).nodes = (g.nodeMap.erase id).toList := rfl
  rw [hErase, erase_eq_eraseAll, toList_eraseAll]
  rfl

theorem edges_eraseNode (g : Snapshot) (id : String) :
    (g.eraseNode id).edges = g.edges.filter (!·.touches id) :=
  toList_eraseAll g.edgeMap _

/-- **Nodes and edges follow the events.** -/
theorem follows_after (events : List Event) :
    Follows (nodeChanges events) (after events).nodeMap ∧
      Follows (edgeChanges events) (after events).edgeMap := by
  induction events with
  | nil => exact ⟨.empty, .empty⟩
  | cons event past ih =>
    obtain ⟨hNodes, hEdges⟩ := ih
    cases event with
    | putNode node => exact ⟨hNodes.put node, hEdges.keep fun _ _ _ => rfl⟩
    | putEdge edge => exact ⟨hNodes.keep fun _ _ _ => rfl, hEdges.put edge⟩
    | removeNode id =>
      have hEdgeChange : Event.onEdges past (.removeNode id) =
          .drop fun edge => ((after past).node? id).isSome && edge.touches id := by
        rw [Event.onEdges, ← hNodes.find?]
        rfl
      rw [edgeChanges, hEdgeChange, after, Event.apply]
      cases hFind : (after past).node? id with
      | none =>
        rw [removeNode_of_absent hFind]
        refine ⟨hNodes.keep fun other node hNode => ?_, hEdges.keep fun _ _ _ => rfl⟩
        have hKey : node.id = other := (after past).nodeMap.key_eq hNode
        have hNe : other ≠ id := by
          intro hEq
          rw [hEq] at hNode
          rw [show (after past).nodeMap.find? id = none from hFind] at hNode
          cases hNode
        simp [hKey, hNe]
      | some node =>
        rw [removeNode_of_find? hFind]
        exact ⟨hNodes.erase id, hEdges.eraseAll (·.touches id)⟩
    | clear => exact ⟨hNodes.clear, hEdges.clear⟩

/-- **A graph lists what was put in and not taken out since, as it was put in last, in the order in
which it came.**  Counts and lookups agree with the lists.  To remove a node that is there gives
this node and takes it and the edges at it out of the lists, and nothing else; to remove one that is
not there changes nothing. -/
theorem after_lists (events : List Event) :
    (∀ nodes, Lists Node.id (nodeChanges events) nodes ↔ nodes = (after events).nodes) ∧
      (∀ edges, Lists Edge.id (edgeChanges events) edges ↔ edges = (after events).edges) ∧
      (after events).nodeCount = (after events).nodes.length ∧
      (after events).edgeCount = (after events).edges.length ∧
      (∀ id, (after events).node? id = (after events).nodes.find? (·.id == id)) ∧
      (∀ id node, (after events).node? id = some node →
        ((after events).removeNode id).1 = some node ∧
          ((after events).removeNode id).2.nodes = (after events).nodes.filter (·.id != id) ∧
          ((after events).removeNode id).2.edges =
            (after events).edges.filter fun edge => edge.source != id && edge.target != id) ∧
      ∀ id, (after events).node? id = none →
        (after events).removeNode id = (none, after events) := by
  obtain ⟨hNodes, hEdges⟩ := follows_after events
  refine ⟨fun nodes => ⟨fun h => h.unique hNodes.lists, fun h => h ▸ hNodes.lists⟩,
    fun edges => ⟨fun h => h.unique hEdges.lists, fun h => h ▸ hEdges.lists⟩,
    size_eq _, size_eq _, fun id => (find?_toList _ id).symm, ?_,
    fun id hAbsent => removeNode_of_absent hAbsent⟩
  intro id node hFind
  rw [removeNode_of_find? hFind]
  refine ⟨rfl, nodes_eraseNode _ id, ?_⟩
  rw [edges_eraseNode]
  refine List.filter_congr fun edge _ => ?_
  simp [Edge.touches, bne]

def cameAgain : List Event :=
  [.putNode { (default : Node) with id := "a" }, .removeNode "a",
    .putEdge { (default : Edge) with id := "ab", source := "a", target := "b" },
    .putNode { (default : Node) with id := "b" }, .putNode { (default : Node) with id := "a" }]

theorem after_lists_cameAgain :
    (after cameAgain).nodes.map (·.id) = ["b", "a"] ∧ (after cameAgain).edges = [] ∧
      ((after cameAgain).removeNode "b").2.nodes.map (·.id) = ["a"] := by
  have hNodes : (after cameAgain).nodes.map (·.id) = ["b", "a"] := by decide +kernel
  have hFind : (after cameAgain).node? "b" = some { (default : Node) with id := "b" } := by
    decide +kernel
  obtain ⟨_, _, _, _, _, hRemove, _⟩ := after_lists cameAgain
  refine ⟨hNodes, by decide +kernel, ?_⟩
  rw [(hRemove "b" _ hFind).2.1]
  decide +kernel

end Snapshot

end CodeGraph
