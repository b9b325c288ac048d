import CodeGraph.Proofs.Query.Conditions
import CodeGraph.Proofs.Query.Selection
import CodeGraph.Proofs.Query.Sorting
import CodeGraph.Query.Standard

/-!
# What a plan asks of a graph

A node is selected by a plan if it fits all its patterns and meets its clause (`Plan.Selects`).  The
selected nodes are arranged (`Plan.Arranges`) and cut to a page, and the edges at what is left
belong to the answer: this is `Plan.AnsweredBy`, which does not say how to find it.

Without a budget `execute` fails for malformed plans, and what it answers to others is what they
ask.  It has an answer wherever the keys of the plan are transitive (`Plan.Settled`); elsewhere the
sort may break off, of which nothing else is said.  Pages of one size put together are the whole
answer, and the order of patterns and conditions does not matter (`execute_reference`).
-/

namespace CodeGraph.Query

namespace Plan

/-- The plan looks for the node. -/
structure Selects [Library] (plan : Plan Value) (node : Node) : Prop where
  patterns : ∀ p ∈ plan.nodes, p.Fits node
  filter : ∀ clause ∈ plan.filter, clause.Holds node

/-- A condition of the plan asks for a regular expression that is none. -/
def Malformed [Library] (plan : Plan Value) : Prop :=
  ∃ clause ∈ plan.filter, ∃ c ∈ clause.conditions, c.Malformed

/-- The selected nodes are in some order by each key. -/
def Settled [Library] (plan : Plan Value) (g : Snapshot) : Prop :=
  ∀ keys ∈ plan.order, KeysTransitive keys fun node => node ∈ g.nodes ∧ plan.Selects node

/-- The selected nodes are arranged as the plan asks: as they were scanned or, for keys that are in
order, in the only way that is stably sorted. -/
def Arranges (plan : Plan Value) (selected arranged : List Node) : Prop :=
  match plan.order with
  | none => arranged = selected
  | some keys => arranged.Perm selected ∧
      (KeysTransitive keys (· ∈ selected) →
        ∀ sorted, StablySorted keys selected sorted ↔ sorted = arranged)

/-- What is left of the nodes after `SKIP` and `LIMIT`. -/
def Cuts (plan : Plan Value) (arranged left : List Node) : Prop :=
  match plan.limit with
  | none => left = arranged.drop (plan.skip.getD 0)
  | some limit => left = (arranged.drop (plan.skip.getD 0)).take limit

/-- The answer is what the plan asks of the graph. -/
structure AnsweredBy [Library] (plan : Plan Value) (g : Snapshot) (r : Answer) : Prop where
  nodes : ∃ selected arranged : List Node, selected.Sublist g.nodes ∧
    (∀ node, node ∈ selected ↔ node ∈ g.nodes ∧ plan.Selects node) ∧
    plan.Arranges selected arranged ∧ plan.Cuts arranged r.nodes
  edges_sublist : r.edges.Sublist g.edges
  mem_edges : ∀ edge, edge ∈ r.edges ↔
    edge ∈ g.edges ∧ ∃ node ∈ r.nodes, edge.source = node.id ∨ edge.target = node.id
  totalMatches : r.totalMatches = r.nodes.length
  cached : r.cached = false

def whole (plan : Plan Value) : Plan Value := { plan with skip := none, limit := none }

def onPage (plan : Plan Value) (size number : Nat) : Plan Value :=
  { plan with skip := some (number * size), limit := some size }

/-- The plans differ in the order of their patterns and conditions, and in what they return. -/
structure Permutes (plan plan' : Plan Value) : Prop where
  nodes : plan.nodes.Perm plan'.nodes
  filter : Option.Rel (fun clause clause' => clause.conditions.Perm clause'.conditions ∧
    clause.junction = clause'.junction) plan.filter plan'.filter
  order : plan.order = plan'.order
  skip : plan.skip = plan'.skip
  limit : plan.limit = plan'.limit

/-! ### Candidates and pages -/

theorem candidates_nodup (g : Snapshot) (plan : Plan Value) (test : Node → Bool) :
    (plan.candidates test g.nodes).Nodup :=
  (List.Nodup.of_map _ g.nodes_nodup).filter _

theorem page_sublist (plan : Plan Value) (nodes : List Node) :
    (plan.page nodes).Sublist nodes := by
  unfold page
  cases plan.limit with
  | none => exact List.drop_sublist _ _
  | some limit => exact (List.take_sublist _ _).trans (List.drop_sublist _ _)

theorem cuts_page (plan : Plan Value) (nodes : List Node) : plan.Cuts nodes (plan.page nodes) := by
  unfold Cuts page
  cases plan.limit <;> rfl

theorem flatMap_pages {α : Type} (xs : List α) (size count : Nat) :
    (List.range count).flatMap (fun k => (xs.drop (k * size)).take size) =
      xs.take (count * size) := by
  induction count with
  | zero => simp
  | succ count ih =>
    rw [List.range_succ, List.flatMap_append, ih, List.flatMap_singleton, Nat.succ_mul,
      List.take_add]

end Plan

def answerOf (g : Snapshot) (nodes : List Node) : Answer where
  nodes
  edges := incident nodes g.edges
  totalMatches := nodes.length
  queryTime := 0
  cached := false

section

variable [Library] {g : Snapshot} {plan plan' : Plan Value} {test test' : Node → Bool}

namespace Plan

/-! ### Selecting -/

theorem predicate_cases (plan : Plan Value) :
    (∃ clause ∈ plan.filter, ∃ c ∈ clause.conditions, c.Malformed ∧
      plan.predicate = .error (.invalidRegex c.operand.text c.field)) ∨
    ¬plan.Malformed ∧ ∃ test, plan.predicate = .ok test ∧
      ∀ node, test node = true ↔ ∀ clause ∈ plan.filter, clause.Holds node := by
  unfold predicate Malformed
  cases plan.filter with
  | none => exact .inr ⟨by simp, _, rfl, by simp⟩
  | some clause =>
    rcases Query.predicate_cases clause with ⟨c, hc, hMalformed, hError⟩ | ⟨hNone, test, hOk, hTest⟩
    · exact .inl ⟨clause, rfl, c, hc, hMalformed, hError⟩
    · refine .inr ⟨?_, test, hOk, by simpa using hTest⟩
      rintro ⟨other, hOther, c, hc, hMalformed⟩
      obtain rfl : clause = other := Option.some.inj hOther
      exact hNone c hc hMalformed

theorem selects_iff
    (hTest : ∀ node, test node = true ↔ ∀ clause ∈ plan.filter, clause.Holds node) (node : Node) :
    (plan.nodes.all (·.accepts node) && test node) = true ↔ plan.Selects node := by
  rw [Bool.and_eq_true, List.all_eq_true, hTest]
  exact ⟨fun h => ⟨fun p hp => accepts_iff_fits.1 (h.1 p hp), h.2⟩,
    fun h => ⟨fun p hp => accepts_iff_fits.2 (h.patterns p hp), h.filter⟩⟩

theorem mem_candidates
    (hTest : ∀ node, test node = true ↔ ∀ clause ∈ plan.filter, clause.Holds node)
    (nodes : List Node) (node : Node) :
    node ∈ plan.candidates test nodes ↔ node ∈ nodes ∧ plan.Selects node := by
  rw [candidates, List.mem_filter, selects_iff hTest]

theorem Permutes.malformed_iff (h : plan.Permutes plan') : plan.Malformed ↔ plan'.Malformed := by
  have hFilter := h.filter
  unfold Malformed
  generalize plan.filter = filter, plan'.filter = filter' at hFilter
  cases hFilter with
  | none => rfl
  | some hClause => simp [hClause.1.mem_iff]

theorem Permutes.selects_iff (h : plan.Permutes plan') (node : Node) :
    plan.Selects node ↔ plan'.Selects node := by
  have hClauses : (∀ clause ∈ plan.filter, clause.Holds node) ↔
      ∀ clause ∈ plan'.filter, clause.Holds node := by
    have hFilter := h.filter
    generalize plan.filter = filter, plan'.filter = filter' at hFilter
    cases hFilter with
    | none => rfl
    | some hClause => simp [Clause.holds_of_perm hClause.1 hClause.2 node]
  have hPatterns : (∀ p ∈ plan.nodes, p.Fits node) ↔ ∀ p ∈ plan'.nodes, p.Fits node :=
    forall_congr' fun p => by rw [h.nodes.mem_iff]
  exact ⟨fun hs => ⟨hPatterns.1 hs.patterns, hClauses.1 hs.filter⟩,
    fun hs => ⟨hPatterns.2 hs.patterns, hClauses.2 hs.filter⟩⟩

theorem Permutes.candidates_eq (h : plan.Permutes plan')
    (hTest : ∀ node, test node = true ↔ ∀ clause ∈ plan.filter, clause.Holds node)
    (hTest' : ∀ node, test' node = true ↔ ∀ clause ∈ plan'.filter, clause.Holds node)
    (nodes : List Node) : plan.candidates test nodes = plan'.candidates test' nodes := by
  refine List.filter_congr fun node _ => Bool.eq_iff_iff.2 ?_
  rw [Plan.selects_iff hTest, Plan.selects_iff hTest', h.selects_iff]

/-! ### Arranging and paging -/

/-- **Nodes are arranged as the plan asks, or the sort breaks off.**  It only does that over keys
that are not transitive. -/
theorem arrange_cases (plan : Plan Value) {nodes : List Node} (hNodup : nodes.Nodup) :
    (∃ keys ∈ plan.order, ¬KeysTransitive keys (· ∈ nodes) ∧
      plan.arrange nodes = .error .sortAborted) ∨
    ∃ arranged, plan.arrange nodes = .ok arranged ∧ arranged.Perm nodes ∧
      plan.Arranges nodes arranged := by
  unfold Arranges arrange
  cases plan.order with
  | none => exact .inr ⟨nodes, rfl, .refl _, rfl⟩
  | some keys =>
    dsimp only
    cases hSort : Library.sort? (compareBy keys) nodes with
    | none =>
      refine .inl ⟨keys, rfl, fun hKeys => ?_, rfl⟩
      obtain ⟨sorted, hSome, _⟩ := Library.sort_stable (orders_compareBy hKeys)
      rw [hSort] at hSome
      cases hSome
    | some arranged =>
      have hPerm : arranged.Perm nodes := Library.sort_perm hSort
      refine .inr ⟨arranged, rfl, hPerm, hPerm, fun hKeys sorted => ?_⟩
      obtain ⟨_, hSome, hStable⟩ := Library.sort_stable (orders_compareBy hKeys)
      obtain rfl := Option.some.inj (hSort.symm.trans hSome)
      have hSorted : StablySorted keys nodes arranged := stablySorted_of_sorts hNodup hStable
      exact ⟨fun h => h.eq hSorted, fun h => h ▸ hSorted⟩

end Plan

/-! ### Running a plan -/

theorem execute_of_predicate (hTest : plan.predicate = .ok test) :
    execute g plan none = (plan.arrange (plan.candidates test g.nodes)).map
      fun arranged => answerOf g (plan.page arranged) := by
  unfold execute
  rw [hTest]
  show (plan.arrange (plan.candidates test g.nodes)).bind _ = _
  cases plan.arrange (plan.candidates test g.nodes) <;> rfl

theorem execute_error {e : QueryError} (hError : plan.predicate = .error e) :
    execute g plan none = .error e := by
  unfold execute
  rw [hError]
  rfl

/-- The plan of an answer has a test, and the answer is a page of the arranged candidates. -/
theorem execute_ok {r : Answer} (h : execute g plan none = .ok r) :
    ¬plan.Malformed ∧ ∃ test arranged, plan.predicate = .ok test ∧
      (∀ node, test node = true ↔ ∀ clause ∈ plan.filter, clause.Holds node) ∧
      plan.arrange (plan.candidates test g.nodes) = .ok arranged ∧
      arranged.Perm (plan.candidates test g.nodes) ∧
      plan.Arranges (plan.candidates test g.nodes) arranged ∧
      r = answerOf g (plan.page arranged) := by
  rcases plan.predicate_cases with ⟨_, _, c, _, _, hError⟩ | ⟨hNot, test, hOk, hTest⟩
  · rw [execute_error hError] at h
    cases h
  · rw [execute_of_predicate hOk] at h
    rcases plan.arrange_cases (plan.candidates_nodup g test) with
      ⟨_, _, _, hAborted⟩ | ⟨arranged, hArranged, hPerm, hArranges⟩
    · rw [hAborted] at h
      cases h
    · rw [hArranged] at h
      exact ⟨hNot, test, arranged, hOk, hTest, hArranged, hPerm, hArranges,
        (Except.ok.inj h).symm⟩

theorem execute_malformed (h : plan.Malformed) : ∃ clause ∈ plan.filter, ∃ c ∈ clause.conditions,
    c.Malformed ∧ ∀ g, execute g plan none = .error (.invalidRegex c.operand.text c.field) := by
  rcases plan.predicate_cases with ⟨clause, hClause, c, hc, hMalformed, hError⟩ | ⟨hNot, _⟩
  · exact ⟨clause, hClause, c, hc, hMalformed, fun g => execute_error hError⟩
  · exact absurd h hNot

theorem execute_cases (g : Snapshot) (h : ¬plan.Malformed) :
    ¬plan.Settled g ∧ execute g plan none = .error .sortAborted ∨
      ∃ r, execute g plan none = .ok r := by
  rcases plan.predicate_cases with ⟨clause, hClause, c, hc, hMalformed, _⟩ | ⟨_, test, hOk, hTest⟩
  · exact absurd ⟨clause, hClause, c, hc, hMalformed⟩ h
  · rw [execute_of_predicate hOk]
    rcases plan.arrange_cases (plan.candidates_nodup g test) with
      ⟨keys, hKeys, hNot, hAborted⟩ | ⟨arranged, hArranged, _, _⟩
    · refine .inl ⟨fun hSettled => hNot ?_, by rw [hAborted]; rfl⟩
      intro key hKey a b c ha hb hc
      exact hSettled keys hKeys key hKey a b c ((Plan.mem_candidates hTest _ a).1 ha)
        ((Plan.mem_candidates hTest _ b).1 hb) ((Plan.mem_candidates hTest _ c).1 hc)
    · rw [hArranged]
      exact .inr ⟨_, rfl⟩

theorem execute_answeredBy {r : Answer} (h : execute g plan none = .ok r) :
    plan.AnsweredBy g r := by
  obtain ⟨_, test, arranged, _, hTest, _, _, hArranges, rfl⟩ := execute_ok h
  refine ⟨⟨plan.candidates test g.nodes, arranged, List.filter_sublist,
    Plan.mem_candidates hTest g.nodes, hArranges, plan.cuts_page _⟩, List.filter_sublist, ?_, rfl,
    rfl⟩
  intro edge
  simp [answerOf, incident, List.mem_filter, List.any_eq_true, Edge.touches]

theorem execute_nodup {r : Answer} (h : execute g plan none = .ok r) : r.nodes.Nodup := by
  obtain ⟨_, test, arranged, _, _, _, hPerm, _, rfl⟩ := execute_ok h
  exact (plan.page_sublist _).nodup (hPerm.nodup_iff.2 (plan.candidates_nodup g test))

/-- Pages of one size put together are the beginning of the whole answer. -/
theorem execute_pages {r : Answer} (h : execute g plan.whole none = .ok r) (size count : Nat) :
    ∃ pages, (List.range count).mapM (fun k => execute g (plan.onPage size k) none) = .ok pages ∧
      pages.flatMap (·.nodes) = r.nodes.take (count * size) := by
  obtain ⟨_, test, arranged, hOk, _, hArranged, _, _, rfl⟩ := execute_ok h
  have hPage : ∀ k, execute g (plan.onPage size k) none =
      .ok (answerOf g ((arranged.drop (k * size)).take size)) := fun k => by
    have hTest : (plan.onPage size k).predicate = .ok test := hOk
    have hSame : (plan.onPage size k).arrange ((plan.onPage size k).candidates test g.nodes) =
        .ok arranged := hArranged
    rw [execute_of_predicate hTest, hSame]
    rfl
  refine ⟨_, by simp only [hPage]; exact List.mapM_pure, ?_⟩
  rw [List.flatMap_map]
  exact Plan.flatMap_pages _ size count

theorem execute_permutes (h : plan.Permutes plan') :
    (execute g plan none).toOption = (execute g plan' none).toOption := by
  by_cases hMalformed : plan.Malformed
  · obtain ⟨_, _, c, _, _, hError⟩ := execute_malformed hMalformed
    obtain ⟨_, _, c', _, _, hError'⟩ := execute_malformed (h.malformed_iff.1 hMalformed)
    rw [hError, hError']
    rfl
  · rcases plan.predicate_cases with ⟨clause, hClause, c, hc, hBad, _⟩ | ⟨_, test, hOk, hTest⟩
    · exact absurd ⟨clause, hClause, c, hc, hBad⟩ hMalformed
    rcases plan'.predicate_cases with ⟨clause, hClause, c, hc, hBad, _⟩ | ⟨_, test', hOk', hTest'⟩
    · exact absurd (h.malformed_iff.2 ⟨clause, hClause, c, hc, hBad⟩) hMalformed
    have hArrange : plan.arrange = plan'.arrange := by
      funext nodes
      rw [Plan.arrange, Plan.arrange, h.order]
    have hPage : plan.page = plan'.page := by
      funext nodes
      rw [Plan.page, Plan.page, h.skip, h.limit]
    rw [execute_of_predicate hOk, execute_of_predicate hOk', h.candidates_eq hTest hTest', hArrange,
      hPage]

/-- **Running a plan is what the plan asks for.**  Plans fail that are malformed, whatever the
graph, over one of the conditions that make them so, and all others have their answer as long as
their keys are transitive on the nodes they select.  Page by page the answer is the same as at once,
with no node twice, and so it is with patterns and conditions in any order. -/
theorem execute_reference (g : Snapshot) (plan : Plan Value) :
    ((∃ e, e ≠ .sortAborted ∧ execute g plan none = .error e) ↔ plan.Malformed) ∧
      (plan.Malformed → ∃ clause ∈ plan.filter, ∃ c ∈ clause.conditions, c.Malformed ∧
        (QueryError.invalidRegex c.operand.text c.field).kind = .evaluation ∧
        ∀ g, execute g plan none = .error (.invalidRegex c.operand.text c.field)) ∧
      (¬plan.Malformed → plan.Settled g → ∃ r, execute g plan none = .ok r) ∧
      (∀ r, execute g plan none = .ok r → plan.AnsweredBy g r) ∧
      (∀ r, execute g plan.whole none = .ok r → r.nodes.Nodup ∧ ∀ size count, ∃ pages,
        (List.range count).mapM (fun k => execute g (plan.onPage size k) none) = .ok pages ∧
          pages.flatMap (·.nodes) = r.nodes.take (count * size) ∧
          (r.nodes.length ≤ count * size → pages.flatMap (·.nodes) = r.nodes)) ∧
      ∀ plan', plan.Permutes plan' →
        (execute g plan none).toOption = (execute g plan' none).toOption := by
  refine ⟨⟨?_, ?_⟩, ?_, ?_, fun r => execute_answeredBy, ?_, fun plan' h => execute_permutes h⟩
  · rintro ⟨e, hNe, hError⟩
    by_contra hNot
    rcases execute_cases g hNot with ⟨_, hAborted⟩ | ⟨r, hOk⟩
    · exact hNe (Except.error.inj (hError.symm.trans hAborted))
    · rw [hOk] at hError
      cases hError
  · intro hMalformed
    obtain ⟨_, _, c, _, _, hError⟩ := execute_malformed hMalformed
    exact ⟨_, QueryError.noConfusion, hError g⟩
  · intro hMalformed
    obtain ⟨clause, hClause, c, hc, hBad, hError⟩ := execute_malformed hMalformed
    exact ⟨clause, hClause, c, hc, hBad, rfl, hError⟩
  · intro hNot hSettled
    exact (execute_cases g hNot).resolve_left fun h => h.1 hSettled
  · intro r hOk
    refine ⟨execute_nodup hOk, fun size count => ?_⟩
    obtain ⟨pages, hPages, hNodes⟩ := execute_pages hOk size count
    refine ⟨pages, hPages, hNodes, fun hLength => ?_⟩
    rw [hNodes, List.take_of_length_le hLength]

end

def sourceNode (id kind language : String) (rank : Int64) : Node :=
  { (default : Node) with
    id, kind, metadata := .ofList [("lang", .str language), ("rank", .int rank)] }

def rankedGraph : Snapshot :=
  let nodes : List Node :=
    [sourceNode "a" "file" "ts" 1, sourceNode "b" "file" "ts" 2, sourceNode "c" "folder" "ts" 2,
      sourceNode "d" "file" "rs" 2, sourceNode "e" "file" "ts" 3, sourceNode "f" "File" "ts" 1,
      sourceNode "g" "file" "ts" 2]
  (nodes.foldl Snapshot.putNode .empty).putEdge
    { (default : Edge) with id := "ab", source := "a", target := "b" }

def rankedPlan (conditions : List (Condition Value)) : Plan Value where
  nodes := [⟨some "n", ["FILE"], .ofList [("lang", .str "ts")]⟩]
  edges := []
  filter := some ⟨conditions, .and⟩
  columns := none
  order := some [⟨"n.rank", .desc⟩]
  skip := none
  limit := none

/-- The ranked nodes in pages of two, and with the conditions the other way around. -/
theorem execute_reference_ranked :
    (∃ r, execute rankedGraph (rankedPlan [⟨"rank", .lt, .int 3⟩, ⟨"id", .ne, .str "g"⟩]) none =
        .ok r ∧
      (rankedPlan [⟨"rank", .lt, .int 3⟩, ⟨"id", .ne, .str "g"⟩]).AnsweredBy rankedGraph r) ∧
      (∃ pages, (List.range 2).mapM (fun k => execute rankedGraph
          ((rankedPlan [⟨"rank", .lt, .int 3⟩, ⟨"id", .ne, .str "g"⟩]).onPage 2 k) none) =
            .ok pages ∧
        (pages.flatMap (·.nodes)).map (·.id) = ["b", "a", "f"]) ∧
      (execute rankedGraph
          (rankedPlan [⟨"rank", .lt, .int 3⟩, ⟨"id", .ne, .str "g"⟩]) none).toOption =
        (execute rankedGraph
          (rankedPlan [⟨"id", .ne, .str "g"⟩, ⟨"rank", .lt, .int 3⟩]) none).toOption := by
  obtain ⟨_, _, hFound, hAnswered, hPages, hPermutes⟩ :=
    execute_reference rankedGraph (rankedPlan [⟨"rank", .lt, .int 3⟩, ⟨"id", .ne, .str "g"⟩])
  have hWell : ¬(rankedPlan [⟨"rank", .lt, .int 3⟩, ⟨"id", .ne, .str "g"⟩]).Malformed := by
    rintro ⟨clause, hClause, c, hc, hRegex, _⟩
    obtain rfl := Option.some.inj hClause
    simp only [List.mem_cons, List.not_mem_nil, or_false] at hc
    rcases hc with rfl | rfl <;> cases hRegex
  have hRanks : ∀ a ∈ rankedGraph.nodes, ∀ b ∈ rankedGraph.nodes, ∀ c ∈ rankedGraph.nodes,
      fieldOrder "n.rank" a b ≠ .gt → fieldOrder "n.rank" b c ≠ .gt →
        fieldOrder "n.rank" a c ≠ .gt := by
    decide +kernel
  have hSettled :
      (rankedPlan [⟨"rank", .lt, .int 3⟩, ⟨"id", .ne, .str "g"⟩]).Settled rankedGraph := by
    rintro keys hKeys key hKey a b c ⟨ha, _⟩ ⟨hb, _⟩ ⟨hc, _⟩
    obtain rfl := Option.some.inj hKeys
    obtain rfl := List.mem_singleton.1 hKey
    exact hRanks a ha b hb c hc
  obtain ⟨r, hOk⟩ := hFound hWell hSettled
  obtain ⟨whole, hWhole, hIds⟩ : ∃ r, execute rankedGraph
      (rankedPlan [⟨"rank", .lt, .int 3⟩, ⟨"id", .ne, .str "g"⟩]).whole none = .ok r ∧
      r.nodes.map (·.id) = ["b", "a", "f"] := ⟨_, rfl, by decide +kernel⟩
  refine ⟨⟨r, hOk, hAnswered r hOk⟩, ?_,
    hPermutes _ ⟨.refl _, .some ⟨.swap _ _ _, rfl⟩, rfl, rfl, rfl⟩⟩
  obtain ⟨pages, hPages, _, hAll⟩ := (hPages whole hWhole).2 2 2
  refine ⟨pages, hPages, ?_⟩
  have hLength : whole.nodes.length = 3 := by
    rw [← List.length_map, hIds]
    rfl
  rw [hAll (by omega), hIds]

end CodeGraph.Query
