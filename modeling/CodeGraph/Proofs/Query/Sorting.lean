import Mathlib.Data.List.Induction
import Mathlib.Data.List.Nodup
import CodeGraph.Proofs.Value.Order
import CodeGraph.Query.Execution

/-!
# Sorting nodes

Turning a comparison around and putting one after another keep that it `Orders` nodes, so several
keys order nodes as soon as each key does (`orders_compareBy`), which is where no values of a key
blur (`keyCompare_ordered_iff`).

Nodes are stably sorted (`StablySorted`) if each precedes the later ones, by the first key that
tells them apart or, if none does, by its place in the scan.  There is at most one such arrangement
(`StablySorted.eq`), and a stable sort finds it where the keys order the nodes
(`stablySorted_of_sorts`).
-/

namespace CodeGraph.Query

variable {keys : List SortKey} {nodes : List Node}

/-! ### Total preorders -/

namespace Orders

variable {cmp cmp' : Node → Node → Ordering}

theorem direct (h : Orders cmp nodes) (direction : SortDirection) :
    Orders (fun a b => direction.apply (cmp a b)) nodes := by
  cases direction with
  | asc => exact h
  | desc =>
    refine ⟨?_, ?_, ?_⟩
    · intro a ha
      show (cmp a a).swap = .eq
      rw [h.self a ha, Ordering.swap]
    · intro a ha b hb
      show (cmp b a).swap = ((cmp a b).swap).swap
      rw [h.swap a ha b hb]
    · intro a ha b hb c hc hab hbc
      show (cmp a c).swap ≠ .gt
      rw [← h.swap a ha c hc]
      have hba : cmp b a ≠ .gt := by
        rw [h.swap a ha b hb]
        exact hab
      have hcb : cmp c b ≠ .gt := by
        rw [h.swap b hb c hc]
        exact hbc
      exact h.trans c hc b hb a ha hcb hba

theorem eq_of_chain (h : Orders cmp nodes) {a b c : Node} (ha : a ∈ nodes) (hb : b ∈ nodes)
    (hc : c ∈ nodes) (hab : cmp a b ≠ .gt) (hbc : cmp b c ≠ .gt) (hac : cmp a c = .eq) :
    cmp a b = .eq ∧ cmp b c = .eq := by
  have hca : cmp c a ≠ .gt := by
    rw [h.swap a ha c hc, hac]
    decide
  have hba : cmp b a ≠ .gt := h.trans b hb c hc a ha hbc hca
  have hcb : cmp c b ≠ .gt := h.trans c hc a ha b hb hca hab
  rw [h.swap a ha b hb, swap_ne_gt] at hba
  rw [h.swap b hb c hc, swap_ne_gt] at hcb
  constructor
  · cases hCompare : cmp a b <;> simp_all
  · cases hCompare : cmp b c <;> simp_all

theorem andThen (h : Orders cmp nodes) (h' : Orders cmp' nodes) :
    Orders (fun a b => (cmp a b).then (cmp' a b)) nodes where
  self a ha := by
    show (cmp a a).then (cmp' a a) = .eq
    rw [h.self a ha, h'.self a ha, Ordering.then]
  swap a ha b hb := by
    show (cmp b a).then (cmp' b a) = ((cmp a b).then (cmp' a b)).swap
    rw [h.swap a ha b hb, h'.swap a ha b hb, Ordering.swap_then]
  trans a ha b hb c hc hab hbc := by
    have hne : ∀ {o o' : Ordering}, o.then o' ≠ .gt → o ≠ .gt ∧ (o = .eq → o' ≠ .gt) := by
      intro o o'
      cases o <;> simp [Ordering.then]
    obtain ⟨hab, hab'⟩ := hne hab
    obtain ⟨hbc, hbc'⟩ := hne hbc
    have hac := h.trans a ha b hb c hc hab hbc
    show (cmp a c).then (cmp' a c) ≠ .gt
    cases hCompare : cmp a c with
    | lt => simp [Ordering.then]
    | gt => exact absurd hCompare hac
    | eq =>
      obtain ⟨hEq, hEq'⟩ := h.eq_of_chain ha hb hc hab hbc hCompare
      exact h'.trans a ha b hb c hc (hab' hEq) (hbc' hEq')

end Orders

/-! ### Keys -/

abbrev fieldOrder (field : String) (a b : Node) : Ordering :=
  Value.keyCompare (a.resolve? field) (b.resolve? field)

/-- For each key the order of the nodes is transitive. -/
def KeysTransitive (keys : List SortKey) (p : Node → Prop) : Prop :=
  ∀ key ∈ keys, ∀ a b c, p a → p b → p c →
    fieldOrder key.expression a b ≠ .gt → fieldOrder key.expression b c ≠ .gt →
      fieldOrder key.expression a c ≠ .gt

/-- **Keys whose values are in order put nodes in order.** -/
theorem orders_compareBy (h : KeysTransitive keys (· ∈ nodes)) :
    Orders (compareBy keys) nodes := by
  induction keys with
  | nil => exact ⟨fun _ _ => rfl, fun _ _ _ _ => rfl, fun _ _ _ _ _ _ hab _ => hab⟩
  | cons key keys ih =>
    have hKey : Orders (fun a b => Value.keyCompare (a.resolve? key.expression)
        (b.resolve? key.expression)) nodes :=
      ⟨fun _ _ => Value.keyCompare_self _, fun _ _ _ _ => Value.keyCompare_swap _ _,
        fun a ha b hb c hc => h key List.mem_cons_self a b c ha hb hc⟩
    have hKeys : Orders (compareBy keys) nodes :=
      ih fun other hOther => h other (List.mem_cons_of_mem _ hOther)
    exact (hKey.direct key.direction).andThen hKeys

/-- **Sort keys are in order where nothing blurs.**  Equality with itself and turning around always
hold; a chain of three keys keeps the order exactly if it does not blur; and by any number of keys
nodes are in order as long as none of their values blur. -/
theorem keyCompare_ordered_iff (a b c : Option Value) (keys : List SortKey) (nodes : List Node) :
    Value.keyCompare a a = .eq ∧
      Value.keyCompare b a = (Value.keyCompare a b).swap ∧
      ((Value.keyCompare a b ≠ .gt → Value.keyCompare b c ≠ .gt → Value.keyCompare a c ≠ .gt) ↔
        ¬Value.Blurs a b c) ∧
      ((∀ key ∈ keys, ∀ u ∈ nodes, ∀ v ∈ nodes, ∀ w ∈ nodes,
          ¬Value.Blurs (u.resolve? key.expression) (v.resolve? key.expression)
            (w.resolve? key.expression)) →
        Orders (compareBy keys) nodes) := by
  refine ⟨Value.keyCompare_self a, Value.keyCompare_swap a b, ⟨?_, ?_⟩, fun hClear => ?_⟩
  · intro hChain hBlurs
    obtain ⟨hab, hbc, hac⟩ := Value.keyCompare_breaks_iff.2 hBlurs
    exact hChain hab hbc hac
  · exact fun hNot hab hbc hac => hNot (Value.blurs_of_keyCompare hab hbc hac)
  · refine orders_compareBy fun key hKey u v w hu hv hw huv hvw huw => ?_
    exact hClear key hKey u hu v hv w hw (Value.blurs_of_keyCompare huv hvw huw)

def rankedNode (rank : Option Value) : Node :=
  { (default : Node) with metadata := .ofList (rank.toList.map ("rank", ·)) }

/-- The integers `2 ^ 53 + 1` and `2 ^ 53` differ and are both equal to the double `2 ^ 53`. -/
theorem keyCompare_breaks_two_pow :
    Value.keyCompare (some (.int 9007199254740993))
        (some (.float (.ofInt 9007199254740992))) = .eq ∧
      Value.keyCompare (some (.float (.ofInt 9007199254740992)))
        (some (.int 9007199254740992)) = .eq ∧
      Value.keyCompare (some (.int 9007199254740993)) (some (.int 9007199254740992)) = .gt ∧
      ¬Orders (compareBy [⟨"rank", .asc⟩])
        [rankedNode (some (.int 9007199254740993)),
          rankedNode (some (.float (.ofInt 9007199254740992))),
          rankedNode (some (.int 9007199254740992))] := by
  refine ⟨by decide +kernel, by decide +kernel, by decide +kernel, fun h => ?_⟩
  have hChain := h.trans (rankedNode (some (.int 9007199254740993))) (by simp)
    (rankedNode (some (.float (.ofInt 9007199254740992)))) (by simp)
    (rankedNode (some (.int 9007199254740992))) (by simp)
  exact absurd (hChain (by decide +kernel) (by decide +kernel)) (by decide +kernel)

/-- Upward a chain may pass the double that both integers round to, and ranks of all kinds are in
order with that double next to one of them. -/
theorem keyCompare_ordered_mixed :
    Value.keyCompare (some (.int 9007199254740992)) (some (.int 9007199254740993)) ≠ .gt ∧
      Orders (compareBy [⟨"rank", .desc⟩, ⟨"id", .asc⟩])
        [rankedNode (some (.int 9007199254740993)),
          rankedNode (some (.float (.ofInt 9007199254740992))),
          rankedNode (some (.float .notANumber)), rankedNode (some (.str "high")),
          rankedNode (some (.bool true)), rankedNode none] := by
  obtain ⟨_, _, hChain, hOrders⟩ := keyCompare_ordered_iff (some (.int 9007199254740992))
    (some (.float (.ofInt 9007199254740992))) (some (.int 9007199254740993))
    [⟨"rank", .desc⟩, ⟨"id", .asc⟩]
    [rankedNode (some (.int 9007199254740993)),
      rankedNode (some (.float (.ofInt 9007199254740992))),
      rankedNode (some (.float .notANumber)), rankedNode (some (.str "high")),
      rankedNode (some (.bool true)), rankedNode none]
  exact ⟨hChain.2 (by decide +kernel) (by decide +kernel) (by decide +kernel),
    hOrders (by decide +kernel)⟩

theorem compareBy_swap (keys : List SortKey) (a b : Node) :
    compareBy keys b a = (compareBy keys a b).swap := by
  induction keys with
  | nil => rfl
  | cons key keys ih =>
    rw [compareBy, compareBy, ih, Value.keyCompare_swap, Ordering.swap_then]
    cases key.direction <;> rfl

/-! ### Stable arrangements -/

/-- The key puts one node before another: its value comes first, or last if it is descending. -/
def SortKey.Puts (key : SortKey) (a b : Node) : Prop :=
  match key.direction with
  | .asc => fieldOrder key.expression a b = .lt
  | .desc => fieldOrder key.expression a b = .gt

def SortKey.Ties (key : SortKey) (a b : Node) : Prop := fieldOrder key.expression a b = .eq

/-- A node comes before another by the first key that does not tie them or, if all do, by its place
in the scan. -/
def Precedes (keys : List SortKey) (scan : List Node) (a b : Node) : Prop :=
  (∃ before key after, keys = before ++ key :: after ∧ (∀ k ∈ before, k.Ties a b) ∧
    key.Puts a b) ∨
  (∀ key ∈ keys, key.Ties a b) ∧ scan.idxOf a < scan.idxOf b

theorem apply_eq_lt_iff {key : SortKey} {a b : Node} :
    key.direction.apply (fieldOrder key.expression a b) = .lt ↔ key.Puts a b := by
  rw [SortKey.Puts]
  cases key.direction with
  | asc => rfl
  | desc => cases fieldOrder key.expression a b <;> decide

theorem apply_eq_eq_iff {key : SortKey} {a b : Node} :
    key.direction.apply (fieldOrder key.expression a b) = .eq ↔ key.Ties a b := by
  rw [SortKey.Ties]
  cases key.direction with
  | asc => rfl
  | desc => cases fieldOrder key.expression a b <;> decide

theorem compareBy_eq_eq_iff {a b : Node} :
    compareBy keys a b = .eq ↔ ∀ key ∈ keys, key.Ties a b := by
  induction keys with
  | nil => simp [compareBy]
  | cons key keys ih =>
    rw [compareBy, Ordering.then_eq_eq, ih, apply_eq_eq_iff, List.forall_mem_cons]

theorem compareBy_eq_lt_iff {a b : Node} :
    compareBy keys a b = .lt ↔ ∃ before key after, keys = before ++ key :: after ∧
      (∀ k ∈ before, k.Ties a b) ∧ key.Puts a b := by
  induction keys with
  | nil => simp [compareBy]
  | cons key keys ih =>
    rw [compareBy, Ordering.then_eq_lt, ih, apply_eq_lt_iff, apply_eq_eq_iff]
    constructor
    · rintro (hPuts | ⟨hTies, before, next, after, rfl, hBefore, hPuts⟩)
      · exact ⟨[], key, keys, rfl, by simp, hPuts⟩
      · exact ⟨key :: before, next, after, rfl, List.forall_mem_cons.2 ⟨hTies, hBefore⟩, hPuts⟩
    · rintro ⟨before, next, after, hKeys, hBefore, hPuts⟩
      cases before with
      | nil =>
        cases hKeys
        exact Or.inl hPuts
      | cons first before =>
        cases hKeys
        obtain ⟨hTies, hBefore⟩ := List.forall_mem_cons.1 hBefore
        exact Or.inr ⟨hTies, before, next, after, rfl, hBefore, hPuts⟩

theorem precedes_iff {a b : Node} : Precedes keys nodes a b ↔
    compareBy keys a b = .lt ∨ compareBy keys a b = .eq ∧ nodes.idxOf a < nodes.idxOf b := by
  rw [Precedes, compareBy_eq_lt_iff, compareBy_eq_eq_iff]

theorem Precedes.asymm {a b : Node} (h : Precedes keys nodes a b) : ¬Precedes keys nodes b a := by
  rw [precedes_iff] at h ⊢
  rintro (hlt | ⟨heq, hIdx⟩)
  · rw [compareBy_swap keys a b] at hlt
    rcases h with h | ⟨h, _⟩ <;> rw [h] at hlt <;> cases hlt
  · rw [compareBy_swap keys a b] at heq
    rcases h with h | ⟨_, h⟩
    · rw [h] at heq
      cases heq
    · exact Nat.lt_asymm h hIdx

/-- The nodes of a scan in the order of the keys, those that are equal as they were scanned. -/
structure StablySorted (keys : List SortKey) (scan sorted : List Node) : Prop where
  perm : sorted.Perm scan
  precedes : sorted.Pairwise (Precedes keys scan)

/-- **There is only one stable arrangement.** -/
theorem StablySorted.eq {sorted sorted' : List Node} (h : StablySorted keys nodes sorted)
    (h' : StablySorted keys nodes sorted') : sorted = sorted' := by
  refine List.Perm.eq_of_pairwise ?_ h.precedes h'.precedes (h.perm.trans h'.perm.symm)
  exact fun a b _ _ hab hba => absurd hba hab.asymm

theorem pair_sublist_of_idxOf_lt {a b : Node} (hb : b ∈ nodes)
    (h : nodes.idxOf a < nodes.idxOf b) : [a, b].Sublist nodes := by
  induction nodes with
  | nil => cases hb
  | cons c rest ih =>
    have hcb : c ≠ b := by
      rintro rfl
      simp at h
    have hRest : b ∈ rest := List.mem_of_ne_of_mem hcb.symm hb
    by_cases hca : c = a
    · subst hca
      exact (List.singleton_sublist.2 hRest).cons_cons c
    · rw [List.idxOf_cons_ne _ hca, List.idxOf_cons_ne _ hcb] at h
      exact (ih hRest (Nat.lt_of_succ_lt_succ h)).cons c

theorem idxOf_lt_of_pair_sublist {a b : Node} (hNodup : nodes.Nodup)
    (h : [a, b].Sublist nodes) : nodes.idxOf a < nodes.idxOf b := by
  have hPlaces : nodes.Pairwise fun x y => nodes.idxOf x < nodes.idxOf y := by
    refine List.pairwise_iff_getElem.2 fun i j hi hj hij => ?_
    rwa [hNodup.idxOf_getElem i hi, hNodup.idxOf_getElem j hj]
  exact (List.pairwise_cons.1 (hPlaces.sublist h)).1 b List.mem_cons_self

/-- **A stable sort finds this arrangement.** -/
theorem stablySorted_of_sorts {sorted : List Node} (hNodup : nodes.Nodup)
    (h : StablySorts (compareBy keys) nodes sorted) : StablySorted keys nodes sorted := by
  refine ⟨h.perm, List.pairwise_iff_forall_sublist.2 fun {a b} hPair => precedes_iff.2 ?_⟩
  have hPlaces : sorted.idxOf a < sorted.idxOf b :=
    idxOf_lt_of_pair_sublist (h.perm.nodup_iff.2 hNodup) hPair
  cases hCompare : compareBy keys a b with
  | lt => exact Or.inl rfl
  | gt => exact absurd hCompare (List.pairwise_iff_forall_sublist.1 h.inOrder hPair)
  | eq =>
    -- scanned the other way around, they would have been left so
    refine Or.inr ⟨rfl, Nat.lt_of_not_le fun hLe => ?_⟩
    have ha : a ∈ nodes := h.perm.subset (hPair.subset List.mem_cons_self)
    have hb : b ∈ nodes := h.perm.subset (hPair.subset (by simp))
    have hNe : nodes.idxOf b ≠ nodes.idxOf a := fun hSame => by
      obtain rfl : b = a := (List.idxOf_inj hb).1 hSame
      exact Nat.lt_irrefl _ hPlaces
    have hSwap : compareBy keys b a = .eq := by
      rw [compareBy_swap keys a b, hCompare, Ordering.swap]
    have hBack : [b, a].Sublist sorted :=
      h.stable b a (pair_sublist_of_idxOf_lt ha (Nat.lt_of_le_of_ne hLe hNe)) hSwap
    exact Nat.lt_asymm hPlaces (idxOf_lt_of_pair_sublist (h.perm.nodup_iff.2 hNodup) hBack)

end CodeGraph.Query
