import Mathlib.Data.List.Forall2
import Mathlib.Data.List.Infix
import CodeGraph.Query.Condition

/-!
# What conditions ask

`Condition.Holds` and `Clause.Holds` say when a node meets a condition and a clause.  A condition
is `Malformed` if it asks for a regular expression and its operand is none; then the clause is an
error, and otherwise it is made into checks that a node passes exactly if it meets the clause
(`checks_cases`).
-/

namespace CodeGraph

theorem Text.occurs_iff {part text : List Char} :
    Text.occurs part text = true ↔ part <:+: text := by
  induction text with
  | nil => rw [Text.occurs, List.isEmpty_iff, List.infix_nil]
  | cons c cs ih =>
    rw [Text.occurs, Bool.or_eq_true, List.isPrefixOf_iff_prefix, ih, List.infix_cons_iff]

namespace Query

def foldedText (v : Value) : List Char := Unicode.lowerChars v.text.toList

variable [Library]

/-- The field of the node stands to the operand as the comparison says.  A field that is missing, or
whose value is not of the kind of the operand, is only ever `ne`. -/
def Condition.Holds (c : Condition Value) (node : Node) : Prop :=
  let order := (node.resolve? c.field).bind (·.compare? c.operand)
  match c.comparison with
  | .eq => order = some .eq
  | .ne => order ≠ some .eq
  | .gt => order = some .gt
  | .lt => order = some .lt
  | .ge => order = some .gt ∨ order = some .eq
  | .le => order = some .lt ∨ order = some .eq
  | .contains => ∃ v, node.resolve? c.field = some v ∧ foldedText c.operand <:+: foldedText v
  | .startsWith => ∃ v, node.resolve? c.field = some v ∧ foldedText c.operand <+: foldedText v
  | .endsWith => ∃ v, node.resolve? c.field = some v ∧ foldedText c.operand <:+ foldedText v
  | .regex => ∃ v finds, node.resolve? c.field = some v ∧
      Library.search? c.operand.text = some finds ∧ finds v.text = true

/-- The condition asks for a regular expression, and its operand is none. -/
def Condition.Malformed (c : Condition Value) : Prop :=
  c.comparison = .regex ∧ Library.search? c.operand.text = none

/-- The node meets all conditions of the clause, or one of them. -/
def Clause.Holds (clause : Clause Value) (node : Node) : Prop :=
  match clause.junction with
  | .and => ∀ c ∈ clause.conditions, c.Holds node
  | .or => ∃ c ∈ clause.conditions, c.Holds node

/-! ### Checks -/

namespace Check

theorem ofCondition_compare {c : Condition Value} (hRegex : c.comparison ≠ .regex) :
    ofCondition c = .ok ⟨c.field, .compare c.comparison c.operand⟩ := by
  unfold ofCondition
  split
  · next h => exact absurd h hRegex
  · rfl

theorem ofCondition_error {c : Condition Value} (h : c.Malformed) :
    ofCondition c = .error (.invalidRegex c.operand.text c.field) := by
  simp only [ofCondition, h.1, h.2]

theorem comparisonHolds_iff {c : Condition Value} {node : Node} (hRegex : c.comparison ≠ .regex) :
    comparisonHolds (node.resolve? c.field) c.comparison c.operand = true ↔ c.Holds node := by
  unfold comparisonHolds Condition.Holds textsRelate foldedText
  cases hComparison : c.comparison with
  | regex => exact absurd hComparison hRegex
  | contains => simp [Option.any_eq_true, Text.occurs_iff]
  | startsWith => simp [Option.any_eq_true, List.isPrefixOf_iff_prefix]
  | endsWith => simp [Option.any_eq_true, List.isSuffixOf_iff_suffix]
  | eq | ne | gt | lt | ge | le => simp

/-- A condition that is not malformed becomes a check that asks what the condition says. -/
theorem ofCondition_ok {c : Condition Value} (h : ¬c.Malformed) :
    ∃ check, ofCondition c = .ok check ∧ ∀ node, check.holds node = true ↔ c.Holds node := by
  by_cases hRegex : c.comparison = .regex
  · obtain ⟨finds, hSome⟩ : ∃ finds, Library.search? c.operand.text = some finds :=
      Option.ne_none_iff_exists'.1 fun hNone => h ⟨hRegex, hNone⟩
    refine ⟨⟨c.field, .search finds⟩, ?_, fun node => ?_⟩
    · simp only [ofCondition, hRegex, hSome]
    · simp [holds, Condition.Holds, hRegex, hSome, Option.any_eq_true]
  · exact ⟨_, ofCondition_compare hRegex, fun node => comparisonHolds_iff hRegex⟩

end Check

/-! ### Clauses -/

/-- **Conditions are made into checks as a whole or not at all.**  Either one of them is malformed,
which is the error, or none is and each has its check. -/
theorem checks_cases (conditions : List (Condition Value)) :
    (∃ c ∈ conditions, c.Malformed ∧
      conditions.mapM Check.ofCondition = .error (.invalidRegex c.operand.text c.field)) ∨
    (∀ c ∈ conditions, ¬c.Malformed) ∧ ∃ checks, conditions.mapM Check.ofCondition = .ok checks ∧
      List.Forall₂ (fun c (check : Check) => ∀ node, check.holds node = true ↔ c.Holds node)
        conditions checks := by
  induction conditions with
  | nil => exact .inr ⟨by simp, [], rfl, .nil⟩
  | cons c conditions ih =>
    rw [List.mapM_cons]
    by_cases h : c.Malformed
    · refine .inl ⟨c, List.mem_cons_self, h, ?_⟩
      rw [Check.ofCondition_error h]
      rfl
    · obtain ⟨check, hCheck, hHolds⟩ := Check.ofCondition_ok h
      rw [hCheck]
      rcases ih with ⟨c', hc', hMalformed, hError⟩ | ⟨hNone, checks, hChecks, hForall⟩
      · refine .inl ⟨c', List.mem_cons_of_mem _ hc', hMalformed, ?_⟩
        rw [hError]
        rfl
      · refine .inr ⟨by simpa [h] using hNone, check :: checks, ?_, .cons hHolds hForall⟩
        rw [hChecks]
        rfl

theorem combine_iff {clause : Clause Value} {checks : List Check}
    (h : List.Forall₂ (fun c (check : Check) => ∀ node, check.holds node = true ↔ c.Holds node)
      clause.conditions checks) (node : Node) :
    clause.junction.combine checks node = true ↔ clause.Holds node := by
  unfold Junction.combine Clause.Holds
  generalize clause.conditions = conditions at h
  cases clause.junction with
  | and =>
    show checks.all (·.holds node) = true ↔ ∀ c ∈ conditions, c.Holds node
    induction h with
    | nil => simp
    | cons hHead _ ih => rw [List.all_cons, Bool.and_eq_true, ih, hHead, List.forall_mem_cons]
  | or =>
    show checks.any (·.holds node) = true ↔ ∃ c ∈ conditions, c.Holds node
    induction h with
    | nil => simp
    | cons hHead _ ih => rw [List.any_cons, Bool.or_eq_true, ih, hHead, List.exists_mem_cons_iff]

theorem predicate_cases (clause : Clause Value) :
    (∃ c ∈ clause.conditions, c.Malformed ∧
      clause.predicate = .error (.invalidRegex c.operand.text c.field)) ∨
    (∀ c ∈ clause.conditions, ¬c.Malformed) ∧ ∃ test, clause.predicate = .ok test ∧
      ∀ node, test node = true ↔ clause.Holds node := by
  unfold Clause.predicate Clause.checks
  rcases checks_cases clause.conditions with
    ⟨c, hc, hMalformed, hError⟩ | ⟨hNone, checks, hChecks, hForall⟩
  · exact .inl ⟨c, hc, hMalformed, by rw [hError]; rfl⟩
  · exact .inr ⟨hNone, _, by rw [hChecks]; rfl, combine_iff hForall⟩

theorem Clause.holds_of_perm {clause clause' : Clause Value}
    (hConditions : clause.conditions.Perm clause'.conditions)
    (hJunction : clause.junction = clause'.junction) (node : Node) :
    clause.Holds node ↔ clause'.Holds node := by
  unfold Clause.Holds
  rw [hJunction]
  cases clause'.junction with
  | and => exact forall_congr' fun c => by rw [hConditions.mem_iff]
  | or => exact exists_congr fun c => by rw [hConditions.mem_iff]

end Query

end CodeGraph
