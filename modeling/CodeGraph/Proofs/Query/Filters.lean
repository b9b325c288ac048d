import Mathlib.Data.List.TakeWhile
import CodeGraph.Proofs.Query.Conditions
import CodeGraph.Proofs.Query.Tokens
import CodeGraph.Query.Standard

/-!
# Property filters and conditions

A property of a node pattern and an equality of a `WHERE` clause both compare a field of the node
with a value, and each finds the field in its own way: a condition takes the node's own field if
there is one, a filter takes it only if it counts as true, and both fall back on metadata.  Where
metadata does not use the names of own fields (`Node.Unshadowed`), the two find the same value
unless the own field is there and counts as false (`propertyOf?_eq_some_iff`).  So they agree but
for such a field, by which the filter accepts nothing (`accepts_property_iff`).
-/

namespace CodeGraph

/-! ### Own fields -/

namespace Node

/-- The names of the fields that nodes have of their own. -/
def ownNames : List String :=
  ["id", "type", "name", "path", "confidence", "lastUpdated", "last_updated", "frameworks"]

theorem field?_eq_none {name : String} (h : name ∉ ownNames) (node : Node) :
    node.field? name = none := by
  unfold field?
  split <;> first | rfl | simp [ownNames] at h

theorem mem_ownNames_iff {name : String} :
    name ∈ ownNames ↔ ∃ node : Node, (node.field? name).isSome = true := by
  constructor
  · intro h
    refine ⟨{ (default : Node) with path := some "", frameworks := some [] }, ?_⟩
    simp only [ownNames, List.mem_cons, List.not_mem_nil, or_false] at h
    rcases h with rfl | rfl | rfl | rfl | rfl | rfl | rfl | rfl <;> rfl
  · rintro ⟨node, hSome⟩
    by_contra hNot
    rw [field?_eq_none hNot] at hSome
    cases hSome

/-- Metadata does not use the names of own fields. -/
def Unshadowed (node : Node) : Prop := ∀ name ∈ ownNames, node.metadata.find? name = none

instance (node : Node) : Decidable node.Unshadowed :=
  inferInstanceAs (Decidable (∀ name ∈ ownNames, node.metadata.find? name = none))

theorem Unshadowed.find?_eq_none {node : Node} (h : node.Unshadowed) {name : String} {own : Value}
    (hOwn : node.field? name = some own) : node.metadata.find? name = none :=
  h name (mem_ownNames_iff.2 ⟨node, by rw [hOwn]; rfl⟩)

end Node

/-! ### Paths -/

theorem Text.split_of_not_mem {separator : Char} {cs : List Char} (h : separator ∉ cs) :
    Text.split separator cs = [cs] := by
  induction cs with
  | nil => rfl
  | cons c cs ih =>
    rw [List.mem_cons, not_or] at h
    rw [Text.split, if_neg (Ne.symm h.1), ih h.2]

/-- The path that leads from `n` to a name without a dot is that to the name itself. -/
theorem Node.resolve?_owner (node : Node) {name : String} (h : '.' ∉ name.toList) :
    node.resolve? ("n." ++ name) = node.ownOrMetadata? name := by
  have hSplit : Text.split '.' ("n." ++ name).toList = [['n'], name.toList] := by
    rw [String.toList_append, show "n.".toList = ['n', '.'] from rfl, List.cons_append,
      List.cons_append, List.nil_append, Text.split, if_neg (by decide), Text.split, if_pos rfl,
      Text.split_of_not_mem h]
  rw [Node.resolve?, hSplit, List.map_cons, List.map_singleton, String.ofList_toList]
  rfl

namespace Query

/-! ### Identifiers -/

/-- The name is an identifier of some text. -/
def IsIdentifier (name : String) : Prop :=
  ∃ text lexemes, tokenize text = .ok lexemes ∧ ∃ lexeme ∈ lexemes, lexeme.token = .ident name

theorem readSign?_ne_ident {c : Char} {next : Option Char} {double : Bool} {name : String} :
    readSign? c next ≠ some (.ident name, double) := by
  unfold readSign?
  split <;> simp

theorem readNumber_ne_ident {cs : List Char} {n : Nat} {name : String} :
    readNumber cs ≠ .ok (.ident name, n) := by
  fun_cases readNumber cs <;> simp

/-- An identifier is read off characters of names. -/
theorem isNameChar_of_readToken {c : Char} {cs : List Char} {name : String} {n : Nat}
    (h : readToken c cs = .ok (.ident name, n)) : ∀ d ∈ name.toList, isNameChar d = true := by
  revert h
  fun_cases readToken c cs with
  | case1 token double hSign =>
    rintro ⟨⟩
    exact absurd hSign readSign?_ne_ident
  | case6 =>
    intro h
    cases hNumber : readNumber (c :: cs) with
    | error fault => rw [hNumber] at h; cases h
    | ok found =>
      obtain ⟨token, m⟩ := found
      rw [hNumber] at h
      cases h
      exact absurd hNumber readNumber_ne_ident
  | case7 hSign hQuote hDollar hDigit hStart rest =>
    rintro ⟨⟩ d hd
    rw [String.toList_ofList] at hd
    rcases List.mem_cons.1 hd with rfl | hd
    · simp only [isNameStart, Bool.or_eq_true] at hStart
      rcases hStart with hLetter | hLine
      · simp [isNameChar, Unicode.isAlphanumeric, hLetter]
      · simp [isNameChar, hLine]
    · exact List.mem_takeWhile_imp hd
  | case2 | case3 | case4 | case5 | case8 => rintro ⟨⟩

theorem isNameChar_of_scan {offset : Nat} {cs : List Char} {lexemes : List Lexeme}
    (h : scan offset cs = .ok lexemes) {lexeme : Lexeme} (hMem : lexeme ∈ lexemes) {name : String}
    (hIdent : lexeme.token = .ident name) : ∀ d ∈ name.toList, isNameChar d = true := by
  fun_induction scan offset cs generalizing lexemes with
  | case1 => cases h; cases hMem
  | case2 offset c cs hBlank ih => exact ih h hMem
  | case3 | case4 => cases h
  | case5 offset c cs hBlank token n hToken source rest hRest =>
    rename_i ih
    cases h
    rcases List.mem_cons.1 hMem with rfl | hMem
    · rw [show token = .ident name from hIdent] at hToken
      exact isNameChar_of_readToken hToken
    · exact ih hRest hMem

theorem IsIdentifier.dot_not_mem {name : String} (h : IsIdentifier name) : '.' ∉ name.toList := by
  obtain ⟨text, lexemes, hTokens, lexeme, hMem, hIdent⟩ := h
  intro hDot
  have hName := isNameChar_of_scan hTokens hMem hIdent '.' hDot
  exact absurd hName (by decide +kernel)

/-! ### Filters -/

variable {node : Node} {name : String} {v w : Value}

/-- A filter finds what a condition finds, unless the own field counts as false. -/
theorem propertyOf?_eq_some_iff (h : node.Unshadowed) :
    propertyOf? node name = some w ↔
      node.ownOrMetadata? name = some w ∧
        ∀ own, node.field? name = some own → own.isTruthy = true := by
  rw [propertyOf?, Node.ownOrMetadata?]
  cases hOwn : node.field? name with
  | none => simp
  | some own =>
    cases hTruthy : own.isTruthy with
    | true => simp [hTruthy]
    | false => simp [hTruthy, h.find?_eq_none hOwn]

theorem accepts_property (variableName : Option String) :
    NodePattern.accepts ⟨variableName, [], .ofList [(name, v)]⟩ node = true ↔
      ∃ w, propertyOf? node name = some w ∧ w.equals v = true := by
  have hEntries : (Fields.ofList [(name, v)]).toList = [(name, v)] := rfl
  simp [NodePattern.accepts, hEntries, Option.any_eq_true]

section

variable [Library]

theorem holds_eq_iff (h : '.' ∉ name.toList) :
    (⟨"n." ++ name, .eq, v⟩ : Condition Value).Holds node ↔
      ∃ w, node.ownOrMetadata? name = some w ∧ w.equals v = true := by
  simp only [Condition.Holds, node.resolve?_owner h, Option.bind_eq_some_iff, Value.equals,
    beq_iff_eq]

theorem predicate_single {c : Condition Value} (hRegex : c.comparison ≠ .regex)
    (junction : Junction) :
    ∃ test, Clause.predicate ⟨[c], junction⟩ = .ok test ∧
      ∀ node, test node = true ↔ c.Holds node := by
  rcases predicate_cases ⟨[c], junction⟩ with ⟨c', hc', hMalformed, _⟩ | ⟨_, test, hTest, hHolds⟩
  · rw [List.mem_singleton.1 hc'] at hMalformed
    exact absurd hMalformed.1 hRegex
  · refine ⟨test, hTest, fun node => (hHolds node).trans ?_⟩
    cases junction <;> simp [Clause.Holds]

/-- **A property filter and an equality agree, but for own fields that count as false.**  On a node
whose metadata does not use the names of own fields, a pattern with one property accepts just if the
condition that the field equals the value holds and the node has no field of that name that counts
as false. -/
theorem accepts_property_iff (hNode : node.Unshadowed) (hName : IsIdentifier name) (v : Value)
    (variableName : Option String) (junction : Junction) :
    ∃ test, Clause.predicate ⟨[⟨"n." ++ name, .eq, v⟩], junction⟩ = .ok test ∧
      (NodePattern.accepts ⟨variableName, [], .ofList [(name, v)]⟩ node = true ↔
        test node = true ∧ ∀ own, node.field? name = some own → own.isTruthy = true) := by
  obtain ⟨test, hTest, hHolds⟩ := predicate_single
    (c := ⟨"n." ++ name, .eq, v⟩) (fun h => by cases h) junction
  refine ⟨test, hTest, ?_⟩
  rw [accepts_property, hHolds, holds_eq_iff hName.dot_not_mem]
  constructor
  · rintro ⟨w, hFound, hEquals⟩
    obtain ⟨hResolved, hTruthy⟩ := (propertyOf?_eq_some_iff hNode).1 hFound
    exact ⟨⟨w, hResolved, hEquals⟩, hTruthy⟩
  · rintro ⟨⟨w, hResolved, hEquals⟩, hTruthy⟩
    exact ⟨w, (propertyOf?_eq_some_iff hNode).2 ⟨hResolved, hTruthy⟩, hEquals⟩

end

def unnamed : Node :=
  { (default : Node) with metadata := .ofList [("lines", .int 120)] }

theorem unshadowed_unnamed : unnamed.Unshadowed := by decide +kernel

/-- Metadata that is no own field is found by the filter and by the condition, and a whole number
equals the float. -/
theorem accepts_property_iff_lines :
    unnamed.Unshadowed ∧ IsIdentifier "lines" ∧
      ∃ test, Clause.predicate ⟨[⟨"n.lines", .eq, .float (.ofInt 120)⟩], .and⟩ = .ok test ∧
        test unnamed = true := by
  have hName : IsIdentifier "lines" :=
    ⟨"lines", [⟨.ident "lines", 0, "lines".toList⟩], by decide +kernel, _, List.mem_cons_self, rfl⟩
  obtain ⟨test, hTest, hAgree⟩ := accepts_property_iff unshadowed_unnamed hName
    (.float (.ofInt 120)) none .and
  exact ⟨unshadowed_unnamed, hName, test, hTest, (hAgree.1 (by decide +kernel)).1⟩

/-- A node without a name meets the condition that its name is the empty text, and the filter for
the empty name does not accept it. -/
theorem accepts_not_empty_name :
    unnamed.Unshadowed ∧ IsIdentifier "name" ∧
      NodePattern.accepts ⟨none, [], .ofList [("name", .str "")]⟩ unnamed = false ∧
      ∃ test, Clause.predicate ⟨[⟨"n.name", .eq, .str ""⟩], .and⟩ = .ok test ∧
        test unnamed = true := by
  have hName : IsIdentifier "name" :=
    ⟨"name", [⟨.ident "name", 0, "name".toList⟩], by decide +kernel, _, List.mem_cons_self, rfl⟩
  exact ⟨unshadowed_unnamed, hName, by decide +kernel, _, rfl, by decide +kernel⟩

end Query

end CodeGraph
