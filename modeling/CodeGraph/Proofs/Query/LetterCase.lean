import CodeGraph.Proofs.Query.Conditions
import CodeGraph.Proofs.Unicode.LowerCase
import CodeGraph.Query.Standard

/-!
# String conditions and the case of letters

`CONTAINS`, `STARTS WITH` and `ENDS WITH` compare the lower case of two texts, each taken as a
whole.  Where the operand stands in the text as it is written, they find it there, unless its place
in the text gives another form to one of its sigmas (`verbatim_meets_iff`).  So an operand without
capital sigmas is always found.
-/

namespace CodeGraph.Query

open Unicode

variable {node : Node} {field : String} {operand : Value}

section

variable [Library]

def Condition.meets (c : Condition Value) (node : Node) : Bool :=
  match Check.ofCondition c with
  | .ok check => check.holds node
  | .error _ => false

theorem meets_iff {c : Condition Value} (hRegex : c.comparison ≠ .regex) :
    c.meets node = true ↔ c.Holds node := by
  rw [Condition.meets, Check.ofCondition_compare hRegex]
  exact Check.comparisonHolds_iff hRegex

theorem meets_contains_iff : Condition.meets ⟨field, .contains, operand⟩ node = true ↔
    ∃ v, node.resolve? field = some v ∧ foldedText operand <:+: foldedText v :=
  meets_iff nofun

theorem meets_startsWith_iff : Condition.meets ⟨field, .startsWith, operand⟩ node = true ↔
    ∃ v, node.resolve? field = some v ∧ foldedText operand <+: foldedText v :=
  meets_iff nofun

theorem meets_endsWith_iff : Condition.meets ⟨field, .endsWith, operand⟩ node = true ↔
    ∃ v, node.resolve? field = some v ∧ foldedText operand <:+ foldedText v :=
  meets_iff nofun

/-- **Text that is found as it is written, and where it is not.**  If the text of the field begins
with that of the operand, `STARTS WITH` holds unless the operand cuts a word after a sigma; if it
ends with it, `ENDS WITH` holds unless the operand cuts a word before a sigma; and `CONTAINS` holds
of every part whose sigmas keep their forms, so of every part without a capital sigma.  Whatever the
texts are, what starts or ends with the operand contains it. -/
theorem verbatim_meets_iff (node : Node) (field : String) (operand : Value) :
    (∀ v, node.resolve? field = some v →
      (∀ rest, v.text.toList = operand.text.toList ++ rest →
        (Condition.meets ⟨field, .startsWith, operand⟩ node = true ↔
          ¬CutsAfter operand.text.toList rest)) ∧
      (∀ front, v.text.toList = front ++ operand.text.toList →
        (Condition.meets ⟨field, .endsWith, operand⟩ node = true ↔
          ¬CutsBefore front operand.text.toList)) ∧
      ∀ front rest, v.text.toList = front ++ operand.text.toList ++ rest →
        KeepsForms front.reverse rest operand.text.toList ∨ 'Σ' ∉ operand.text.toList →
          Condition.meets ⟨field, .contains, operand⟩ node = true) ∧
    (Condition.meets ⟨field, .startsWith, operand⟩ node = true ∨
        Condition.meets ⟨field, .endsWith, operand⟩ node = true →
      Condition.meets ⟨field, .contains, operand⟩ node = true) := by
  rw [meets_startsWith_iff, meets_endsWith_iff, meets_contains_iff]
  constructor
  · intro v hField
    simp only [hField, Option.some.injEq, exists_eq_left', foldedText]
    refine ⟨fun rest hText => ?_, fun front hText => ?_, fun front rest hText hForms => ?_⟩
    · rw [hText]
      exact lowerChars_prefix_iff
    · rw [hText]
      exact lowerChars_suffix_iff
    · rw [hText]
      exact lowerChars_infix (hForms.elim id keepsForms_of_not_mem)
  · rintro (⟨v, hField, hFound⟩ | ⟨v, hField, hFound⟩)
    · exact ⟨v, hField, hFound.isInfix⟩
    · exact ⟨v, hField, hFound.isInfix⟩

end

def twoWords : Node := { (default : Node) with name := "ΑΣ ΑΣΑ" }

/-- The first word of the name, which ends in a sigma, is found where it stands, and so is the last
one. -/
theorem verbatim_meets_iff_word :
    twoWords.resolve? "name" = some (.str "ΑΣ ΑΣΑ") ∧
      ¬CutsAfter "ΑΣ".toList " ΑΣΑ".toList ∧
      Condition.meets ⟨"name", .startsWith, .str "ΑΣ"⟩ twoWords = true ∧
      Condition.meets ⟨"name", .contains, .str "ΑΣ"⟩ twoWords = true ∧
      ¬CutsBefore "ΑΣ ".toList "ΑΣΑ".toList ∧
      Condition.meets ⟨"name", .endsWith, .str "ΑΣΑ"⟩ twoWords = true := by
  have hField : twoWords.resolve? "name" = some (.str "ΑΣ ΑΣΑ") := by decide +kernel
  have hAfter : ¬CutsAfter "ΑΣ".toList " ΑΣΑ".toList := by
    rintro ⟨_, _, _, _, _, hRest⟩
    exact absurd hRest (by decide +kernel)
  have hBefore : ¬CutsBefore "ΑΣ ".toList "ΑΣΑ".toList := by
    rintro ⟨_, _, _, _, hFront, _⟩
    exact absurd hFront (by decide +kernel)
  have hFirst : "ΑΣ ΑΣΑ".toList = "ΑΣ".toList ++ " ΑΣΑ".toList := by decide +kernel
  have hLast : "ΑΣ ΑΣΑ".toList = "ΑΣ ".toList ++ "ΑΣΑ".toList := by decide +kernel
  obtain ⟨hFound, hContains⟩ := verbatim_meets_iff twoWords "name" (.str "ΑΣ")
  have hStarts := ((hFound _ hField).1 _ hFirst).2 hAfter
  obtain ⟨hFoundLast, _⟩ := verbatim_meets_iff twoWords "name" (.str "ΑΣΑ")
  have hEnds := ((hFoundLast _ hField).2.1 _ hLast).2 hBefore
  exact ⟨hField, hAfter, hStarts, hContains (Or.inl hStarts), hBefore, hEnds⟩

def oneWord : Node := { (default : Node) with name := "ΑΣΑ" }

/-- The first two letters of the name are not found in it, nor is the sigma at the end of another
name. -/
theorem verbatim_not_met :
    oneWord.resolve? "name" = some (.str "ΑΣΑ") ∧ "ΑΣΑ".toList = "ΑΣ".toList ++ "Α".toList ∧
      Condition.meets ⟨"name", .contains, .str "ΑΣ"⟩ oneWord = false ∧
      Condition.meets ⟨"name", .startsWith, .str "ΑΣ"⟩ oneWord = false ∧
      Condition.meets ⟨"name", .endsWith, .str "Σ"⟩ { oneWord with name := "ΑΣ" } = false := by
  decide +kernel

end CodeGraph.Query
