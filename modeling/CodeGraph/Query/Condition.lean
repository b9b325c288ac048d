import CodeGraph.Query.Error
import CodeGraph.Query.Field
import CodeGraph.Query.Library
import CodeGraph.Text.Occurrence
import CodeGraph.Unicode.Case

/-! # Conditions

A clause is checked once for its regular expressions; after that it can be asked of any node.
-/

namespace CodeGraph.Query

/-- What a condition does with the value of its field: compares it, or searches its text. -/
inductive Test where
  | compare (comparison : Comparison) (right : Value)
  | search (finds : String → Bool)

/-- A condition ready to be asked. -/
structure Check where
  field : String
  test : Test

namespace Check

/-- The condition made ready, unless it asks for a regular expression and its text is none. -/
def ofCondition [Library] (c : Condition Value) : Except QueryError Check :=
  match c.comparison with
  | .regex =>
    match Library.search? c.operand.text with
    | some finds => .ok ⟨c.field, .search finds⟩
    | none => .error (.invalidRegex c.operand.text c.field)
  | comparison => .ok ⟨c.field, .compare comparison c.operand⟩

/-- Whether the texts of two values stand in a relation, case aside. -/
def textsRelate (relation : List Char → List Char → Bool) (left right : Value) : Bool :=
  relation (Unicode.lowerChars left.text.toList) (Unicode.lowerChars right.text.toList)

def comparisonHolds (left : Option Value) (comparison : Comparison) (right : Value) : Bool :=
  let order := left.bind (·.compare? right)
  match comparison with
  | .eq => order == some .eq
  | .ne => order != some .eq
  | .gt => order == some .gt
  | .lt => order == some .lt
  | .ge => order == some .gt || order == some .eq
  | .le => order == some .lt || order == some .eq
  | .contains => left.any (textsRelate (fun text part => Text.occurs part text) · right)
  | .startsWith => left.any (textsRelate (fun text part => part.isPrefixOf text) · right)
  | .endsWith => left.any (textsRelate (fun text part => part.isSuffixOf text) · right)
  | .regex => false

def holds (check : Check) (node : Node) : Bool :=
  let value := node.resolve? check.field
  match check.test with
  | .compare comparison right => comparisonHolds value comparison right
  | .search finds => value.any fun v => finds v.text

end Check

/-- The conditions of a clause made ready; the first that cannot be is the error. -/
def Clause.checks [Library] (c : Clause Value) : Except QueryError (List Check) :=
  c.conditions.mapM Check.ofCondition

/-- Whether a node meets all checks, or one of them. -/
def Junction.combine (junction : Junction) (checks : List Check) (node : Node) : Bool :=
  match junction with
  | .and => checks.all (·.holds node)
  | .or => checks.any (·.holds node)

def Clause.predicate [Library] (c : Clause Value) : Except QueryError (Node → Bool) :=
  c.checks.map c.junction.combine

end CodeGraph.Query
