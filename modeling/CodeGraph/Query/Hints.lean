import CodeGraph.Query.Plan

/-! # Hints

An estimate of what a plan costs and an outline of its steps. Hints explain; they do not change what
a query gives.
-/

namespace CodeGraph.Query

structure Hints where
  indexes : List String
  cost : Int
  steps : List String
deriving DecidableEq

namespace Hints

def baseCost : Int := 100

def labelDiscount : Int := 20

def fieldDiscount : Int := 10

/-- The labels that nodes can be looked up by. -/
def indexedLabels : List String := ["file", "function"]

/-- The endings of the field paths that nodes can be looked up by. -/
def indexedFields : List String := [".name", ".path"]

private def inSmallLetters (s : String) : String := String.ofList (s.toList.map Char.toLower)

private def endsWith (ending s : String) : Bool := ending.toList.isSuffixOf s.toList

/-- An index that helps, and the step that uses it. -/
structure Use where
  index : String
  step : String
  discount : Int

/-- The label index that a node pattern can use; patterns are numbered from zero. -/
def labelUse? (number : Nat) (p : NodePattern Value) : Option Use :=
  ((p.labels.map inSmallLetters).find? indexedLabels.contains).map fun label =>
    { index := "label:" ++ label
      step :=
        s!"Use type index for pattern #{number + 1} (" ++ p.name.getD "_" ++ ":" ++ label ++ ")"
      discount := labelDiscount }

def fieldUse? (c : Condition Value) : Option Use :=
  if indexedFields.any (endsWith · c.field) then
    some
      { index := "field:" ++ c.field
        step :=
          "Use field index for " ++ c.field ++ " " ++ c.comparison.text ++ " " ++ c.operand.text
        discount := fieldDiscount }
  else none

def uses (plan : Plan Value) : List Use :=
  (plan.nodes.zipIdx.filterMap fun (p, i) => labelUse? i p) ++
    (plan.filter.toList.flatMap (·.conditions)).filterMap fieldUse?

private def filterStep (c : Clause Value) : String :=
  let junction := match c.junction with
    | .and => "AND"
    | .or => "OR"
  s!"Filter {c.conditions.length} condition(s) combined with " ++ junction

private def sortStep (keys : List SortKey) : String :=
  "Sort by " ++ ", ".intercalate (keys.map fun key =>
    key.expression ++ match key.direction with
      | .asc => " ASC"
      | .desc => " DESC")

/-- The steps that every plan takes. -/
def outline (plan : Plan Value) : List String :=
  [s!"Scan nodes and intersect {plan.nodes.length} pattern(s)"] ++
    (plan.filter.map filterStep).toList ++ (plan.order.map sortStep).toList ++
    (plan.skip.map fun n => s!"Skip {n}").toList ++
    (plan.limit.map fun n => s!"Limit {n}").toList ++
    ["Collect incident edges"]

/-- The hints for a plan: every index that helps lowers the cost. -/
def ofPlan (plan : Plan Value) : Hints where
  indexes := (uses plan).map (·.index)
  cost := (uses plan).foldl (fun cost use => cost - use.discount) baseCost
  steps := (uses plan).map (·.step) ++ outline plan

def useIndex (hints : Hints) : Bool := !hints.indexes.isEmpty

def explain (hints : Hints) : String :=
  s!"Estimated cost: {hints.cost} (index: " ++ (if hints.useIndex then "yes" else "no") ++ ")" ++
    String.join (hints.steps.zipIdx.map fun (step, i) => s!"\n  {i + 1}. " ++ step)

end Hints

end CodeGraph.Query
