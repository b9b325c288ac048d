import CodeGraph.Graph.Node
import CodeGraph.Query.Sort

/-! # What queries are run with

Regular expressions and sorting come from elsewhere. Queries rely on what is said of them here and
on nothing else.
-/

namespace CodeGraph.Query

class Library where
  /-- The texts in which a regular expression finds something, case aside, if its text is one. -/
  search? : String → Option (String → Bool)
  /-- Sorts nodes, or breaks off. -/
  sort? : (Node → Node → Ordering) → List Node → Option (List Node)
  sort_perm {cmp : Node → Node → Ordering} {nodes sorted : List Node} :
    sort? cmp nodes = some sorted → sorted.Perm nodes
  /-- Nodes that the comparison orders are sorted stably. Those that it does not order may be left
  in any order, and the sort may break off. -/
  sort_stable {cmp : Node → Node → Ordering} {nodes : List Node} :
    Orders cmp nodes → ∃ sorted, sort? cmp nodes = some sorted ∧ StablySorts cmp nodes sorted

end CodeGraph.Query
