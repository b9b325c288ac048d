import CodeGraph.Graph.Node

/-! # Answers

What a query gives: the nodes it matched and the edges at them.
-/

namespace CodeGraph

structure Answer where
  nodes : List Node
  edges : List Edge
  totalMatches : Nat
  /-- Milliseconds that the query took. -/
  queryTime : Nat
  cached : Bool
deriving DecidableEq

namespace Answer

def empty : Answer := ⟨[], [], 0, 0, false⟩

instance : Inhabited Answer := ⟨empty⟩

end Answer

end CodeGraph
