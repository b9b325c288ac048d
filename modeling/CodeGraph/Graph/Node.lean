import CodeGraph.Value.Json

/-! # Nodes and edges

The parts of a code graph: files, functions, classes and the like, and the directed relations
between them.
-/

namespace CodeGraph

structure Node where
  id : String
  kind : String
  name : String
  path : Option String
  metadata : Fields Value
  confidence : Double
  lastUpdated : Timestamp
  frameworks : Option (List String)
deriving DecidableEq

structure Edge where
  id : String
  source : String
  target : String
  kind : String
  confidence : Double
  metadata : Fields Value
deriving DecidableEq

namespace Node

instance : Inhabited Node := ⟨⟨"", "", "", none, ∅, .zero, .epoch, none⟩⟩

/-- A field that every node has of its own, as opposed to metadata. The frameworks are joined, so
that a string condition can look for one of them. -/
def field? (node : Node) : String → Option Value
  | "id" => some (.str node.id)
  | "type" => some (.str node.kind)
  | "name" => some (.str node.name)
  | "path" => node.path.map .str
  | "confidence" => some (.float node.confidence)
  | "lastUpdated" => some (.dateTime node.lastUpdated)
  | "last_updated" => some (.dateTime node.lastUpdated)
  | "frameworks" => node.frameworks.map fun names => .str (",".intercalate names)
  | _ => none

end Node

namespace Edge

instance : Inhabited Edge := ⟨⟨"", "", "", "", .zero, ∅⟩⟩

def touches (edge : Edge) (id : String) : Bool := edge.source == id || edge.target == id

end Edge

end CodeGraph
