import CodeGraph.Graph.Node
import CodeGraph.Graph.OrderedMap

/-! # Graphs

A graph holds its nodes and edges in the order in which they came, each under an identifier of its
own. Putting in a node or an edge that is there already replaces it where it stands.
-/

namespace CodeGraph

/-- A graph at one moment. -/
structure Snapshot where
  nodeMap : OrderedMap Node.id
  edgeMap : OrderedMap Edge.id

namespace Snapshot

def empty : Snapshot := ⟨.empty, .empty⟩

instance : Inhabited Snapshot := ⟨empty⟩

def nodes (g : Snapshot) : List Node := g.nodeMap.toList

def edges (g : Snapshot) : List Edge := g.edgeMap.toList

theorem nodes_nodup (g : Snapshot) : (g.nodes.map (·.id)).Nodup := g.nodeMap.nodup_map_toList

def node? (g : Snapshot) (id : String) : Option Node := g.nodeMap.find? id

def nodeCount (g : Snapshot) : Nat := g.nodeMap.size

def edgeCount (g : Snapshot) : Nat := g.edgeMap.size

def findNodes (g : Snapshot) (test : Node → Bool) : List Node := g.nodes.filter test

def findEdges (g : Snapshot) (test : Edge → Bool) : List Edge := g.edges.filter test

def putNode (g : Snapshot) (node : Node) : Snapshot := { g with nodeMap := g.nodeMap.put node }

def putEdge (g : Snapshot) (edge : Edge) : Snapshot := { g with edgeMap := g.edgeMap.put edge }

/-- The graph without a node and without the edges at it. -/
def eraseNode (g : Snapshot) (id : String) : Snapshot where
  nodeMap := g.nodeMap.erase id
  edgeMap := g.edgeMap.eraseAll (·.touches id)

/-- Takes a node out of the graph. Edges whose ends are not in the graph stay. -/
def removeNode (g : Snapshot) (id : String) : Option Node × Snapshot :=
  match g.node? id with
  | some node => (some node, g.eraseNode id)
  | none => (none, g)

end Snapshot

end CodeGraph
