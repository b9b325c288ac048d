import CodeGraph.Graph.Node
import CodeGraph.Query.Plan
import CodeGraph.Text.Occurrence

/-! # Fields of nodes

How field paths and node patterns look at a node.
-/

namespace CodeGraph

/-- A field of the node's own, else one of its metadata. -/
def Node.ownOrMetadata? (node : Node) (name : String) : Option Value :=
  node.field? name <|> node.metadata.find? name

/-- The value at a dotted path: a name alone, or after `n` or `node`, is a field of the node; after
any other name it is metadata. Longer paths lead nowhere. -/
def Node.resolve? (node : Node) (path : String) : Option Value :=
  match (Text.split '.' path.toList).map String.ofList with
  | [name] => node.ownOrMetadata? name
  | [owner, name] =>
    if owner == "n" || owner == "node" then node.ownOrMetadata? name
    else node.metadata.find? name
  | _ => none

namespace Query

/-- The value that a property of a pattern is compared with: metadata, unless the node has a field
of that name that counts as true. -/
def propertyOf? (node : Node) (name : String) : Option Value :=
  match node.field? name with
  | some value => if value.isTruthy then some value else node.metadata.find? name
  | none => node.metadata.find? name

def sameWord (s t : String) : Bool :=
  s.toList.map Char.toLower == t.toList.map Char.toLower

/-- Whether a node has one of the labels, in any case, and all properties of a pattern. -/
def NodePattern.accepts (p : NodePattern Value) (node : Node) : Bool :=
  (p.labels.isEmpty || p.labels.any (sameWord · node.kind)) &&
    p.properties.toList.all fun (name, expected) =>
      (propertyOf? node name).any (·.equals expected)

end Query

end CodeGraph
