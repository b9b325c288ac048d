import CodeGraph.Graph.Answer

/-! # Graphs in JSON

The written forms of nodes, edges and answers. Fields that are optional are left out when there is
nothing to write.
-/

namespace CodeGraph

def metadataToJson (metadata : Fields Value) : Json :=
  .object (metadata.map Value.toJson).toList

def readMetadata : Json → Option (Fields Value) := Json.fields? Value.ofJson?

def readTimestamp (value : Json) : Option Timestamp :=
  value.string?.bind Timestamp.ofText?

def readCount (value : Json) : Option Nat :=
  value.nat?

def optionalField (name : String) (value : Option Json) : List (String × Json) :=
  value.toList.map (name, ·)

namespace Node

def toJson (node : Node) : Json :=
  .object <|
    [("id", .string node.id), ("type", .string node.kind), ("name", .string node.name)] ++
      optionalField "path" (node.path.map .string) ++
      [("metadata", metadataToJson node.metadata), ("confidence", .double node.confidence),
        ("lastUpdated", .string node.lastUpdated.renderShort)] ++
      optionalField "frameworks" (node.frameworks.map fun names => .array (names.map .string))

def ofJson? (value : Json) : Option Node := do
  let r ← Json.Record.ofJson?
    ["id", "type", "name", "path", "metadata", "confidence", "lastUpdated", "frameworks"] value
  some
    { id := ← r.required "id" Json.string?
      kind := ← r.required "type" Json.string?
      name := ← r.required "name" Json.string?
      path := ← r.optional "path" Json.string?
      metadata := ← r.defaulted "metadata" ∅ readMetadata
      confidence := ← r.required "confidence" Json.double?
      lastUpdated := ← r.required "lastUpdated" readTimestamp
      frameworks := ← r.optional "frameworks" (Json.list? Json.string?) }

end Node

namespace Edge

def toJson (edge : Edge) : Json :=
  .object <|
    [("id", .string edge.id), ("source", .string edge.source), ("target", .string edge.target),
      ("type", .string edge.kind), ("confidence", .double edge.confidence)] ++
      optionalField "metadata"
        (if edge.metadata.isEmpty then none else some (metadataToJson edge.metadata))

def ofJson? (value : Json) : Option Edge := do
  let r ← Json.Record.ofJson? ["id", "source", "target", "type", "confidence", "metadata"] value
  some
    { id := ← r.required "id" Json.string?
      source := ← r.required "source" Json.string?
      target := ← r.required "target" Json.string?
      kind := ← r.required "type" Json.string?
      confidence := ← r.required "confidence" Json.double?
      metadata := ← r.defaulted "metadata" ∅ readMetadata }

end Edge

namespace Answer

def toJson (answer : Answer) : Json :=
  .object
    [("nodes", .array (answer.nodes.map Node.toJson)),
      ("edges", .array (answer.edges.map Edge.toJson)),
      ("totalMatches", .integer answer.totalMatches), ("queryTime", .integer answer.queryTime),
      ("cached", .bool answer.cached)]

def ofJson? (value : Json) : Option Answer := do
  let r ← Json.Record.ofJson? ["nodes", "edges", "totalMatches", "queryTime", "cached"] value
  some
    { nodes := ← r.required "nodes" (Json.list? Node.ofJson?)
      edges := ← r.required "edges" (Json.list? Edge.ofJson?)
      totalMatches := ← r.required "totalMatches" readCount
      queryTime := ← r.required "queryTime" readCount
      cached := ← r.defaulted "cached" false Json.bool? }

def size (answer : Answer) : Nat := answer.toJson.size

end Answer

end CodeGraph
