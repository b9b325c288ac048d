import CodeGraph.Json.Record
import CodeGraph.Json.Writer
import CodeGraph.Query.Parser
import CodeGraph.Time.Timestamp

/-! # Saved queries

Queries that are kept under an identifier, with values for their parameters and a record of their
use.
-/

namespace CodeGraph

open Query (Params)

structure SavedQuery where
  id : String
  name : String
  description : String
  query : String
  parameters : Option Params
  createdAt : Timestamp
  lastUsed : Option Timestamp
  usageCount : Nat

namespace SavedQuery

instance : Inhabited SavedQuery := ⟨⟨"", "", "", "", none, .epoch, none, 0⟩⟩

/-- The query after one more use. Its uses are counted in 64 bits. -/
def usedAt (q : SavedQuery) (now : Timestamp) : SavedQuery :=
  { q with lastUsed := some now, usageCount := (q.usageCount + 1) % UInt64.size }

/-- Whether `a` is listed before `b`: it is older, or as old and its identifier is not greater. -/
def listedBefore (a b : SavedQuery) : Bool :=
  ((a.createdAt.compare b.createdAt).then (compare a.id b.id)).isLE

def toJson (q : SavedQuery) : Json :=
  .object <|
    [("id", .string q.id), ("name", .string q.name), ("description", .string q.description),
      ("query", .string q.query)] ++
      (q.parameters.map fun params => ("parameters", Json.object params.toList)).toList ++
      [("createdAt", .string q.createdAt.renderShort),
        ("lastUsed", (q.lastUsed.map fun t => Json.string t.renderShort).getD .null),
        ("usageCount", .integer q.usageCount)]

/-- How deep the values of parameters may be nested where they stand in a list of queries. -/
def parameterDepth : Nat := Json.depthLimit - 3

def params? : Json → Option Params :=
  Json.fields? fun value => if value.denotes parameterDepth then some value.canonical else none

def optionalParams? : Json → Option (Option Params)
  | .null => some none
  | value => (params? value).map some

def timestamp? (value : Json) : Option Timestamp := value.string?.bind Timestamp.ofText?

def ofJson? (value : Json) : Option SavedQuery := do
  let r ← Json.Record.ofJson?
    ["id", "name", "description", "query", "parameters", "createdAt", "lastUsed", "usageCount"]
    value
  some
    { id := ← r.required "id" Json.string?
      name := ← r.required "name" Json.string?
      description := ← r.required "description" Json.string?
      query := ← r.required "query" Json.string?
      parameters := ← r.defaulted "parameters" none optionalParams?
      createdAt := ← r.required "createdAt" timestamp?
      lastUsed := ← r.optional "lastUsed" timestamp?
      usageCount := ← r.required "usageCount" Json.nat? }

/-- The text that a list of queries is kept as. -/
def writeList (queries : List SavedQuery) : String :=
  (Json.array (queries.map toJson)).indented

def readList? (text : String) : Option (List SavedQuery) :=
  (Json.ofText? text).bind (Json.list? ofJson?)

end SavedQuery

end CodeGraph
