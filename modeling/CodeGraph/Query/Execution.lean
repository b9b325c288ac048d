import CodeGraph.Graph.Answer
import CodeGraph.Graph.Snapshot
import CodeGraph.Query.Condition
import CodeGraph.Query.Parser
import CodeGraph.Value.Order

/-! # Execution

A plan is run over a graph as a whole: its nodes are filtered in their order, sorted, and cut to a
page; the edges at the nodes that are left belong to the answer.
-/

namespace CodeGraph.Query

/-- The time a query may take, in nanoseconds. Running a plan takes no time of the library's own, so
only an empty budget runs out. -/
abbrev Budget := Nat

def checkBudget : Option Budget → Except QueryError Unit
  | some 0 => .error (.deadlineExceeded 0)
  | _ => .ok ()

/-- The test that the `WHERE` clause of a plan makes. -/
def Plan.predicate [Library] (plan : Plan Value) : Except QueryError (Node → Bool) :=
  match plan.filter with
  | some clause => clause.predicate
  | none => .ok fun _ => true

/-- The nodes that all patterns accept and that pass the test. -/
def Plan.candidates (plan : Plan Value) (predicate : Node → Bool) (nodes : List Node) : List Node :=
  nodes.filter fun node => plan.nodes.all (·.accepts node) && predicate node

def SortDirection.apply : SortDirection → Ordering → Ordering
  | asc, o => o
  | desc, o => o.swap

/-- Compares nodes by the keys one after the other. -/
def compareBy : List SortKey → Node → Node → Ordering
  | [], _, _ => .eq
  | key :: keys, a, b =>
    (key.direction.apply
      (Value.keyCompare (a.resolve? key.expression) (b.resolve? key.expression))).then
      (compareBy keys a b)

/-- The nodes in the order that a plan asks for. -/
def Plan.arrange [Library] (plan : Plan Value) (nodes : List Node) :
    Except QueryError (List Node) :=
  match plan.order with
  | none => .ok nodes
  | some keys =>
    match Library.sort? (compareBy keys) nodes with
    | some sorted => .ok sorted
    | none => .error .sortAborted

/-- The part of the nodes between `SKIP` and `LIMIT`. -/
def Plan.page (plan : Plan Value) (nodes : List Node) : List Node :=
  let rest := nodes.drop (plan.skip.getD 0)
  match plan.limit with
  | some limit => rest.take limit
  | none => rest

/-- The edges with an end among the nodes. -/
def incident (nodes : List Node) (edges : List Edge) : List Edge :=
  edges.filter fun edge => nodes.any fun node => edge.touches node.id

/-- Runs a plan on a graph. -/
def execute [Library] (g : Snapshot) (plan : Plan Value) (budget : Option Budget) :
    Except QueryError Answer := do
  checkBudget budget
  let predicate ← plan.predicate
  let nodes := plan.page (← plan.arrange (plan.candidates predicate g.nodes))
  .ok
    { nodes
      edges := incident nodes g.edges
      totalMatches := nodes.length
      queryTime := 0
      cached := false }

/-! ### Rows -/

/-- The values of the columns of one node. -/
abbrev Row := Fields Value

/-- The value of a returned expression: the identifier of the node for `*` and the names of nodes,
else the field or null. -/
def project (names : List String) (node : Node) (expression : String) : Value :=
  if expression == "*" || names.contains expression then .str node.id
  else (node.resolve? expression).getD .null

/-- One row for each node. Aggregates are refused. -/
def rows (plan : Plan Value) (nodes : List Node) : Except QueryError (List Row) :=
  match plan.columns with
  | none => .ok (nodes.map fun node => .ofList [("id", .str node.id)])
  | some items =>
    match items.findSome? fun item => item.aggregate.map (·, item.expression) with
    | some (aggregate, expression) => .error (.unsupportedAggregate aggregate expression)
    | none =>
      let names := plan.nodes.filterMap (·.name)
      .ok (nodes.map fun node =>
        .ofList (items.map fun item => (item.column, project names node item.expression)))

/-- Parses and runs a query. -/
def run [Library] (g : Snapshot) (text : String) (params : Params) (budget : Option Budget) :
    Except QueryError Answer := do
  let plan ← (parse text params).mapError QueryError.parse
  execute g plan budget

end CodeGraph.Query
