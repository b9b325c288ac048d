import CodeGraph.Value.Basic

/-! # Plans

What a query asks for. A plan holds values, or what stands for them.
-/

namespace CodeGraph.Query

structure NodePattern (ω : Type) where
  name : Option String
  labels : List String
  properties : Fields ω

inductive Direction where
  | out
  | into
  | both
deriving DecidableEq

structure EdgePattern where
  name : Option String
  kind : Option String
  direction : Direction
deriving DecidableEq

/-- How the conditions of a clause combine. -/
inductive Junction where
  | and
  | or
deriving DecidableEq

inductive Comparison where
  | eq
  | ne
  | gt
  | lt
  | ge
  | le
  | contains
  | startsWith
  | endsWith
  | regex
deriving DecidableEq

/-- The comparison as it is written in a query. -/
def Comparison.text : Comparison → String
  | eq => "="
  | ne => "!="
  | gt => ">"
  | lt => "<"
  | ge => ">="
  | le => "<="
  | contains => "CONTAINS"
  | startsWith => "STARTS WITH"
  | endsWith => "ENDS WITH"
  | regex => "REGEX"

structure Condition (ω : Type) where
  /-- A dotted path such as `n.name` or `size`. -/
  field : String
  comparison : Comparison
  operand : ω

/-- Conditions that all combine in one way. -/
structure Clause (ω : Type) where
  conditions : List (Condition ω)
  junction : Junction

inductive Aggregate where
  | count
  | sum
  | avg
  | min
  | max
  | collect
deriving DecidableEq

namespace Aggregate

def name : Aggregate → String
  | count => "Count"
  | sum => "Sum"
  | avg => "Avg"
  | min => "Min"
  | max => "Max"
  | collect => "Collect"

def all : List Aggregate := [count, sum, avg, min, max, collect]

/-- The aggregate with a name in any case. -/
def ofName? (name : String) : Option Aggregate :=
  all.find? fun a => a.name.toList.map Char.toLower == name.toList.map Char.toLower

end Aggregate

structure ReturnItem where
  expression : String
  columnName : Option String
  aggregate : Option Aggregate
deriving DecidableEq

def ReturnItem.column (item : ReturnItem) : String := item.columnName.getD item.expression

inductive SortDirection where
  | asc
  | desc
deriving DecidableEq

structure SortKey where
  expression : String
  direction : SortDirection
deriving DecidableEq

structure Plan (ω : Type) where
  nodes : List (NodePattern ω)
  edges : List EdgePattern
  filter : Option (Clause ω)
  columns : Option (List ReturnItem)
  order : Option (List SortKey)
  skip : Option Nat
  limit : Option Nat

end CodeGraph.Query
