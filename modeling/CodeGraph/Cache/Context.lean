import CodeGraph.Json.Reader
import CodeGraph.Json.Writer
import CodeGraph.Unicode.Blank
import CodeGraph.Unicode.Case

/-! # Contexts

A context is what a caller is working on: a JSON object with some known fields, or any text. Two
contexts are compared in parts, one for each known field that both have; each part is a share of
hits, and the score is the weighted mean of the shares. Contexts that have no such part are compared
by their words.
-/

namespace CodeGraph.Context

/-- Hits among a number of things compared, and how much they weigh, in halves. -/
structure Share where
  hits : Nat
  count : Nat
  halves : Nat
deriving DecidableEq

/-- The elements that two sets have in common among all their elements; two empty sets agree. -/
def overlap (a b : List String) : Nat × Nat :=
  let a := a.eraseDups
  let b := b.eraseDups
  let common := (a.filter b.contains).length
  if a.isEmpty && b.isEmpty then (1, 1) else (common, a.length + b.length - common)

def Share.ofSets (halves : Nat) (a b : List String) : Share :=
  let (hits, count) := overlap a b
  ⟨hits, count, halves⟩

/-! ### Fields -/

/-- The share of the type of work. -/
def typeShare? (a b : Json) : Option Share := do
  let x ← a.field? "type"
  let y ← b.field? "type"
  some ⟨(x.canonical.same y.canonical).toNat, 1, 2⟩

/-- The texts of the items of a field that holds an array. -/
def texts? (j : Json) (name : String) : Option (List String) := do
  let items ← (← j.field? name).items?
  some (items.map fun item => item.string?.getD item.canonical.compact)

def setFields : List (String × Nat) := [
  ("activeFiles", 4), ("sessionGoals", 2), ("frameworkContext", 3)]

def setShare? (a b : Json) (field : String × Nat) : Option Share := do
  some (.ofSets field.2 (← texts? a field.1) (← texts? b field.1))

def flagOptions : List String :=
  ["useActivation", "includeMetadata", "includeParentContext", "includeChildContext"]

/-- The options that are numbers, and how far apart two of them may be to agree. -/
def numberOptions : List (String × Nat) := [("limit", 5), ("activationLevels", 1)]

def flagsAgree? (a b : Json) (name : String) : Option Bool := do
  some ((← (← a.field? name).bool?) == (← (← b.field? name).bool?))

def numbersAgree? (a b : Json) (option : String × Nat) : Option Bool := do
  let x ← (← a.field? option.1).double?
  let y ← (← b.field? option.1).double?
  some ((x.sub y).abs.atMost (.ofNat option.2))

/-- The share of the options that agree among those that both have. -/
def optionShare? (a b : Json) : Option Share :=
  let agreements := flagOptions.filterMap (flagsAgree? a b) ++
    numberOptions.filterMap (numbersAgree? a b)
  if agreements.isEmpty then none else some ⟨agreements.count true, agreements.length, 1⟩

/-- The shares of two objects. -/
def shares (a b : Json) : List Share :=
  (typeShare? a b).toList ++ setFields.filterMap (setShare? a b) ++ (optionShare? a b).toList

/-! ### Scores -/

def Share.ratio (s : Share) : Double := (Double.ofNat s.hits).div (.ofNat s.count)

def Share.weight (s : Share) : Double := .nearest false s.halves 2

/-- The weighted mean of some shares. -/
def mean (shares : List Share) : Double :=
  let score := shares.foldl (fun (sum : Double) s => sum.add (s.ratio.mul s.weight)) .zero
  let weight := shares.foldl (fun (sum : Double) s => sum.add s.weight) .zero
  score.div weight

def words (s : String) : List String :=
  (Unicode.words s.toList).map fun word => String.ofList (Unicode.lowerChars word)

/-- The shares that the score of two contexts is made of. -/
def comparison (a b : String) : List Share :=
  let byWords : List Share := [.ofSets 2 (words a) (words b)]
  match Json.parse? a, Json.parse? b with
  | some (.object x), some (.object y) =>
    let parts := shares (.object x) (.object y)
    if parts.isEmpty then byWords else parts
  | _, _ => byWords

/-- How similar two contexts are, from zero to one. -/
def similarity (a b : String) : Double := mean (comparison a b)

end CodeGraph.Context
