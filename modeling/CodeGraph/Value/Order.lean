import CodeGraph.Value.Basic

/-! # The order of sort keys

Any two keys can be ordered: by their kind first, and within a kind by value. A key that is missing
comes last.
-/

namespace CodeGraph.Value

/-- The place of a kind: numbers, strings, instants, truth values, null, and no value at all. -/
def kindRank : Option Value → Nat
  | some (int _) => 0
  | some (float _) => 0
  | some (str _) => 1
  | some (dateTime _) => 2
  | some (bool _) => 3
  | some null => 4
  | none => 5

/-- The order of two sort keys. Numbers are ordered down to the bits of a float. -/
def keyCompare : Option Value → Option Value → Ordering
  | some (int i), some (int j) => compare i.toInt j.toInt
  | some (int i), some (float y) => (Double.ofInt i.toInt).totalCompare y
  | some (float x), some (int j) => x.totalCompare (Double.ofInt j.toInt)
  | some (float x), some (float y) => x.totalCompare y
  | some a, some b =>
    if kindRank (some a) = kindRank (some b) then (a.compare? b).getD .eq
    else compare (kindRank (some a)) (kindRank (some b))
  | a, b => compare (kindRank a) (kindRank b)

end CodeGraph.Value
