import CodeGraph.Double.Basic
import CodeGraph.Fields

/-! # Frequencies

How often patterns were seen. When there are too many of them only the most frequent are kept.
-/

namespace CodeGraph

structure Frequency where
  counts : Fields Nat
  /-- How often any pattern was seen. -/
  total : Nat

namespace Frequency

def empty : Frequency := ⟨∅, 0⟩

instance : Inhabited Frequency := ⟨empty⟩

/-- How many patterns are kept, and how many are left when there are more. -/
def capacity : Nat := 150

def kept : Nat := 100

def count (f : Frequency) (pattern : String) : Nat := (f.counts.find? pattern).getD 0

def tracked (f : Frequency) : Nat := f.counts.toList.length

/-- Whether one pattern ranks before another: more often seen, or as often and earlier in the
alphabet. -/
def ranksBefore (a b : String × Nat) : Bool := b.2 < a.2 || (a.2 == b.2 && a.1 ≤ b.1)

/-- The patterns that rank first. -/
def top (f : Frequency) (n : Nat) : List (String × Nat) :=
  (f.counts.toList.mergeSort ranksBefore).take n

def prune (f : Frequency) : Frequency := { f with counts := .ofList (f.top kept) }

/-- Counts a pattern that is seen once more. Gives its count, which may be forgotten at once. -/
def record (f : Frequency) (pattern : String) : Nat × Frequency :=
  let count := f.count pattern + 1
  let f : Frequency := ⟨f.counts.insert pattern count, f.total + 1⟩
  (count, if capacity < f.tracked then f.prune else f)

/-- A pattern is frequent when it makes up a fiftieth of all and was seen three times. -/
def isFrequent (f : Frequency) (pattern : String) : Bool :=
  let count := Double.ofNat (f.count pattern)
  (Double.ofNat 3).atMost count &&
    ((Double.ofNat f.total).mul (.ofDecimal false 2 (-2))).atMost count

end Frequency

end CodeGraph
