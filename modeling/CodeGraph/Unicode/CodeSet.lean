/-! # Sets of code points

A set is the increasing list of the code points at which membership changes: before the first the
set holds nothing, from the first to the second everything, and so on. Tables that are long and
read only by regular expressions are kept packed.
-/

namespace CodeGraph.Unicode

/-- Membership flips at each listed code point, which are increasing. -/
structure CodeSet where
  flips : List Nat

namespace CodeSet

/-- Whether an odd number of the flips are at or before `n`. -/
def flipsBefore (n : Nat) : List Nat → Bool
  | [] => false
  | flip :: flips => if n < flip then false else !flipsBefore n flips

def contains (s : CodeSet) (c : Char) : Bool := flipsBefore c.toNat s.flips

private def unpackFrom (last digits : Nat) : List Char → List Nat
  | [] => []
  | c :: cs =>
    if c.toNat < 97 then unpackFrom last (digits * 26 + (c.toNat - 65)) cs
    else
      let flip := last + (digits * 26 + (c.toNat - 97))
      flip :: unpackFrom flip 0 cs

/-- Reads the distances between flips in base 26: capital letters are leading digits, a small
letter is the last digit of a distance. -/
def unpack (pieces : List String) : CodeSet :=
  ⟨unpackFrom 0 0 (pieces.flatMap String.toList)⟩

end CodeSet

end CodeGraph.Unicode
