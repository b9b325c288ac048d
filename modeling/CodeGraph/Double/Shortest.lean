import CodeGraph.Double.Basic

/-! # Shortest decimals

The fewest decimal digits that read back as a double. Every finite double is a whole number of
units of `10 ^ -1074`, so the search runs on natural numbers: for one digit, two, and so on it looks
at the two neighbours of the value among the numbers with so many digits, and stops at the first
that rounds to the double.
-/

namespace CodeGraph.Double

/-- `digits * 10 ^ exponent`. -/
structure Decimal where
  digits : Nat
  exponent : Int
deriving DecidableEq

/-- Which of two equally near decimals is taken. -/
inductive Tie where
  | up
  | toEven
deriving DecidableEq

namespace Shortest

/-- The place of the first decimal digit of a positive number, counted from zero at the units. -/
def leadingPlace (n : Nat) : Nat :=
  let place := n.log2 * 1233 / 4096
  if Text.powerOfTen (place + 1) ≤ n then place + 1 else place

/-- Twice the value of a magnitude and the ends of the interval that rounds to it, all in units of
`10 ^ -1074`. -/
structure Interval where
  low : Nat
  twice : Nat
  high : Nat
  closed : Bool

def interval (magnitude : Nat) : Interval :=
  let unit := Nat.pow 5 1074
  let value := unitsOf magnitude
  { low := (unitsOf (magnitude - 1) + value) * unit
    twice := 2 * value * unit
    high := (value + unitsOf (magnitude + 1)) * unit
    closed := magnitude % 2 == 0 }

def Interval.holds (i : Interval) (twice : Nat) : Bool :=
  if i.closed then i.low ≤ twice && twice ≤ i.high else i.low < twice && twice < i.high

/-- The multiple of `grid` in the interval that is nearest to the value, if there is one. -/
def onGrid (tie : Tie) (i : Interval) (grid : Nat) : Option Nat :=
  let below := i.twice / (2 * grid)
  let above := below + 1
  let down := i.twice - 2 * grid * below
  let up := 2 * grid * above - i.twice
  match i.holds (2 * grid * below), i.holds (2 * grid * above) with
  | false, false => none
  | true, false => some below
  | false, true => some above
  | true, true =>
    if down < up then some below
    else if up < down then some above
    else match tie with
      | .up => some above
      | .toEven => if below % 2 == 0 then some below else some above

/-- Tries the grids from the place `place` down. -/
def search (tie : Tie) (i : Interval) : Nat → Nat × Nat
  | 0 => (i.twice / 2, 0)
  | place + 1 =>
    match onGrid tie i (Text.powerOfTen (place + 1)) with
    | some digits => (digits, place + 1)
    | none => search tie i place

def dropZeros : Nat → Nat → Nat → Nat × Nat
  | 0, digits, places => (digits, places)
  | fuel + 1, digits, places =>
    if digits % 10 == 0 then dropZeros fuel (digits / 10) (places + 1) else (digits, places)

end Shortest

/-- The decimal with the fewest digits that rounds to a finite double's absolute value, and of these
the nearest. -/
def shortest (tie : Tie) (x : Double) : Decimal :=
  if x.magnitude = 0 then ⟨0, 0⟩
  else
    let i := Shortest.interval x.magnitude
    let found := Shortest.search tie i (Shortest.leadingPlace (i.twice / 2))
    let cut := Shortest.dropZeros 20 found.1 found.2
    ⟨cut.1, (cut.2 : Int) - 1074⟩

end CodeGraph.Double
