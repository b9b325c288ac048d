import CodeGraph.Text.Digits

/-! # Binary64 numbers

A double is kept as its sign and the other 63 bits read as one number. That number counts the
absolute values upward from zero, so comparing doubles is comparing integers, and every finite
absolute value is a whole number of units of `2 ^ -1074`. Rounding a quotient of natural numbers to
the nearest double is the one inexact step; arithmetic is exact arithmetic followed by it.
-/

namespace CodeGraph

/-- A sign and a magnitude: the place of the absolute value in the order of all of them. -/
structure Double where
  negative : Bool
  magnitude : Nat
  magnitude_lt : magnitude < 0x8000000000000000
deriving DecidableEq

namespace Double

/-- The magnitude of infinity. What is above it is no number. -/
def top : Nat := 0x7ff0000000000000

/-- The double of a magnitude that has left the finite range at most by rounding. -/
def ofMagnitude (negative : Bool) (magnitude : Nat) : Double where
  negative := negative
  magnitude := min magnitude top
  magnitude_lt := Nat.lt_of_le_of_lt (Nat.min_le_right ..) (by decide)

def zero : Double := ofMagnitude false 0

def infinity : Double := ofMagnitude false top

def notANumber : Double := ⟨false, 0x7ff8000000000000, by decide⟩

instance : Inhabited Double := ⟨zero⟩

def isNaN (x : Double) : Bool := top < x.magnitude

def isFinite (x : Double) : Bool := x.magnitude < top

def isZero (x : Double) : Bool := x.magnitude == 0

def neg (x : Double) : Double := { x with negative := !x.negative }

def abs (x : Double) : Double := { x with negative := false }

/-- How many units a one is. -/
def unitsInOne : Nat := 1 <<< 1074

/-- How many magnitudes lie between two powers of two. -/
def runLength : Nat := 0x10000000000000

/-- The absolute value that a finite magnitude stands for, in units of `2 ^ -1074`. -/
def unitsOf (magnitude : Nat) : Nat :=
  if magnitude < runLength then magnitude
  else (runLength + magnitude % runLength) <<< (magnitude / runLength - 1)

/-- The value of a finite double in units of `2 ^ -1074`. -/
def units (x : Double) : Int :=
  if x.negative then -unitsOf x.magnitude else unitsOf x.magnitude

/-- The whole number nearest to a quotient; of two, the even one. -/
def roundDiv (num den : Nat) : Nat :=
  let quotient := num / den
  let twice := 2 * (num % den)
  if den < twice || (twice == den && quotient % 2 == 1) then quotient + 1 else quotient

/-- The magnitude nearest to `num / den`. From `2 ^ 53` units on the magnitudes thin out by halves,
and rounding up to a power of two moves on to the next of these runs by itself. -/
def nearestMagnitude (num den : Nat) : Nat :=
  let scaled := num * unitsInOne
  let run := (scaled / den).log2 - 52
  run * runLength + roundDiv scaled (den <<< run)

/-- The double nearest to `num / den`. -/
def nearest (negative : Bool) (num den : Nat) : Double :=
  ofMagnitude negative (nearestMagnitude num den)

def ofNat (n : Nat) : Double := nearest false n 1

def ofInt (i : Int) : Double := nearest (i < 0) i.natAbs 1

/-- The double nearest to `digits * 10 ^ exponent`. Exponents that settle the answer by themselves
are cut short. -/
def ofDecimal (negative : Bool) (digits : Nat) (exponent : Int) : Double :=
  let length := (Nat.toDigits 10 digits).length
  if digits = 0 || exponent + length < -330 then ofMagnitude negative 0
  else if 330 < exponent + length then ofMagnitude negative top
  else nearest negative (digits * Text.powerOfTen exponent.toNat) (Text.powerOfTen (-exponent).toNat)

/-- Rounds a number of units; a sum of zeros is negative only if both are. -/
private def ofUnits (zeroSign : Bool) (units : Int) : Double :=
  if units = 0 then ofMagnitude zeroSign 0 else nearest (units < 0) units.natAbs unitsInOne

/-! Arithmetic on finite doubles. -/

def add (x y : Double) : Double := ofUnits (x.negative && y.negative) (x.units + y.units)

def sub (x y : Double) : Double := x.add y.neg

def mul (x y : Double) : Double :=
  nearest (x.negative != y.negative) (x.units.natAbs * y.units.natAbs) (unitsInOne * unitsInOne)

def div (x y : Double) : Double :=
  nearest (x.negative != y.negative) x.units.natAbs y.units.natAbs

/-- The place in the numeric order, in which the two zeros are one. -/
def rank (x : Double) : Int := if x.negative then -x.magnitude else x.magnitude

/-- The numeric order, in which what is no number has no place. -/
def compare? (x y : Double) : Option Ordering :=
  if x.isNaN || y.isNaN then none else some (compare x.rank y.rank)

/-- Whether both are numbers and `x` is at most `y`. -/
def atMost (x y : Double) : Bool := (x.compare? y).any (· != .gt)

def equals (x y : Double) : Bool := x.compare? y == some .eq

/-- The place in the order of all bit patterns, which sets `-0` before `0` and what is no number at
the ends. -/
def totalRank (x : Double) : Int := if x.negative then -x.magnitude - 1 else x.magnitude

def totalCompare (x y : Double) : Ordering := compare x.totalRank y.totalRank

end Double

end CodeGraph
