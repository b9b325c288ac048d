import CodeGraph.Json.Basic
import CodeGraph.Text.Digits

/-! # Numbers of JSON texts

A number without fraction and exponent is whole while it fits 64 bits. The value of any other is
put together from at most 64 bits of digits and a power of ten, in one multiplication or division
where that reaches, and is therefore not always the nearest double.
-/

namespace CodeGraph.Json

/-- The digits of a number as far as they are kept: a significand below `2 ^ 64`, the number of
digits it holds of those offered, and the rest. -/
structure Significand where
  value : Nat
  kept : Nat
  dropped : Nat

namespace Significand

/-- Takes in digits up to the first that does not fit; the others are only counted. -/
def extend (s : Significand) : List Char → Significand
  | [] => s
  | c :: cs =>
    let value := 10 * s.value + Text.digitValue c
    if value < UInt64.size then { s with value, kept := s.kept + 1 }.extend cs
    else { s with dropped := s.dropped + (c :: cs).length }

def ofDigits (cs : List Char) : Significand := extend ⟨0, 0, 0⟩ cs

end Significand

def doublePower (n : Nat) : Double := .ofNat (Text.powerOfTen n)

/-- `x * 10 ^ exponent`, in several steps where the power is no double; none when it grows too
large. A significand is zero after three divisions. -/
def scale (x : Double) (exponent : Int) : Nat → Option Double
  | 0 => none
  | fuel + 1 =>
    if exponent.natAbs ≤ 308 then
      if 0 ≤ exponent then
        let product := x.mul (doublePower exponent.natAbs)
        if product.isFinite then some product else none
      else some (x.div (doublePower exponent.natAbs))
    else if x.isZero then some x
    else if 0 ≤ exponent then none
    else scale (x.div (doublePower 308)) (exponent + 308) fuel

/-- The parts of a number as it is written. -/
structure Numeral where
  negative : Bool
  whole : List Char
  fraction : List Char
  /-- The sign and the digits of the exponent. -/
  exponent : Option (Bool × List Char)

namespace Numeral

/-- The greatest exponent that is taken as it is. -/
def exponentLimit : Nat := 0x7fffffff

def signed (negative : Bool) (value : Option Double) : Json :=
  match value with
  | some x => double { x with negative }
  | none => broken

def value (n : Numeral) : Json :=
  let whole := Significand.ofDigits n.whole
  if n.fraction.isEmpty && n.exponent.isNone && whole.dropped == 0 then
    if !n.negative then integer whole.value
    else if whole.value = 0 || 0x8000000000000000 < whole.value then double (Double.ofNat whole.value).neg
    else integer (-(whole.value : Int))
  else
    let digits := { whole with kept := 0, dropped := 0 }.extend n.fraction
    let place : Int := (whole.dropped : Int) - digits.kept
    let (negativeExponent, exponent) := match n.exponent with
      | none => (false, 0)
      | some (sign, ds) => (sign, Text.decimalValue ds)
    if exponentLimit < exponent then
      if digits.value ≠ 0 && !negativeExponent then broken
      else double (.ofMagnitude n.negative 0)
    else
      let exponent : Int := place + (if negativeExponent then -(exponent : Int) else exponent)
      signed n.negative (scale (.ofNat digits.value) exponent 4)

end Numeral

end CodeGraph.Json
