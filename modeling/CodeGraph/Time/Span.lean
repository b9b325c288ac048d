import CodeGraph.Text.Digits

/-! # Spans of time

A span is shown in the largest unit of which it holds at least one, with as much of a fraction as
it has.
-/

namespace CodeGraph.Time.Span

/-- The digits of a part below `10 ^ width`, without the zeros at the end. -/
private def fractionDigits (width part : Nat) : List Char :=
  ((Text.padded width part).reverse.dropWhile (· == '0')).reverse

private def inUnit (width nanos : Nat) (unit : String) : List Char :=
  let unitNanos := Text.powerOfTen width
  let part := nanos % unitNanos
  Text.decimal (nanos / unitNanos) ++
    (if part == 0 then [] else '.' :: fractionDigits width part) ++ unit.toList

/-- The text of a span of so many nanoseconds. -/
def render (nanos : Nat) : String :=
  String.ofList <|
    if 1000000000 ≤ nanos then inUnit 9 nanos "s"
    else if 1000000 ≤ nanos then inUnit 6 nanos "ms"
    else if 1000 ≤ nanos then inUnit 3 nanos "µs"
    else inUnit 0 nanos "ns"

end CodeGraph.Time.Span
