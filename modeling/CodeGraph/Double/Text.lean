import CodeGraph.Double.Shortest
import CodeGraph.Text.Digits

/-! # Texts of doubles

A layout is the list of decisions that turn the shortest digits of a double into text, and a
numeral is what reading takes apart.
-/

namespace CodeGraph.Double

/-- How a double is laid out. The decimal exponent is that of the first digit. -/
structure Layout where
  /-- The least and the greatest decimal exponent written without an exponent mark, if any is
  written with one. -/
  positional : Option (Int × Int)
  /-- Whether a whole number keeps a fraction of one zero. -/
  wholeFraction : Bool
  /-- Whether a positive exponent has a sign. -/
  plusSign : Bool
  tie : Tie
  nan : String
  /-- The text of an infinity, negative or not. -/
  infinity : Bool → String

/-- Numbers as they are shown to people: never an exponent. -/
def Layout.plain : Layout :=
  ⟨none, false, false, .up, "NaN", fun negative => if negative then "-inf" else "inf"⟩

/-- Numbers as they are shown in diagnostics: always recognisable as a double. -/
def Layout.precise : Layout :=
  { Layout.plain with positional := some (-4, 15), wholeFraction := true }

/-- Numbers in JSON, which has none but the finite ones. -/
def Layout.json : Layout :=
  ⟨some (-5, 15), true, true, .toEven, "null", fun _ => "null"⟩

private def zeros (n : Nat) : List Char := List.replicate n '0'

/-- Digits without an exponent, the decimal point set by it. -/
def positionalText (wholeFraction : Bool) (digits : List Char) (exponent : Int) : List Char :=
  let whole := (digits.length : Int) + exponent
  if 0 ≤ exponent then
    digits ++ zeros exponent.toNat ++ (if wholeFraction then ['.', '0'] else [])
  else if 0 < whole then digits.take whole.toNat ++ '.' :: digits.drop whole.toNat
  else '0' :: '.' :: (zeros (-whole).toNat ++ digits)

/-- Digits with an exponent mark, one of them before the point. -/
def scientificText (plusSign : Bool) (digits : List Char) (exponent : Int) : List Char :=
  let mantissa := match digits with
    | [] => []
    | [d] => [d]
    | d :: ds => d :: '.' :: ds
  let sign := if exponent < 0 then ['-'] else if plusSign then ['+'] else []
  mantissa ++ 'e' :: (sign ++ Nat.toDigits 10 exponent.natAbs)

def Layout.chars (layout : Layout) (x : Double) : List Char :=
  if x.isNaN then layout.nan.toList
  else if !x.isFinite then (layout.infinity x.negative).toList
  else
    let decimal := x.shortest layout.tie
    let digits := Nat.toDigits 10 decimal.digits
    let leading := decimal.exponent + digits.length - 1
    let inside := match layout.positional with
      | none => true
      | some (least, greatest) => x.isZero || (least ≤ leading && leading ≤ greatest)
    (if x.negative then ['-'] else []) ++
      if inside then positionalText layout.wholeFraction digits decimal.exponent
      else scientificText layout.plusSign digits leading

def Layout.render (layout : Layout) (x : Double) : String := String.ofList (layout.chars x)

private def isWord (word : String) (cs : List Char) : Bool := cs.map Char.toLower == word.toList

/-- Digits with a fraction and an exponent, each of which may be missing, but not all digits. -/
private def unsigned? (negative : Bool) (cs : List Char) : Option Double := do
  let whole := cs.takeWhile Char.isDigit
  let (fraction, rest) := match cs.dropWhile Char.isDigit with
    | '.' :: rest => (rest.takeWhile Char.isDigit, rest.dropWhile Char.isDigit)
    | rest => ([], rest)
  if whole.isEmpty && fraction.isEmpty then none
  let digits := Text.decimalValue (whole ++ fraction)
  match rest with
  | [] => some (ofDecimal negative digits (-fraction.length))
  | mark :: exponent =>
    if mark != 'e' && mark != 'E' then none
    else (Text.int? exponent).map fun e => ofDecimal negative digits (e - fraction.length)

private def magnitude? (negative : Bool) (cs : List Char) : Option Double :=
  if isWord "inf" cs || isWord "infinity" cs then some { infinity with negative }
  else if isWord "nan" cs then some { notANumber with negative }
  else unsigned? negative cs

/-- Reads a double: decimal digits with an optional sign, fraction and exponent, or the name of a
number that is not finite, in any case. -/
def ofChars? : List Char → Option Double
  | '-' :: cs => magnitude? true cs
  | '+' :: cs => magnitude? false cs
  | cs => magnitude? false cs

end CodeGraph.Double
