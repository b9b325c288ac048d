import CodeGraph.Double.Basic
import CodeGraph.Json.Basic
import CodeGraph.Text.Digits
import CodeGraph.Time.Calendar

/-! # Scalars of TOML documents

Numbers, dates and times, each of which is one run of characters. Dates and times denote their
texts in one fixed form.
-/

namespace CodeGraph.Toml

open Text Time

/-! ## Numbers -/

/-- The digits without the underscores, each of which stands between two digits. -/
def ungroup? (isDigit : Char → Bool) : List Char → Option (List Char)
  | [] => none
  | [c] => if isDigit c then some [c] else none
  | c :: '_' :: cs => if isDigit c then (ungroup? isDigit cs).map (c :: ·) else none
  | c :: cs => if isDigit c then (ungroup? isDigit cs).map (c :: ·) else none

/-- Decimal digits of a whole number, with no zero in front. -/
def wholeDigits? (cs : List Char) : Option (List Char) := do
  let digits ← ungroup? Char.isDigit cs
  if digits.head? == some '0' && digits.length != 1 then none else some digits

private def inRange? (i : Int) : Option Json :=
  if -0x8000000000000000 ≤ i && i < 0x8000000000000000 then some (.integer i) else none

def decimalInteger? (negative : Bool) (cs : List Char) : Option Json := do
  let n := decimalValue (← wholeDigits? cs)
  inRange? (if negative then -(n : Int) else n)

def basedInteger? : List Char → Option Json
  | '0' :: 'x' :: cs => based 16 cs
  | '0' :: 'o' :: cs => based 8 cs
  | '0' :: 'b' :: cs => based 2 cs
  | _ => none
where
  based (base : Nat) (cs : List Char) : Option Json := do
    let digits ← ungroup? (fun c => (hexDigit? c).any (· < base)) cs
    inRange? (digits.foldl (fun n c => base * n + (hexDigit? c).getD 0) 0)

private def exponent? : List Char → Option Int
  | '-' :: cs => (ungroup? Char.isDigit cs).map fun digits => -(decimalValue digits : Int)
  | '+' :: cs => (ungroup? Char.isDigit cs).map fun digits => (decimalValue digits : Int)
  | cs => (ungroup? Char.isDigit cs).map fun digits => (decimalValue digits : Int)

private def isMark (c : Char) : Bool := c == 'e' || c == 'E'

def fractional? (negative : Bool) (cs : List Char) : Option Json := do
  let whole ← wholeDigits? (cs.takeWhile fun c => c != '.' && !isMark c)
  let (fraction, rest) ← match cs.dropWhile fun c => c != '.' && !isMark c with
    | '.' :: rest =>
      (ungroup? Char.isDigit (rest.takeWhile (!isMark ·))).map (·, rest.dropWhile (!isMark ·))
    | rest => some ([], rest)
  let exponent ← match rest with
    | [] => if fraction.isEmpty then none else some 0
    | _ :: rest => exponent? rest
  let x := Double.ofDecimal negative (decimalValue (whole ++ fraction)) (exponent - fraction.length)
  if x == .infinity then none else some (.double x)

private def unsigned? (negative : Bool) (cs : List Char) : Option Json :=
  if cs == "inf".toList then some (.double { Double.infinity with negative })
  else if cs == "nan".toList then some (.double { Double.notANumber with negative })
  else (decimalInteger? negative cs).or (fractional? negative cs)

def number? : List Char → Option Json
  | '-' :: cs => unsigned? true cs
  | '+' :: cs => unsigned? false cs
  | cs => (basedInteger? cs).or (unsigned? false cs)

/-! ## Dates and times -/

private def twoDigits? (least greatest : Nat) (cs : List Char) : Option (Nat × List Char) :=
  let digits := (cs.take 2).takeWhile Char.isDigit
  let n := decimalValue digits
  if digits.length == 2 && least ≤ n && n ≤ greatest then some (n, cs.drop 2) else none

def date? (cs : List Char) : Option (List Char × List Char) := do
  let year := (cs.take 4).takeWhile Char.isDigit
  if year.length != 4 then none
  let '-' :: cs := cs.drop 4 | none
  let (month, cs) ← twoDigits? 1 12 cs
  let '-' :: cs := cs | none
  let (day, cs) ← twoDigits? 1 31 cs
  if day ≤ Date.daysInMonth (decimalValue year) month then
    some (year ++ '-' :: padded 2 month ++ '-' :: padded 2 day, cs)
  else none

/-- The digits of a fraction of a second up to the ninth, without zeros at the end. -/
private def fraction? : List Char → Option (List Char × List Char)
  | '.' :: cs =>
    let digits := cs.takeWhile Char.isDigit
    let kept := ((digits.take 9).reverse.dropWhile (· == '0')).reverse
    if digits.isEmpty then none
    else some (if kept.isEmpty then [] else '.' :: kept, cs.dropWhile Char.isDigit)
  | cs => some ([], cs)

def time? (cs : List Char) : Option (List Char × List Char) := do
  let (hour, cs) ← twoDigits? 0 23 cs
  let ':' :: cs := cs | none
  let (minute, cs) ← twoDigits? 0 59 cs
  let ':' :: cs := cs | none
  let (second, cs) ← twoDigits? 0 60 cs
  let (fraction, cs) ← fraction? cs
  some (padded 2 hour ++ ':' :: padded 2 minute ++ ':' :: padded 2 second ++ fraction, cs)

private def offset? : List Char → Option (List Char)
  | [] => some []
  | ['Z'] => some ['Z']
  | ['z'] => some ['Z']
  | sign :: cs => do
    if sign != '+' && sign != '-' then none
    let (hour, cs) ← twoDigits? 0 23 cs
    let ':' :: cs := cs | none
    let (minute, cs) ← twoDigits? 0 59 cs
    if !cs.isEmpty then none
    let sign := if hour == 0 && minute == 0 then '+' else sign
    some (sign :: padded 2 hour ++ ':' :: padded 2 minute)

private def isTimeMark (c : Char) : Bool := c == 'T' || c == 't' || c == ' '

def dateTime? (cs : List Char) : Option (List Char) :=
  match date? cs with
  | some (date, []) => some date
  | some (date, mark :: cs) => do
    if !isTimeMark mark then none
    let (time, cs) ← time? cs
    some (date ++ 'T' :: time ++ (← offset? cs))
  | none => do
    let (time, cs) ← time? cs
    if cs.isEmpty then some time else none

def scalar? (cs : List Char) : Option Json :=
  if cs == "true".toList then some (.bool true)
  else if cs == "false".toList then some (.bool false)
  else (number? cs).or ((dateTime? cs).map fun text => .string (String.ofList text))

end CodeGraph.Toml
