import CodeGraph.Text.Digits
import CodeGraph.Time.Calendar
import CodeGraph.Unicode.Blank

/-! # Timestamps

Instants in universal time, to the nanosecond. They are read from and written to the internet date
and time format, in reading with blanks between the parts, short numbers and any offset.
-/

namespace CodeGraph

/-- Seconds from 1970-01-01 and nanoseconds after them. In a leap second the nanoseconds go on past
one second. -/
structure Timestamp where
  seconds : Int
  nanos : Nat
deriving DecidableEq

namespace Timestamp

open Text Time

def epoch : Timestamp := ⟨0, 0⟩

instance : Inhabited Timestamp := ⟨epoch⟩

def before (t u : Timestamp) : Bool :=
  t.seconds < u.seconds || (t.seconds == u.seconds && t.nanos < u.nanos)

def compare (t u : Timestamp) : Ordering :=
  (Ord.compare t.seconds u.seconds).then (Ord.compare t.nanos u.nanos)

/-- Whether the instant lies in the years of the calendar. -/
def inCalendar (t : Timestamp) : Bool :=
  let days := t.seconds / 86400
  (Date.mk Date.leastYear 1 1).toDays ≤ days && days ≤ (Date.mk Date.greatestYear 12 31).toDays

/-! ### Writing -/

private def yearChars (year : Int) : List Char :=
  if 0 ≤ year && year ≤ 9999 then padded 4 year.toNat
  else (if year < 0 then '-' else '+') :: padded 4 year.natAbs

/-- As many digits as the fraction needs, in groups of three. -/
private def fractionChars (nanos : Nat) : List Char :=
  if nanos == 0 then []
  else if nanos % 1000000 == 0 then '.' :: padded 3 (nanos / 1000000)
  else if nanos % 1000 == 0 then '.' :: padded 6 (nanos / 1000)
  else '.' :: padded 9 nanos

/-- Date, `T` and time of day, followed by `zone`. -/
def chars (zone : List Char) (t : Timestamp) : List Char :=
  let date := Date.ofDays (t.seconds / 86400)
  let second := (t.seconds % 86400).toNat
  let leap := t.nanos / 1000000000
  yearChars date.year ++ '-' :: padded 2 date.month ++ '-' :: padded 2 date.day ++
    'T' :: padded 2 (second / 3600) ++ ':' :: padded 2 (second / 60 % 60) ++
    ':' :: padded 2 (second % 60 + leap) ++ fractionChars (t.nanos % 1000000000) ++ zone

/-- The text with the offset `+00:00`. -/
def render (t : Timestamp) : String := String.ofList (t.chars "+00:00".toList)

/-- The text with `Z` for the offset. -/
def renderShort (t : Timestamp) : String := String.ofList (t.chars ['Z'])

/-! ### Reading -/

/-- A number of one to `width` digits, with blanks before it. -/
private def readNumber (width : Nat) (cs : List Char) : Option (Nat × List Char) :=
  let cs := Unicode.trimStart cs
  let digits := (cs.take width).takeWhile Char.isDigit
  if digits.isEmpty then none else some (decimalValue digits, cs.drop digits.length)

/-- A year: four digits, or any number with a sign. -/
private def readYear (cs : List Char) : Option (Int × List Char) :=
  match Unicode.trimStart cs with
  | '-' :: cs => signed (-1) cs
  | '+' :: cs => signed 1 cs
  | cs => (readNumber 4 cs).map fun (year, cs) => ((year : Int), cs)
where
  signed (sign : Int) (cs : List Char) : Option (Int × List Char) :=
    let digits := cs.takeWhile Char.isDigit
    if digits.isEmpty then none
    else some (sign * decimalValue digits, cs.dropWhile Char.isDigit)

private def skipMark (mark : Char) (cs : List Char) : Option (List Char) :=
  match Unicode.trimStart cs with
  | c :: cs => if c == mark then some cs else none
  | [] => none

private def readDate (cs : List Char) : Option (Date × List Char) := do
  let (year, cs) ← readYear cs
  let (month, cs) ← readNumber 2 (← skipMark '-' cs)
  let (day, cs) ← readNumber 2 (← skipMark '-' cs)
  some (⟨year, month, day⟩, cs)

/-- The nanoseconds of a fraction; digits after the ninth are passed over. -/
private def readFraction : List Char → Option (Nat × List Char)
  | '.' :: cs =>
    let digits := (cs.take 9).takeWhile Char.isDigit
    if digits.isEmpty then none
    else some (decimalValue digits * powerOfTen (9 - digits.length), cs.dropWhile Char.isDigit)
  | cs => some (0, cs)

/-- Hours and minutes after the sign of an offset, in seconds. -/
private def readOffset (cs : List Char) : Option (Int × List Char) :=
  match cs with
  | a :: b :: cs =>
    match cs.dropWhile fun c => c == ':' || Unicode.isBlank c with
    | c :: d :: cs =>
      if [a, b, c, d].all Char.isDigit && digitValue c < 6 then
        some (3600 * decimalValue [a, b] + 60 * decimalValue [c, d], cs)
      else none
    | _ => none
  | _ => none

private def isUniversal (cs : List Char) : Bool :=
  (cs.take 3).map Char.toUpper == "UTC".toList

private def readZone (cs : List Char) : Option (Int × List Char) :=
  let cs := Unicode.trimStart cs
  if isUniversal cs then some (0, cs.drop 3)
  else match cs with
    | 'Z' :: cs => some (0, cs)
    | 'z' :: cs => some (0, cs)
    | '+' :: cs => readOffset cs
    | '-' :: cs => (readOffset cs).map fun (offset, cs) => (-offset, cs)
    | '−' :: cs => (readOffset cs).map fun (offset, cs) => (-offset, cs)
    | _ => none

/-- Reads a date, `T` or a blank, a time of day and an offset less than a day. -/
def ofChars? (cs : List Char) : Option Timestamp := do
  let (date, cs) ← readDate cs
  let mark :: cs := cs | none
  if mark != 'T' && mark != 't' && mark != ' ' then none
  let (hour, cs) ← readNumber 2 cs
  let (minute, cs) ← readNumber 2 (← skipMark ':' cs)
  let (second, cs) ← readNumber 2 (← skipMark ':' cs)
  let (nanos, cs) ← readFraction cs
  let (offset, cs) ← readZone cs
  if !(Unicode.trimStart cs).isEmpty || !date.isValid then none
  if 23 < hour || 59 < minute || 60 < second || 86400 ≤ offset.natAbs then none
  let leap := second / 60
  let time : Int := 3600 * hour + 60 * minute + (second - leap : Nat) - offset
  let t : Timestamp := ⟨86400 * date.toDays + time, nanos + 1000000000 * leap⟩
  if t.inCalendar then some t else none

def ofText? (s : String) : Option Timestamp := ofChars? s.toList

end Timestamp

end CodeGraph
