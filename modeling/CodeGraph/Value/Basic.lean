import CodeGraph.Double.Text
import CodeGraph.Json.Basic
import CodeGraph.Time.Timestamp

/-! # Values

The values that fields of nodes hold and that queries compare them with.
-/

namespace CodeGraph

inductive Value where
  | null
  | bool (b : Bool)
  | int (i : Int64)
  | float (x : Double)
  | str (s : String)
  | dateTime (t : Timestamp)
deriving DecidableEq

namespace Value

instance : Inhabited Value := ⟨null⟩

/-- The order of two values of one kind; whole numbers and floats are one kind, and compare as
floats when they meet. -/
def compare? : Value → Value → Option Ordering
  | int i, int j => some (compare i.toInt j.toInt)
  | int i, float y => (Double.ofInt i.toInt).compare? y
  | float x, int j => x.compare? (Double.ofInt j.toInt)
  | float x, float y => x.compare? y
  | str s, str t => some (compare s t)
  | bool a, bool b => some (compare a b)
  | dateTime t, dateTime u => some (t.compare u)
  | null, null => some .eq
  | _, _ => none

/-- Equality in the sense of `compare?`. -/
def equals (a b : Value) : Bool := a.compare? b == some .eq

/-- Whether both are of the same type and equal; floats are compared as numbers. -/
def same : Value → Value → Bool
  | float x, float y => x.equals y
  | a, b => a == b

def isTruthy : Value → Bool
  | null => false
  | bool b => b
  | int i => i != 0
  | float x => !x.isZero && !x.isNaN
  | str s => !s.isEmpty
  | dateTime _ => true

def str? : Value → Option String
  | str s => some s
  | _ => none

/-- The text that string conditions look at and that explanations show. -/
def text : Value → String
  | null => "null"
  | bool b => if b then "true" else "false"
  | int i => String.ofList (Text.signedDecimal i.toInt)
  | float x => Double.Layout.plain.render x
  | str s => s
  | dateTime t => t.render

end Value

end CodeGraph
