import CodeGraph.Json.Record
import CodeGraph.Json.Writer
import CodeGraph.Value.Basic

/-! # Values in JSON

A value is written as the plain JSON of its kind. An instant is written as its text, so it reads
back as a string.
-/

namespace CodeGraph.Value

/-- The whole number of a JSON integer if it fits, else the float nearest to it. -/
def ofInteger (i : Int) : Value :=
  if Int64.minValue.toInt ≤ i && i ≤ Int64.maxValue.toInt then int (Int64.ofInt i)
  else float (Double.ofInt i)

theorem ofInteger_toInt (i : Int64) : ofInteger i.toInt = int i := by
  have hFits : (decide (Int64.minValue.toInt ≤ i.toInt) && decide (i.toInt ≤ Int64.maxValue.toInt))
      = true := by
    rw [Bool.and_eq_true, decide_eq_true_eq, decide_eq_true_eq]
    exact ⟨i.minValue_le_toInt, i.toInt_le⟩
  rw [ofInteger, if_pos hFits, Int64.ofInt_toInt]

def toJson : Value → Json
  | null => .null
  | bool b => .bool b
  | int i => .integer i.toInt
  | float x => if x.isFinite then .double x else .null
  | str s => .string s
  | dateTime t => .string t.renderShort

/-- Reads a value; arrays and objects are none. -/
def ofJson? : Json → Option Value
  | .null => some null
  | .bool b => some (bool b)
  | .integer i => some (ofInteger i)
  | .double x => some (float x)
  | .string s => some (str s)
  | _ => none

/-- The value of a parameter. Arrays and objects stand for their texts. -/
def ofParameter (j : Json) : Value := (ofJson? j).getD (str j.canonical.compact)

theorem ofParameter_toInt (i : Int64) : ofParameter (.integer i.toInt) = int i :=
  ofInteger_toInt i

end CodeGraph.Value
