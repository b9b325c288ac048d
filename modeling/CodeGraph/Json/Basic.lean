import CodeGraph.Double.Basic
import CodeGraph.Fields

/-! # JSON values

A value keeps the fields of an object as they were written. Whole numbers and doubles are different
values, as `1` and `1.0` are different texts.
-/

namespace CodeGraph

inductive Json where
  | null
  | bool (b : Bool)
  | integer (i : Int)
  | double (x : Double)
  | string (s : String)
  | array (items : List Json)
  | object (fields : List (String × Json))
  /-- A well-formed text that denotes no value: a number out of range or half a surrogate pair. It
  may stand only where nothing looks at it. -/
  | broken

namespace Json

instance : Inhabited Json := ⟨null⟩

/-- The fields of an object in the order of their names; of fields with one name the last. -/
def sortFields (fields : List (String × Json)) : List (String × Json) :=
  (Fields.ofList fields).toList

mutual

/-- The value with the fields of all its objects sorted. -/
def canonical : Json → Json
  | array items => array (canonicalItems items)
  | object fields => object (sortFields (canonicalFields fields))
  | value => value

def canonicalItems : List Json → List Json
  | [] => []
  | value :: rest => value.canonical :: canonicalItems rest

def canonicalFields : List (String × Json) → List (String × Json)
  | [] => []
  | (name, value) :: rest => (name, value.canonical) :: canonicalFields rest

end

mutual

/-- Whether two sorted values are the same, doubles being compared as numbers. -/
def same : Json → Json → Bool
  | null, null => true
  | bool a, bool b => a == b
  | integer i, integer j => i == j
  | double x, double y => x.equals y
  | string s, string t => s == t
  | array xs, array ys => sameItems xs ys
  | object xs, object ys => sameFields xs ys
  | _, _ => false

def sameItems : List Json → List Json → Bool
  | [], [] => true
  | x :: xs, y :: ys => x.same y && sameItems xs ys
  | _, _ => false

def sameFields : List (String × Json) → List (String × Json) → Bool
  | [], [] => true
  | (a, x) :: xs, (b, y) :: ys => a == b && x.same y && sameFields xs ys
  | _, _ => false

end

mutual

/-- Whether every part denotes a value and no part is nested deeper than `depth`. -/
def denotes (depth : Nat) : Json → Bool
  | broken => false
  | array items => depth != 0 && denotesItems (depth - 1) items
  | object fields => depth != 0 && denotesFields (depth - 1) fields
  | _ => true

def denotesItems (depth : Nat) : List Json → Bool
  | [] => true
  | value :: rest => value.denotes depth && denotesItems depth rest

def denotesFields (depth : Nat) : List (String × Json) → Bool
  | [] => true
  | (_, value) :: rest => value.denotes depth && denotesFields depth rest

end

/-- How deep arrays and objects may be nested in one text. -/
def depthLimit : Nat := 127

/-- The field of an object, the last of that name. -/
def field? (name : String) : Json → Option Json
  | object fields => fields.reverse.lookup name
  | _ => none

def string? : Json → Option String
  | string s => some s
  | _ => none

def bool? : Json → Option Bool
  | bool b => some b
  | _ => none

def items? : Json → Option (List Json)
  | array items => some items
  | _ => none

def double? : Json → Option Double
  | integer i => some (.ofInt i)
  | double x => some x
  | _ => none

end Json

end CodeGraph
