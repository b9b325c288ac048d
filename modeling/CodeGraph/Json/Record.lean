import CodeGraph.Json.Reader

/-! # Records in JSON

A record is written as an object, or as an array with its fields in the order of their declaration.
Names that the record does not know are passed over; a known name may stand only once.
-/

namespace CodeGraph.Json

/-- The fields of a record that were given. -/
structure Record where
  /-- Whether the fields were given by their order. -/
  ordered : Bool
  fields : List (String × Json)

namespace Record

/-- The record with the given field names that a value writes. -/
def ofJson? (names : List String) : Json → Option Record
  | object fields =>
    if names.any fun name => 1 < fields.countP (·.1 == name) then none
    else some ⟨false, fields⟩
  | array items => if names.length < items.length then none else some ⟨true, names.zip items⟩
  | _ => none

variable {α : Type}

def required (r : Record) (name : String) (decode : Json → Option α) : Option α :=
  (r.fields.lookup name).bind decode

/-- A field that may be null and, in an object, missing. -/
def optional (r : Record) (name : String) (decode : Json → Option α) : Option (Option α) :=
  match r.fields.lookup name with
  | none => if r.ordered then none else some none
  | some null => some none
  | some value => (decode value).map some

/-- A field with a value for when it is missing. -/
def defaulted (r : Record) (name : String) (default : α) (decode : Json → Option α) : Option α :=
  match r.fields.lookup name with
  | none => some default
  | some value => decode value

end Record

/-! What fields hold. -/

def nat? : Json → Option Nat
  | integer i => if 0 ≤ i then some i.toNat else none
  | _ => none

def list? {α : Type} (decode : Json → Option α) : Json → Option (List α)
  | array items => items.mapM decode
  | _ => none

/-- Named values; of fields with one name the last stays. -/
def fields? {α : Type} (decode : Json → Option α) : Json → Option (CodeGraph.Fields α)
  | object fields =>
    (fields.mapM fun field => (decode field.2).map (field.1, ·)).map .ofList
  | _ => none

end CodeGraph.Json
