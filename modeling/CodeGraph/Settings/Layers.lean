import CodeGraph.Double.Text
import CodeGraph.Settings.Json
import CodeGraph.Text.Occurrence
import CodeGraph.Toml.Reader
import CodeGraph.Unicode.Case

/-! # Layers of settings

Settings are put together from the defaults, a document and the variables of the environment, each
over those before it. A document is laid over table by table, a variable at the path that its name
gives. Names are compared in small letters. What the layers give for a setting need not have its
type: texts and numbers stand for others where they can.
-/

namespace CodeGraph

/-! ## Paths -/

inductive PathStep where
  | name (name : String)
  /-- A place in an array, from its end if negative. -/
  | index (i : Int)

namespace PathStep

private def isNameChar (c : Char) : Bool := c.isAlphanum || " _-".contains c

def readName (cs : List Char) : Option (PathStep × List Char) :=
  let name := cs.takeWhile isNameChar
  if name.isEmpty then none else some (.name (String.ofList name), cs.dropWhile isNameChar)

private def isSpace (c : Char) : Bool := c == ' ' || c == '\t'

private def readIndex (cs : List Char) : Option (PathStep × List Char) := do
  let cs := cs.dropWhile isSpace
  let (negative, cs) := match cs with
    | '-' :: cs => (true, cs)
    | cs => (false, cs)
  let digits := cs.takeWhile Char.isDigit
  let ']' :: rest := (cs.dropWhile Char.isDigit).dropWhile isSpace | none
  let n := Text.decimalValue digits
  if digits.isEmpty || 0x8000000000000000 ≤ n then none
  else some (.index (if negative then -(n : Int) else n), rest)

private def readRest : Nat → List Char → Option (List PathStep)
  | _, [] => some []
  | fuel + 1, '.' :: cs => do
    let (step, cs) ← readName cs
    (readRest fuel cs).map (step :: ·)
  | fuel + 1, '[' :: cs => do
    let (step, cs) ← readIndex cs
    (readRest fuel cs).map (step :: ·)
  | _, _ => none

def path? (cs : List Char) : Option (List PathStep) := do
  let (step, cs) ← readName cs
  (readRest cs.length cs).map (step :: ·)

/-- The path that a key describes; a key that describes none is a name itself. -/
def ofKey (key : String) : List PathStep := (path? key.toList).getD [.name key]

end PathStep

/-! ## Laying over -/

namespace Layer

/-- The fields of what is taken for a table. -/
def fieldsOf : Option Json → List (String × Json)
  | some (.object fields) => fields
  | _ => []

def itemsOf : Option Json → List Json
  | some (.array items) => items
  | _ => []

mutual

/-- A value over one that may be there: tables are joined, anything else is replaced. -/
def overlay (old : Option Json) : Json → Json
  | .object fields => overlayFields (old.getD (.object [])) fields
  | value => value

def overlayFields (old : Json) : List (String × Json) → Json
  | [] => old
  | (name, value) :: rest =>
    let name := Unicode.lowercase name
    let fields := fieldsOf (some old)
    overlayFields (.object (Fields.insertEntry name (overlay (fields.lookup name) value) fields))
      rest

end

/-- A value laid over at a path; what is in the way gives way. -/
def put (value : Json) : List PathStep → Option Json → Json
  | [], old => overlay old value
  | .name name :: path, old =>
    let name := Unicode.lowercase name
    let fields := fieldsOf old
    .object (Fields.insertEntry name (put value path (fields.lookup name)) fields)
  | .index i :: path, old =>
    let items := itemsOf old
    let place := if 0 ≤ i then i.toNat else items.length - i.natAbs
    let items := items ++ List.replicate (place + 1 - items.length) .null
    .array (items.set place (put value path items[place]?))

/-- All of a layer laid over a value. -/
def putAll (layer : List (String × Json)) (old : Json) : Json :=
  layer.foldl (fun old entry => put entry.2 (PathStep.ofKey entry.1) (some old)) old

end Layer

/-! ## Values that stand for others -/

namespace Decoder

private def isYes (s : String) : Bool := ["true", "on", "yes"].contains s

private def isNo (s : String) : Bool := ["false", "off", "no"].contains s

private def lenientBool : Json → Option Bool
  | .bool b => some b
  | .integer i => some (i != 0)
  | .double x => some !x.isZero
  | .string s =>
    let word := Unicode.lowercase s
    if word == "1" || isYes word then some true
    else if word == "0" || isNo word then some false
    else none
  | _ => none

/-- The nearest whole number, a half being rounded up, within 64 bits. -/
private def wholePart (x : Double) : Nat :=
  if x.isNaN || x.negative then 0
  else if !x.isFinite then UInt64.size - 1
  else min (UInt64.size - 1) ((2 * x.units.toNat + Double.unitsInOne) / (2 * Double.unitsInOne))

private def natOfText? (s : String) : Option Nat :=
  let digits := match s.toList with
    | '+' :: cs => cs
    | cs => cs
  let n := Text.decimalValue digits
  if digits.isEmpty || !digits.all Char.isDigit || UInt64.size ≤ n then none else some n

private def lenientNat : Json → Option Nat
  | .bool b => some b.toNat
  | .integer i => if 0 ≤ i then some i.toNat else none
  | .double x => some (wholePart x)
  | .string s =>
    let word := Unicode.lowercase s
    if isYes word then some 1 else if isNo word then some 0 else natOfText? s
  | _ => none

private def lenientDouble : Json → Option Double
  | .bool b => some (.ofNat b.toNat)
  | .string s =>
    let word := Unicode.lowercase s
    if isYes word then some (.ofNat 1)
    else if isNo word then some .zero
    else Double.ofChars? s.toList
  | value => value.double?

private def lenientText : Json → Option String
  | .string s => some s
  | .bool b => some (if b then "true" else "false")
  | .integer i => some (String.ofList (Text.signedDecimal i))
  | .double x => some (Double.Layout.plain.render x)
  | _ => none

/-- A record; of an array only the first items are looked at. -/
private def lenientRecord (names : List String) : Json → Option Json.Record
  | .object fields => some ⟨false, fields⟩
  | .array items => some ⟨true, names.zip items⟩
  | _ => none

def lenient : Decoder := ⟨lenientRecord, lenientBool, lenientNat, lenientDouble, lenientText⟩

end Decoder

/-! ## Settings -/

namespace Settings

/-- The key that a variable sets if its name begins with the family and two underscores, which also
stand between the other parts of the name. -/
def variableKey? (family name : String) : Option String :=
  let mark := Unicode.lowerChars family.toList ++ ['_', '_']
  let name := Unicode.lowerChars name.toList
  if mark.isPrefixOf name then
    some (String.ofList (Text.replaceAll ['_', '_'] ['.'] (name.drop mark.length)))
  else none

def variableLayer (family : String) (environment : List (String × String)) : List (String × Json) :=
  environment.filterMap fun (name, value) => (variableKey? family name).map (·, .string value)

def documentLayer? (document : Option String) : Option (List (String × Json)) :=
  match document with
  | some text => (Toml.ofText? text).map fun table => Layer.fieldsOf (some table)
  | none => some []

def defaults : Json := .object [("cache", CacheSettings.default.toJson.canonical)]

/-- The settings from the document, if there is one, and the variables of a family. -/
def load? (family : String) (document : Option String) (environment : List (String × String)) :
    Option Settings := do
  let layer ← documentLayer? document
  Decoder.lenient.settings? <|
    Layer.putAll (variableLayer family environment) (Layer.putAll layer defaults)

end Settings

end CodeGraph
