import CodeGraph.Unicode.Age
import CodeGraph.Unicode.Property
import CodeGraph.Unicode.Script
import CodeGraph.Unicode.Segmentation

/-! # Sets by name

Finds the set of characters that a property, or a property and a value, names. Case, blanks,
hyphens, underscores and an `is` in front of a name do not count.
-/

namespace CodeGraph.Unicode

/-- The form in which names are compared. -/
def plainName (name : String) : String :=
  let cs := name.toList.map Char.toLower
  let (is, cs) := match cs with
    | 'i' :: 's' :: rest => (true, rest)
    | cs => (false, cs)
  let cs := cs.filter fun c => c.toNat < 0x80 && c != ' ' && c != '_' && c != '-'
  if is && cs == ['c'] then "isc" else String.ofList cs

/-- Sets that are put together from general categories, with the codes of these. -/
def categoryGroups : List (List String × List String) := [
  (["lc", "casedletter"], ["lu", "ll", "lt"]),
  (["l", "letter"], ["lu", "ll", "lt", "lm", "lo"]),
  (["m", "mark", "combiningmark"], ["mn", "mc", "me"]),
  (["n", "number"], ["nd", "nl", "no"]),
  (["p", "punct", "punctuation"], ["pc", "pd", "ps", "pe", "pi", "pf", "po"]),
  (["s", "symbol"], ["sm", "sc", "sk", "so"]),
  (["z", "separator"], ["zs", "zl", "zp"]),
  (["c", "other"], ["cc", "cf", "cn", "co"])]

/-- The sets whose union a name of a general category stands for. -/
def categoryNamed? (name : String) : Option (List CodeSet) :=
  match name with
  | "any" => some [⟨[0]⟩]
  | "ascii" => some [⟨[0, 0x80]⟩]
  | "assigned" => some ((categories.filter (!·.names.contains "cn")).map (·.set))
  | _ =>
    match categoryGroups.find? (·.1.contains name) with
    | some group => some (group.2.map category)
    | none => (NamedSet.find? categories name).map fun s => [s.set]

private def single? (table : List NamedSet) (name : String) : Option (List CodeSet) :=
  (NamedSet.find? table name).map fun s => [s.set]

/-- The sets whose union is the property with a name. -/
def named? (name : String) : Option (List CodeSet) :=
  let name := plainName name
  let property :=
    if ["cf", "sc", "lc"].contains name then none else single? properties name
  property <|> categoryNamed? name <|> single? scripts name

/-- The characters of a version and of all before it. -/
private def upToAge? (name : String) : Option (List CodeSet) :=
  if ages.any (·.names.contains name) then
    let before := ages.takeWhile (!·.names.contains name)
    some ((before ++ (NamedSet.find? ages name).toList).map (·.set))
  else none

/-- The sets whose union is the set of the characters with a value of a property. -/
def valued? (property value : String) : Option (List CodeSet) :=
  let value := plainName value
  match plainName property with
  | "gc" => categoryNamed? value
  | "generalcategory" => categoryNamed? value
  | "sc" => single? scripts value
  | "script" => single? scripts value
  | "scx" => single? scriptExtensions value
  | "scriptextensions" => single? scriptExtensions value
  | "age" => upToAge? value
  | "gcb" => single? graphemeBreaks value
  | "graphemeclusterbreak" => single? graphemeBreaks value
  | "wb" => single? wordBreaks value
  | "wordbreak" => single? wordBreaks value
  | "sb" => single? sentenceBreaks value
  | "sentencebreak" => single? sentenceBreaks value
  | _ => none

end CodeGraph.Unicode
