import CodeGraph.Json.Basic

/-! # TOML documents

A document is built statement by statement. A table remembers how it came to be, because a header
may open it only once, and dotted keys may add only to tables that were made by dotted keys. In the
end a document is a JSON object.
-/

namespace CodeGraph.Toml

/-- How a table came to be. -/
inductive Origin where
  /-- By a header of its own. -/
  | header
  /-- By the header of a table inside it. -/
  | passing
  /-- By a dotted key. -/
  | dotted
deriving DecidableEq

/-- What stands under a name. -/
inductive Item where
  | value (v : Json)
  | table (origin : Origin) (entries : List (String × Item))
  /-- An array of tables, the last of which is open. -/
  | tables (closed : List Json) (entries : List (String × Item))

abbrev Entries := List (String × Item)

mutual

def Item.toJson : Item → Json
  | .value v => v
  | .table _ entries => .object (entriesToJson entries)
  | .tables closed entries => .array (closed ++ [.object (entriesToJson entries)])

def entriesToJson : List (String × Item) → List (String × Json)
  | [] => []
  | (name, item) :: rest => (name, item.toJson) :: entriesToJson rest

end

/-- Changes the table at a path, and makes the tables on the way that are not there. The change is
told how the table came to be. -/
def changeAt (dotted : Bool) (change : Origin → Entries → Option Entries) :
    List String → Origin → Entries → Option Entries
  | [], origin, entries => change origin entries
  | name :: path, _, entries => do
    let item ← match entries.lookup name with
      | none =>
        let origin := if dotted then Origin.dotted else .passing
        (changeAt dotted change path origin []).map (.table origin)
      | some (.table origin inner) =>
        if dotted && origin == .header then none
        else (changeAt dotted change path origin inner).map (.table origin)
      | some (.tables closed last) =>
        (changeAt dotted change path .header last).map (.tables closed)
      | some (.value _) => none
    some (Fields.insertEntry name item entries)

/-- A name that is not taken yet, with its value. -/
def addEntry (name : String) (value : Json) (entries : Entries) : Option Entries :=
  if (entries.lookup name).isSome then none
  else some (Fields.insertEntry name (.value value) entries)

/-- Gives a value to a key of a table. The table that a dotted key adds to was made by one. -/
def assign (key : List String) (value : Json) (entries : Entries) : Option Entries := do
  let name ← key.getLast?
  let path := key.dropLast
  let change (origin : Origin) (entries : Entries) : Option Entries :=
    if !path.isEmpty && origin != .dotted then none else addEntry name value entries
  changeAt true change path .header entries

/-- Opens a table that has had no header yet. -/
def openTable (name : String) (entries : Entries) : Option Entries :=
  match entries.lookup name with
  | none => some (Fields.insertEntry name (.table .header []) entries)
  | some (.table .passing inner) => some (Fields.insertEntry name (.table .header inner) entries)
  | some _ => none

def appendTable (name : String) (entries : Entries) : Option Entries :=
  match entries.lookup name with
  | none => some (Fields.insertEntry name (.tables [] []) entries)
  | some (.tables closed last) =>
    let closed := closed ++ [.object (entriesToJson last)]
    some (Fields.insertEntry name (.tables closed []) entries)
  | some _ => none

inductive Statement where
  | assignment (key : List String) (value : Json)
  | tableHeader (key : List String)
  | arrayHeader (key : List String)

/-- A document under way: all entries, and the path of the open table. -/
structure Document where
  entries : Entries
  openPath : List String

namespace Document

def empty : Document := ⟨[], []⟩

private def header (d : Document) (change : String → Entries → Option Entries)
    (key : List String) : Option Document := do
  let name ← key.getLast?
  let entries ← changeAt false (fun _ => change name) key.dropLast .header d.entries
  some ⟨entries, key⟩

def add (d : Document) : Statement → Option Document
  | .assignment key value =>
    (changeAt false (fun _ => assign key value) d.openPath .header d.entries).map (⟨·, d.openPath⟩)
  | .tableHeader key => d.header openTable key
  | .arrayHeader key => d.header appendTable key

def toJson (d : Document) : Json := .object (entriesToJson d.entries)

def ofStatements? (statements : List Statement) : Option Document := statements.foldlM add empty

end Document

/-- The value of an inline table. -/
def inlineTable? (assignments : List (List String × Json)) : Option Json := do
  let entries ← assignments.foldlM (fun entries a => assign a.1 a.2 entries) []
  some (.object (entriesToJson entries))

end CodeGraph.Toml
