import CodeGraph.Saved.Basic

/-! # Stores

Where saved queries outlive the program, or why they cannot.
-/

namespace CodeGraph

inductive Store where
  /-- Keeps nothing. -/
  | none
  /-- Loads the same text every time and remembers the last list that was saved, unless saving
  fails. -/
  | memory (initial : Option String) (failing : Bool) (saves : Nat) (last : List SavedQuery)
  /-- A file, if it is there yet. -/
  | file (text : Option String)
  /-- A file below something that is no directory. -/
  | blocked
  /-- A file whose name a directory has. A save gets as far as the draft beside it. -/
  | directory (draft : Bool)

namespace Store

instance : Inhabited Store := ⟨none⟩

/-- The queries in the store, if it can be read. -/
def load? : Store → Option (List SavedQuery)
  | none => some []
  | memory initial _ _ _ => initial.elim (some []) SavedQuery.readList?
  | file text => text.elim (some []) SavedQuery.readList?
  | blocked => Option.none
  | directory _ => Option.none

/-- The store after an attempt to save a list of queries. -/
def save (queries : List SavedQuery) : Store → Store
  | none => none
  | memory initial failing saves last =>
    if failing then memory initial failing saves last
    else memory initial failing (saves + 1) queries
  | file _ => file (some (SavedQuery.writeList queries))
  | blocked => blocked
  | directory _ => directory true

def fileText? : Store → Option String
  | file text => text
  | _ => Option.none

def hasDraft : Store → Bool
  | directory draft => draft
  | _ => false

end Store

end CodeGraph
