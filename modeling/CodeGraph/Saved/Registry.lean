import CodeGraph.Query.Error
import CodeGraph.Saved.Store

/-! # The registry of saved queries

The registry holds the queries by their identifiers and saves all of them after every change. That
a save fails changes nothing in the registry. Identifiers and times come from outside.
-/

namespace CodeGraph

open Query (Params)

structure Registry where
  queries : Fields SavedQuery
  store : Store

namespace Registry

/-- A registry that has not loaded anything yet. -/
def onStore (store : Store) : Registry := ⟨∅, store⟩

instance : Inhabited Registry := ⟨onStore .none⟩

def get? (r : Registry) (id : String) : Option SavedQuery := r.queries.find? id

def list (r : Registry) : List SavedQuery :=
  (r.queries.toList.map (·.2)).mergeSort SavedQuery.listedBefore

/-- The registry with its queries saved. -/
def persist (r : Registry) : Registry := { r with store := r.store.save r.list }

/-- Adds the queries of the store, in place of those with their identifiers. Gives their number, or
nothing if the store cannot be read. -/
def load (r : Registry) : Option Nat × Registry :=
  match r.store.load? with
  | some queries =>
    let entries := queries.map fun q => (q.id, q)
    (some queries.length, { r with queries := r.queries.insertAll entries })
  | none => (none, r)

/-- Keeps a new query. -/
def add (r : Registry) (q : SavedQuery) : Registry :=
  { r with queries := r.queries.insert q.id q }.persist

/-- Takes a query out. Tells whether it was there. -/
def delete (r : Registry) (id : String) : Bool × Registry :=
  if r.queries.contains id then (true, { r with queries := r.queries.erase id }.persist)
  else (false, r)

/-- Records the use of a query. Gives its text, and its parameters with some of them overridden. -/
def use (r : Registry) (id : String) (overrides : Params) (now : Timestamp) :
    Except QueryError (String × Params) × Registry :=
  match r.get? id with
  | none => (.error (.savedQueryNotFound id), r)
  | some q =>
    let used := q.usedAt now
    (.ok (q.query, (q.parameters.getD ∅).insertAll overrides.toList),
      { r with queries := r.queries.insert id used }.persist)

end Registry

end CodeGraph
