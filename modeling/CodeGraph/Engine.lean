import CodeGraph.Cache.WarmUp
import CodeGraph.Query.Execution
import CodeGraph.Query.Hints
import CodeGraph.Query.Standard
import CodeGraph.Saved.Registry

/-! # The query engine

Answers queries about a graph through the cache and keeps saved queries. The graph and the time are
given to every operation. What a query gives that the cache has no answer for comes from a `Runner`,
which on a graph that can be read is `Query.run`.
-/

namespace CodeGraph

open Query (Budget Hints Params Row)

structure Engine where
  settings : Settings
  cache : Cache
  saved : Registry

/-- A moment: the time of the cache in milliseconds, and the date. -/
structure Moment where
  millis : Nat
  date : Timestamp

namespace Engine

/-- An engine with its saved queries, if the store can be read. -/
def open? (settings : Settings) (store : Store) : Option Engine :=
  let (count, saved) := (Registry.onStore store).load
  count.map fun _ => { settings, cache := .empty, saved }

/-- The context of callers that give none. -/
def emptyContext : String := "\x7b\x7d"

/-- The budget of queries that are given none. -/
def defaultBudget (e : Engine) : Option Budget := e.settings.timeoutMillis.map (· * 1000000)

/-- What a query gives when it is run: for its text, its parameters and its budget any answer or
error, since the graph may not be readable and the time may run out. -/
abbrev Runner := String → Params → Option Budget → Except QueryError Answer

/-- Answers a query from the cache, or else runs it and keeps the answer. -/
def answerBy (e : Engine) (run : Runner) (now : Nat) (text : String) (params : Params)
    (context : String) (budget : Option Budget) : Except QueryError Answer × Engine :=
  let lookup := Lookup.of text params context
  match e.cache.get e.settings.cache now lookup with
  | (some found, cache) => (.ok { found with queryTime := 0 }, { e with cache })
  | (none, cache) =>
    match run text params budget with
    | .ok result => (.ok result, { e with cache := cache.set e.settings.cache now lookup result })
    | .error error => (.error error, { e with cache })

def executeBy (e : Engine) (run : Runner) (now : Nat) (text : String) (params : Params) :
    Except QueryError Answer × Engine :=
  e.answerBy run now text params emptyContext e.defaultBudget

/-- Answers a query in rows. -/
def rowsBy (e : Engine) (run : Runner) (now : Nat) (text : String) (params : Params) :
    Except QueryError (List Row) × Engine :=
  match Query.parse text params with
  | .error error => (.error (.parse error), e)
  | .ok plan =>
    match e.executeBy run now text params with
    | (.ok result, e) => (Query.rows plan result.nodes, e)
    | (.error error, e) => (.error error, e)

/-- Runs a saved query with some of its parameters overridden. -/
def executeSavedBy (e : Engine) (run : Runner) (now : Moment) (id : String) (overrides : Params) :
    Except QueryError Answer × Engine :=
  match e.saved.use id overrides now.date with
  | (.ok (text, params), saved) => { e with saved }.executeBy run now.millis text params
  | (.error error, saved) => (.error error, { e with saved })

def explain (text : String) (params : Params) : Except QueryError Hints :=
  ((Query.parse text params).mapError .parse).map .ofPlan

/-! ### Queries about a graph -/

section

variable [Query.Library]

def answer (e : Engine) (g : Snapshot) (now : Nat) (text : String) (params : Params)
    (context : String) (budget : Option Budget) : Except QueryError Answer × Engine :=
  e.answerBy (Query.run g) now text params context budget

def execute (e : Engine) (g : Snapshot) (now : Nat) (text : String) (params : Params) :
    Except QueryError Answer × Engine :=
  e.executeBy (Query.run g) now text params

/-- Answers a query for a caller who works on something. -/
def executeInContext (e : Engine) (g : Snapshot) (now : Nat) (text : String) (params : Params)
    (context : String) : Except QueryError Answer × Engine :=
  e.answer g now text params context e.defaultBudget

def executeWithin (e : Engine) (g : Snapshot) (now : Nat) (text : String) (params : Params)
    (budget : Budget) : Except QueryError Answer × Engine :=
  e.answer g now text params emptyContext (some budget)

def rows (e : Engine) (g : Snapshot) (now : Nat) (text : String) (params : Params) :
    Except QueryError (List Row) × Engine :=
  e.rowsBy (Query.run g) now text params

def executeSaved (e : Engine) (g : Snapshot) (now : Moment) (id : String) (overrides : Params) :
    Except QueryError Answer × Engine :=
  e.executeSavedBy (Query.run g) now id overrides

end

/-! ### Saved queries -/

def saveQuery (e : Engine) (q : SavedQuery) : Engine := { e with saved := e.saved.add q }

def deleteSaved (e : Engine) (id : String) : Bool × Engine :=
  let (found, saved) := e.saved.delete id
  (found, { e with saved })

/-! ### The cache -/

def invalidate (e : Engine) (paths : Option (List String)) : Nat × Engine :=
  let (count, cache) := e.cache.invalidate paths
  (count, { e with cache })

def cleanUp (e : Engine) (now : Nat) : Nat × Engine :=
  let (count, cache) := e.cache.cleanUp e.settings.cache now
  (count, { e with cache })

/-- Warms the cache up. Gives the number of answers, and the time when it is done. -/
def warmUpBy (e : Engine) (run : Runner) (now : Nat) : Nat × Nat × Engine :=
  let done := e.cache.warmUp e.settings.cache (fun r => run r.query r.params e.defaultBudget) now
  (done.warmed, done.now, { e with cache := done.cache })

def warmUp [Query.Library] (e : Engine) (g : Snapshot) (now : Nat) : Nat × Nat × Engine :=
  e.warmUpBy (Query.run g) now

def close (e : Engine) : Engine := { e with cache := .empty }

end Engine

end CodeGraph
