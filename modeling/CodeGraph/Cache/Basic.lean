import CodeGraph.Cache.Context
import CodeGraph.Cache.Frequency
import CodeGraph.Cache.Mask
import CodeGraph.Cache.NormalForm
import CodeGraph.Digest
import CodeGraph.Graph.Json
import CodeGraph.Query.Parser
import CodeGraph.Settings.Basic
import CodeGraph.Text.Occurrence

/-! # The cache of answers

Answers are kept under the normal form of the query, the values of its parameters and the context of
the caller. A request is answered from its own entry or from one that differs only in the context,
if the contexts are similar enough. Entries live for a limited time; the number of entries and the
bytes they take are limited too, and the entry that was used least recently goes first.

Time is given to every operation in milliseconds and never runs backward.
-/

namespace CodeGraph

open Query (Params)

/-- A query in its normal form with the values of its parameters. -/
structure Request where
  query : String
  params : Params

namespace Request

/-- Whether two requests ask the same; numbers among the parameters are compared as numbers. -/
def same (a b : Request) : Bool :=
  a.query == b.query && (Json.object a.params.toList).same (.object b.params.toList)

end Request

/-- The written form of parameters; empty if there are none. -/
def bindings (params : Params) : String :=
  if params.isEmpty then "" else (Json.object params.toList).compact

def entryKey (query bindings context : String) : String :=
  if bindings.isEmpty then query ++ ":" ++ Digest.short context
  else query ++ "#" ++ Digest.short bindings ++ ":" ++ Digest.short context

/-- What a request is looked up by. -/
structure Lookup where
  request : Request
  bindings : String
  context : String
  key : String
  bindings_eq : bindings = CodeGraph.bindings request.params
  key_eq : key = entryKey request.query bindings context

def Lookup.of (query : String) (params : Params) (context : String) : Lookup :=
  let request : Request := ⟨NormalForm.ofText query, params⟩
  let bindings := CodeGraph.bindings params
  ⟨request, bindings, context, entryKey request.query bindings context, rfl, rfl⟩

structure Entry where
  request : Request
  bindings : String
  context : String
  answer : Answer
  /-- The bytes of the answer as it came. -/
  size : Nat
  stored : Nat
  accessed : Nat
  hits : Nat

/-- The entry that an answer is kept in. -/
def Lookup.entry (l : Lookup) (now : Nat) (answer : Answer) : Entry :=
  { request := l.request, bindings := l.bindings, context := l.context,
    answer := { answer with cached := false }, size := answer.size, stored := now,
    accessed := now, hits := 0 }

namespace Entry

def isExpired (settings : CacheSettings) (now : Nat) (e : Entry) : Bool :=
  settings.lifetimeMillis < now - e.stored

/-- Whether the entry may answer for a request that differs from its own in the context. -/
def answersFor (settings : CacheSettings) (now : Nat) (l : Lookup) (e : Entry) : Bool :=
  e.request.query == l.request.query && e.bindings == l.bindings && !e.isExpired settings now &&
    settings.similarityThreshold.atMost (Context.similarity l.context e.context)

/-- Whether the entry has to do with one of the paths: as the path of a node or a part of it, as a
directory around it, or as a part of the context. -/
def touches (paths : List String) (e : Entry) : Bool :=
  (e.answer.nodes.filterMap (·.path)).any (fun p =>
    paths.any fun path => Text.holds p path || Text.holds path p) ||
    paths.any (Text.holds e.context ·)

/-- The entry after one more hit. -/
def used (now : Nat) (e : Entry) : Entry := { e with hits := e.hits + 1, accessed := now }

end Entry

/-- The entries under their keys, the keys in the order of their last use, and what the cache has
counted. -/
structure Cache where
  /-- No answer depends on the order of the entries but that from a similar context, which comes
  from the first entry that can give it. -/
  entries : List (String × Entry)
  /-- The key that was used least recently stands first. -/
  order : List String
  memory : Nat
  evictions : Nat
  queries : Nat
  hits : Nat
  misses : Nat
  similarHits : Nat
  frequency : Frequency
  /-- For every pattern that is worth a warm-up the requests that were seen of it. -/
  candidates : List (String × List Request)

namespace Cache

def empty : Cache := ⟨[], [], 0, 0, 0, 0, 0, 0, .empty, []⟩

instance : Inhabited Cache := ⟨empty⟩

/-! ### Entries -/

def find? (cache : Cache) (key : String) : Option Entry := cache.entries.lookup key

def remove (cache : Cache) (key : String) : Cache :=
  match cache.find? key with
  | none => cache
  | some e =>
    { cache with
      entries := cache.entries.filter (·.1 != key)
      order := cache.order.erase key
      memory := cache.memory - e.size }

/-- Takes out the entry that was used least recently. -/
def evict (cache : Cache) : Cache :=
  match cache.order with
  | [] => cache
  | key :: rest =>
    match cache.find? key with
    | none => { cache with order := rest }
    | some e =>
      { cache with
        entries := cache.entries.filter (·.1 != key)
        order := rest
        memory := cache.memory - e.size
        evictions := cache.evictions + 1 }

/-- Evicts entries until `size` more bytes are within the limit or none is left. -/
def makeRoom (limit size : Nat) (cache : Cache) : Cache :=
  cache.order.foldl
    (fun cache _ => if limit < cache.memory + size then cache.evict else cache) cache

/-- Evicts an entry if there are as many as there may be. -/
def makePlace (settings : CacheSettings) (cache : Cache) : Cache :=
  if settings.maxEntries ≤ cache.entries.length then cache.evict else cache

/-- Puts an entry in under its key, as the last used. -/
def put (cache : Cache) (key : String) (e : Entry) : Cache :=
  { cache with
    entries := cache.entries.filter (·.1 != key) ++ [(key, e)]
    order := cache.order ++ [key]
    memory := cache.memory + e.size }

/-- Takes out the entries that pass a test. Gives their number. -/
def removeAll (cache : Cache) (test : Entry → Bool) : Nat × Cache :=
  let keys := (cache.entries.filter fun p => test p.2).map (·.1)
  (keys.length, keys.foldl remove cache)

/-! ### Hits -/

/-- The least number of hits, and the longest time since the last, that make an entry worth a
warm-up. -/
def warmUpHits : Nat := 3

def warmUpMillis : Nat := 5 * 60 * 1000

def addCandidate (pattern : String) (request : Request) :
    List (String × List Request) → List (String × List Request)
  | [] => [(pattern, [request])]
  | (p, requests) :: rest =>
    if p == pattern then
      (p, if requests.any (·.same request) then requests else requests ++ [request]) :: rest
    else (p, requests) :: addCandidate pattern request rest

/-- The candidates after an entry is hit. -/
def collect (cache : Cache) (now : Nat) (e : Entry) : List (String × List Request) :=
  let pattern := Mask.pattern e.request.query
  if warmUpHits ≤ e.hits && now - e.accessed ≤ warmUpMillis && cache.frequency.isFrequent pattern
  then addCandidate pattern e.request cache.candidates
  else cache.candidates

/-- Answers from the entry under a key, which thereby is the last used. -/
def hit (settings : CacheSettings) (cache : Cache) (now : Nat) (key : String) :
    Option Answer × Cache :=
  match cache.find? key with
  | none => (none, cache)
  | some e =>
    (some { e.answer with cached := true },
      { cache with
        entries := cache.entries.map fun p => (p.1, if p.1 == key then p.2.used now else p.2)
        order := cache.order.erase key ++ [key]
        hits := cache.hits + 1
        candidates := if settings.warmUp then cache.collect now e else cache.candidates })

/-! ### Operations -/

def count (settings : CacheSettings) (cache : Cache) (l : Lookup) : Cache :=
  { cache with
    queries := cache.queries + 1
    frequency :=
      if settings.warmUp then (cache.frequency.record (Mask.pattern l.request.query)).2
      else cache.frequency }

/-- Answers from the first entry with a similar context, if there is one. -/
def getSimilar (settings : CacheSettings) (cache : Cache) (now : Nat) (l : Lookup) :
    Option Answer × Cache :=
  match cache.entries.find? (·.2.answersFor settings now l) with
  | some (key, _) =>
    { cache with similarHits := cache.similarHits + 1 }.hit settings now key
  | none => (none, { cache with misses := cache.misses + 1 })

/-- Looks a request up. An entry of its own that has expired is taken out. -/
def get (settings : CacheSettings) (cache : Cache) (now : Nat) (l : Lookup) :
    Option Answer × Cache :=
  if !settings.enabled then (none, cache)
  else
    let cache := cache.count settings l
    match cache.find? l.key with
    | some e =>
      if e.isExpired settings now then (cache.remove l.key).getSimilar settings now l
      else cache.hit settings now l.key
    | none => cache.getSimilar settings now l

/-- Stores an answer, in place of the one that its request has. An answer that is too large for the
whole cache is not stored and replaces nothing. -/
def set (settings : CacheSettings) (cache : Cache) (now : Nat) (l : Lookup) (answer : Answer) :
    Cache :=
  if !settings.enabled || settings.maxMemory < answer.size then cache
  else
    let cache := (cache.remove l.key).makeRoom settings.maxMemory answer.size
    (cache.makePlace settings).put l.key (l.entry now answer)

/-- Whether a request has an entry of its own that has not expired. -/
def contains (settings : CacheSettings) (cache : Cache) (now : Nat) (l : Lookup) : Bool :=
  (cache.find? l.key).any (!·.isExpired settings now)

/-- Takes out the entries that have to do with the paths, or all. Gives their number. -/
def invalidate (cache : Cache) : Option (List String) → Nat × Cache
  | none => (cache.entries.length, { cache with entries := [], order := [], memory := 0 })
  | some paths => cache.removeAll (·.touches paths)

def cleanUp (settings : CacheSettings) (cache : Cache) (now : Nat) : Nat × Cache :=
  cache.removeAll (·.isExpired settings now)

/-! ### Statistics -/

/-- The share of lookups that were answered. -/
def hitRate (cache : Cache) : Double :=
  if cache.queries = 0 then .zero else .nearest false cache.hits cache.queries

def reportedPatterns : Nat := 10

def topPatterns (cache : Cache) : List (String × Nat) := cache.frequency.top reportedPatterns

end Cache

end CodeGraph
