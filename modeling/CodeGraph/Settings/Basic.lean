import CodeGraph.Double.Basic

/-! # Settings

What can be set, and what holds when nothing is.
-/

namespace CodeGraph

structure CacheSettings where
  enabled : Bool
  maxEntries : Nat
  maxMemoryMegabytes : Nat
  lifetimeMinutes : Nat
  /-- How similar two contexts have to be for one to answer for the other. -/
  similarityThreshold : Double
  /-- Whether requests for the warm-up are collected. -/
  warmUp : Bool
  warmUpDelayMillis : Nat
deriving DecidableEq

namespace CacheSettings

def default : CacheSettings where
  enabled := true
  maxEntries := 1000
  maxMemoryMegabytes := 50
  lifetimeMinutes := 30
  similarityThreshold := .ofDecimal false 8 (-1)
  warmUp := true
  warmUpDelayMillis := 100

instance : Inhabited CacheSettings := ⟨default⟩

/-- The limit of memory in bytes. It is a word of 64 bits, so that a large number of megabytes wraps
around. -/
def maxMemory (s : CacheSettings) : Nat := s.maxMemoryMegabytes * (1024 * 1024) % UInt64.size

/-- How long answers live. This too wraps around. -/
def lifetimeSeconds (s : CacheSettings) : Nat := s.lifetimeMinutes * 60 % UInt64.size

def lifetimeMillis (s : CacheSettings) : Nat := s.lifetimeSeconds * 1000

end CacheSettings

structure Settings where
  /-- How long a query may take, if that is limited. -/
  timeoutMillis : Option Nat
  cache : CacheSettings
  /-- The file that saved queries are kept in, if they are. -/
  savedPath : Option String
deriving DecidableEq

namespace Settings

def default : Settings := ⟨none, .default, none⟩

instance : Inhabited Settings := ⟨default⟩

end Settings

end CodeGraph
