import CodeGraph.Json.Record
import CodeGraph.Settings.Basic

/-! # Settings in JSON

How settings are written, and how they are decoded. A decoder says which values may stand for a
setting: the strict one takes what is written for it and nothing else.
-/

namespace CodeGraph

structure Decoder where
  record : List String → Json → Option Json.Record
  bool : Json → Option Bool
  nat : Json → Option Nat
  double : Json → Option Double
  text : Json → Option String

namespace Decoder

def strict : Decoder := ⟨Json.Record.ofJson?, Json.bool?, Json.nat?, Json.double?, Json.string?⟩

def orNull {α : Type} (decode : Json → Option α) : Json → Option (Option α)
  | .null => some none
  | value => (decode value).map some

def cacheSettings? (d : Decoder) (value : Json) : Option CacheSettings := do
  let r ← d.record
    ["enabled", "max_entries", "max_memory_mb", "ttl_minutes", "context_similarity_threshold",
      "enable_warmup", "warmup_delay_ms"] value
  some
    { enabled := ← r.required "enabled" d.bool
      maxEntries := ← r.required "max_entries" d.nat
      maxMemoryMegabytes := ← r.required "max_memory_mb" d.nat
      lifetimeMinutes := ← r.required "ttl_minutes" d.nat
      similarityThreshold := ← r.required "context_similarity_threshold" d.double
      warmUp := ← r.required "enable_warmup" d.bool
      warmUpDelayMillis := ← r.required "warmup_delay_ms" d.nat }

def timeout? (d : Decoder) (value : Json) : Option (Option Nat) := do
  (← d.record ["default_timeout_ms"] value).defaulted "default_timeout_ms" none (orNull d.nat)

def path? (d : Decoder) (value : Json) : Option (Option String) := do
  (← d.record ["path"] value).defaulted "path" none (orNull d.text)

def settings? (d : Decoder) (value : Json) : Option Settings := do
  let r ← d.record ["query", "cache", "saved_queries"] value
  some
    { timeoutMillis := ← r.defaulted "query" none d.timeout?
      cache := ← r.required "cache" d.cacheSettings?
      savedPath := ← r.defaulted "saved_queries" none d.path? }

end Decoder

namespace CacheSettings

def toJson (s : CacheSettings) : Json :=
  .object
    [("enabled", .bool s.enabled), ("max_entries", .integer s.maxEntries),
      ("max_memory_mb", .integer s.maxMemoryMegabytes), ("ttl_minutes", .integer s.lifetimeMinutes),
      ("context_similarity_threshold", .double s.similarityThreshold),
      ("enable_warmup", .bool s.warmUp), ("warmup_delay_ms", .integer s.warmUpDelayMillis)]

def ofJson? : Json → Option CacheSettings := Decoder.strict.cacheSettings?

end CacheSettings

def Settings.ofJson? : Json → Option Settings := Decoder.strict.settings?

end CodeGraph
