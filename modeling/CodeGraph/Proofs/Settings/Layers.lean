import CodeGraph.Settings.Layers

/-!
# Later layers win

What settings are made of stands at paths of names (`Layer.at?`).  A layer gives a value at a path
(`Gives`), or it lacks the path: nothing of it stands there or in the way (`Lacks`).  Laid over
anything, it is found where it gives something and leaves the rest alone (`at?_putAll_of_gives`,
`at?_putAll_of_lacks`).

So what is loaded comes from the variables, else from the document, else from the defaults
(`load?_layered`), and with nothing to go by the settings are the default ones (`load?_nothing`).
-/

namespace CodeGraph

namespace Layer

def at? : List String → Json → Option Json
  | [], value => some value
  | name :: path, value => ((fieldsOf (some value)).lookup name).bind (at? path)

/-- A value says what stands at a path of it.  Of fields with one name in small letters the last
counts. -/
inductive Says : Json → List String → Json → Prop
  | here {v : Json} (h : ∀ fields, v ≠ .object fields) : Says v [] v
  | field {before after : List (String × Json)} {name : String} {value v : Json}
      {path : List String} (h : Says value path v)
      (hLast : ∀ entry ∈ after, Unicode.lowercase entry.1 ≠ Unicode.lowercase name) :
      Says (.object (before ++ (name, value) :: after)) (Unicode.lowercase name :: path) v

/-- There are tables on the way to the path, and nothing at it. -/
def Silent : Json → List String → Prop
  | .object fields, name :: path =>
    ∀ entry ∈ fields, Unicode.lowercase entry.1 = name → Silent entry.2 path
  | _, _ => False

/-! ### Tables laid over -/

variable {path : List String} {value v : Json} {fields : List (String × Json)}

theorem overlayFields_append (old : Json) (before after : List (String × Json)) :
    overlayFields old (before ++ after) = overlayFields (overlayFields old before) after := by
  induction before generalizing old with
  | nil => rw [List.nil_append, overlayFields]
  | cons entry before ih => rw [List.cons_append, overlayFields, overlayFields, ih]

theorem lookup_overlayFields {name : String} (old : Json)
    (h : ∀ entry ∈ fields, Unicode.lowercase entry.1 ≠ name) :
    (fieldsOf (some (overlayFields old fields))).lookup name =
      (fieldsOf (some old)).lookup name := by
  induction fields generalizing old with
  | nil => rw [overlayFields]
  | cons entry rest ih =>
    obtain ⟨hEntry, hRest⟩ := List.forall_mem_cons.1 h
    rw [overlayFields, ih _ hRest]
    exact (Fields.lookup_insertEntry _ _ _ _).trans (if_neg (Ne.symm hEntry))

theorem at?_overlay_of_says (h : Says value path v) (old : Option Json) :
    at? path (overlay old value) = some v := by
  induction h generalizing old with
  | here hScalar =>
    rw [overlay, at?]
    exact hScalar
  | field h hLast ih =>
    rw [overlay, overlayFields_append, overlayFields, at?, lookup_overlayFields _ hLast, fieldsOf,
      Fields.lookup_insertEntry, if_pos rfl]
    exact ih _

theorem at?_overlay_of_silent (h : Silent value path) (old : Option Json) :
    at? path (overlay old value) = old.bind (at? path) := by
  induction path generalizing value old with
  | nil => cases value <;> exact h.elim
  | cons name path ih =>
    cases value with
    | object fields =>
      have hFields : ∀ old : Json,
          at? (name :: path) (overlayFields old fields) = at? (name :: path) old := by
        intro old
        induction fields generalizing old with
        | nil => rw [overlayFields]
        | cons entry rest ihRest =>
          obtain ⟨hEntry, hRest⟩ := List.forall_mem_cons.1 h
          rw [overlayFields, ihRest hRest, at?, fieldsOf, Fields.lookup_insertEntry]
          split
          · next hName =>
            rw [Option.bind_some, ih (hEntry hName.symm), ← hName, at?]
          · rfl
      rw [overlay, hFields]
      cases old <;> rfl
    | _ => exact h.elim

/-! ### Values at paths -/

def SaysAt (value v : Json) : List PathStep → List String → Prop
  | [], path => Says value path v
  | .name name :: steps, first :: path => Unicode.lowercase name = first ∧ SaysAt value v steps path
  | _, _ => False

def SilentAt (value : Json) : List PathStep → List String → Prop
  | [], path => Silent value path
  | .name name :: steps, first :: path => Unicode.lowercase name = first → SilentAt value steps path
  | _, _ => False

theorem at?_put_of_says {steps : List PathStep} (h : SaysAt value v steps path)
    (old : Option Json) : at? path (put value steps old) = some v := by
  induction steps generalizing path old with
  | nil => exact at?_overlay_of_says h old
  | cons step steps ih =>
    cases step with
    | index i => exact h.elim
    | name name =>
      cases path with
      | nil => exact h.elim
      | cons first path =>
        obtain ⟨rfl, h⟩ := h
        rw [put, at?, fieldsOf, Fields.lookup_insertEntry, if_pos rfl]
        exact ih h _

theorem at?_put_of_silent {steps : List PathStep} (h : SilentAt value steps path)
    (old : Option Json) : at? path (put value steps old) = old.bind (at? path) := by
  induction steps generalizing path old with
  | nil => exact at?_overlay_of_silent h old
  | cons step steps ih =>
    cases step with
    | index i => exact h.elim
    | name name =>
      cases path with
      | nil => exact h.elim
      | cons first path =>
        have hOld : old.bind (at? (first :: path)) =
            ((fieldsOf old).lookup first).bind (at? path) := by
          cases old <;> rfl
        rw [put, at?, fieldsOf, Fields.lookup_insertEntry, hOld]
        split
        · next hName =>
          rw [Option.bind_some, ih (h hName.symm), hName]
        · rfl

/-! ### Layers -/

variable {layer : List (String × Json)}

/-- The last entry that has to do with the path gives the value. -/
def Gives (layer : List (String × Json)) (path : List String) (v : Json) : Prop :=
  ∃ before key value after, layer = before ++ (key, value) :: after ∧
    SaysAt value v (PathStep.ofKey key) path ∧
    ∀ entry ∈ after, SilentAt entry.2 (PathStep.ofKey entry.1) path

def Lacks (layer : List (String × Json)) (path : List String) : Prop :=
  ∀ entry ∈ layer, SilentAt entry.2 (PathStep.ofKey entry.1) path

/-- **A layer leaves alone what it lacks.** -/
theorem at?_putAll_of_lacks (h : Lacks layer path) (old : Json) :
    at? path (putAll layer old) = at? path old := by
  rw [putAll]
  induction layer generalizing old with
  | nil => rfl
  | cons entry rest ih =>
    obtain ⟨hEntry, hRest⟩ := List.forall_mem_cons.1 h
    rw [List.foldl_cons, ih hRest, at?_put_of_silent hEntry, Option.bind_some]

/-- **A layer is found where it gives something.** -/
theorem at?_putAll_of_gives (h : Gives layer path v) (old : Json) :
    at? path (putAll layer old) = some v := by
  obtain ⟨before, key, value, after, rfl, hSays, hAfter⟩ := h
  have hSplit : putAll (before ++ (key, value) :: after) old =
      putAll after (put value (PathStep.ofKey key) (some (putAll before old))) := by
    rw [putAll, List.foldl_append, List.foldl_cons]
    rfl
  rw [hSplit, at?_putAll_of_lacks hAfter]
  exact at?_put_of_says hSays _

end Layer

/-! ### Settings -/

theorem required_of_lookup {α : Type} {fields : List (String × Json)} {name : String}
    {decode : Json → Option α} {v : Json} {x : α} (hLookup : fields.lookup name = some v)
    (hDecode : decode v = some x) : Json.Record.required ⟨false, fields⟩ name decode = some x := by
  rw [Json.Record.required, hLookup, Option.bind_some, hDecode]

theorem CacheSettings.ofJson?_toJson (c : CacheSettings) : ofJson? c.toJson = some c := by
  have hRecord : Decoder.strict.record
      ["enabled", "max_entries", "max_memory_mb", "ttl_minutes", "context_similarity_threshold",
        "enable_warmup", "warmup_delay_ms"] c.toJson =
      some ⟨false, Layer.fieldsOf (some c.toJson)⟩ := rfl
  have hBool : ∀ b : Bool, Decoder.strict.bool (.bool b) = some b := fun _ => rfl
  have hDouble : ∀ x : Double, Decoder.strict.double (.double x) = some x := fun _ => rfl
  have hNat : ∀ n : Nat, Decoder.strict.nat (.integer n) = some n := fun n => by
    simp only [Decoder.strict, Json.nat?, Int.natCast_nonneg, if_true, Int.toNat_natCast]
  rw [ofJson?, Decoder.cacheSettings?, hRecord, Option.bind_eq_bind, Option.bind_some,
    required_of_lookup rfl (hBool c.enabled)]
  simp only [Option.bind_eq_bind, Option.bind_some]
  rw [required_of_lookup rfl (hNat c.maxEntries), required_of_lookup rfl (hNat c.maxMemoryMegabytes),
    required_of_lookup rfl (hNat c.lifetimeMinutes),
    required_of_lookup rfl (hDouble c.similarityThreshold), required_of_lookup rfl (hBool c.warmUp),
    required_of_lookup rfl (hNat c.warmUpDelayMillis)]
  rfl

namespace Settings

open Layer

/-- The settings are what stands at the paths of a value.  Nothing else is said of those whose path
is not there, but that without its table there is no limit of the time and no file. -/
structure Reads (s : Settings) (whole : Json) : Prop where
  enabled : ∀ v, at? ["cache", "enabled"] whole = some v →
    Decoder.lenient.bool v = some s.cache.enabled
  maxEntries : ∀ v, at? ["cache", "max_entries"] whole = some v →
    Decoder.lenient.nat v = some s.cache.maxEntries
  maxMemory : ∀ v, at? ["cache", "max_memory_mb"] whole = some v →
    Decoder.lenient.nat v = some s.cache.maxMemoryMegabytes
  lifetime : ∀ v, at? ["cache", "ttl_minutes"] whole = some v →
    Decoder.lenient.nat v = some s.cache.lifetimeMinutes
  similarity : ∀ v, at? ["cache", "context_similarity_threshold"] whole = some v →
    Decoder.lenient.double v = some s.cache.similarityThreshold
  warmUp : ∀ v, at? ["cache", "enable_warmup"] whole = some v →
    Decoder.lenient.bool v = some s.cache.warmUp
  warmUpDelay : ∀ v, at? ["cache", "warmup_delay_ms"] whole = some v →
    Decoder.lenient.nat v = some s.cache.warmUpDelayMillis
  timeout : ∀ v, at? ["query", "default_timeout_ms"] whole = some v →
    Decoder.orNull Decoder.lenient.nat v = some s.timeoutMillis
  path : ∀ v, at? ["saved_queries", "path"] whole = some v →
    Decoder.orNull Decoder.lenient.text v = some s.savedPath
  noTimeout : at? ["query"] whole = none → s.timeoutMillis = none
  noPath : at? ["saved_queries"] whole = none → s.savedPath = none

/-! ### Reading settings -/

variable {fields : List (String × Json)} {settings : Settings}

theorem at?_object {name : String} {path : List String} {whole v : Json}
    (h : at? (name :: path) whole = some v) :
    ∃ fields inner, whole = .object fields ∧ fields.lookup name = some inner ∧
      at? path inner = some v := by
  obtain ⟨inner, hLookup, hInner⟩ := Option.bind_eq_some_iff.1 h
  cases whole with
  | object fields => exact ⟨fields, inner, rfl, hLookup, hInner⟩
  | _ => cases hLookup

theorem at?_table {table name : String} {v : Json}
    (h : at? [table, name] (.object fields) = some v) :
    ∃ inner, fields.lookup table = some (.object inner) ∧ inner.lookup name = some v := by
  obtain ⟨_, _, hFields, hTable, hInner⟩ := at?_object h
  obtain ⟨inner, _, rfl, hName, hValue⟩ := at?_object hInner
  cases hFields
  cases hValue
  exact ⟨inner, hTable, hName⟩

theorem record_object (names : List String) (fields : List (String × Json)) :
    Decoder.lenient.record names (.object fields) = some ⟨false, fields⟩ := rfl

theorem defaulted_object {α : Type} (name : String) (decode : Json → Option (Option α)) :
    Json.Record.defaulted ⟨false, fields⟩ name none decode =
      (fields.lookup name).elim (some none) decode := by
  rw [Json.Record.defaulted]
  cases fields.lookup name <;> rfl

theorem cacheSettings?_object {c : CacheSettings}
    (h : Decoder.lenient.cacheSettings? (.object fields) = some c) :
    (fields.lookup "enabled").bind Decoder.lenient.bool = some c.enabled ∧
      (fields.lookup "max_entries").bind Decoder.lenient.nat = some c.maxEntries ∧
      (fields.lookup "max_memory_mb").bind Decoder.lenient.nat = some c.maxMemoryMegabytes ∧
      (fields.lookup "ttl_minutes").bind Decoder.lenient.nat = some c.lifetimeMinutes ∧
      (fields.lookup "context_similarity_threshold").bind Decoder.lenient.double =
        some c.similarityThreshold ∧
      (fields.lookup "enable_warmup").bind Decoder.lenient.bool = some c.warmUp ∧
      (fields.lookup "warmup_delay_ms").bind Decoder.lenient.nat = some c.warmUpDelayMillis := by
  rw [Decoder.cacheSettings?, record_object, Option.bind_eq_bind, Option.bind_some] at h
  obtain ⟨_, hEnabled, h⟩ := Option.bind_eq_some_iff.1 h
  obtain ⟨_, hEntries, h⟩ := Option.bind_eq_some_iff.1 h
  obtain ⟨_, hMemory, h⟩ := Option.bind_eq_some_iff.1 h
  obtain ⟨_, hLifetime, h⟩ := Option.bind_eq_some_iff.1 h
  obtain ⟨_, hSimilarity, h⟩ := Option.bind_eq_some_iff.1 h
  obtain ⟨_, hWarmUp, h⟩ := Option.bind_eq_some_iff.1 h
  obtain ⟨_, hDelay, h⟩ := Option.bind_eq_some_iff.1 h
  cases h
  exact ⟨hEnabled, hEntries, hMemory, hLifetime, hSimilarity, hWarmUp, hDelay⟩

theorem settings?_object (h : Decoder.lenient.settings? (.object fields) = some settings) :
    (fields.lookup "query").elim (some none) Decoder.lenient.timeout? =
        some settings.timeoutMillis ∧
      (fields.lookup "cache").bind Decoder.lenient.cacheSettings? = some settings.cache ∧
      (fields.lookup "saved_queries").elim (some none) Decoder.lenient.path? =
        some settings.savedPath := by
  rw [Decoder.settings?, record_object, Option.bind_eq_bind, Option.bind_some] at h
  obtain ⟨_, hTimeout, h⟩ := Option.bind_eq_some_iff.1 h
  obtain ⟨_, hCache, h⟩ := Option.bind_eq_some_iff.1 h
  obtain ⟨_, hPath, h⟩ := Option.bind_eq_some_iff.1 h
  cases h
  exact ⟨defaulted_object _ _ ▸ hTimeout, hCache, defaulted_object _ _ ▸ hPath⟩

theorem timeout?_object : Decoder.lenient.timeout? (.object fields) =
    (fields.lookup "default_timeout_ms").elim (some none)
      (Decoder.orNull Decoder.lenient.nat) := by
  rw [Decoder.timeout?, record_object, Option.bind_eq_bind, Option.bind_some]
  exact defaulted_object _ _

theorem path?_object : Decoder.lenient.path? (.object fields) =
    (fields.lookup "path").elim (some none) (Decoder.orNull Decoder.lenient.text) := by
  rw [Decoder.path?, record_object, Option.bind_eq_bind, Option.bind_some]
  exact defaulted_object _ _

theorem reads_of_settings? (h : Decoder.lenient.settings? (.object fields) = some settings) :
    Reads settings (.object fields) := by
  obtain ⟨hTimeout, hCache, hPath⟩ := settings?_object h
  have hTable : ∀ {name : String} {v : Json}, at? ["cache", name] (.object fields) = some v →
      ∃ table, Decoder.lenient.cacheSettings? (.object table) = some settings.cache ∧
        table.lookup name = some v := by
    intro name v hAt
    obtain ⟨table, hLookup, hValue⟩ := at?_table hAt
    rw [hLookup] at hCache
    exact ⟨table, hCache, hValue⟩
  constructor
  case enabled | maxEntries | maxMemory | lifetime | similarity | warmUp | warmUpDelay =>
    intro v hAt
    obtain ⟨table, hDecoded, hValue⟩ := hTable hAt
    have hFields := cacheSettings?_object hDecoded
    rw [hValue] at hFields
    simp only [Option.bind_some] at hFields
    simp only [hFields]
  case timeout =>
    intro v hAt
    obtain ⟨table, hLookup, hValue⟩ := at?_table hAt
    rwa [hLookup, Option.elim_some, timeout?_object, hValue] at hTimeout
  case path =>
    intro v hAt
    obtain ⟨table, hLookup, hValue⟩ := at?_table hAt
    rwa [hLookup, Option.elim_some, path?_object, hValue] at hPath
  case noTimeout =>
    intro hAt
    cases hLookup : fields.lookup "query" with
    | none =>
      rw [hLookup] at hTimeout
      exact (Option.some.inj hTimeout).symm
    | some v => simp [at?, fieldsOf, hLookup] at hAt
  case noPath =>
    intro hAt
    cases hLookup : fields.lookup "saved_queries" with
    | none =>
      rw [hLookup] at hPath
      exact (Option.some.inj hPath).symm
    | some v => simp [at?, fieldsOf, hLookup] at hAt

/-! ### Loading -/

theorem ofKey_eq (key : String) : ∃ name steps, PathStep.ofKey key = .name name :: steps := by
  rw [PathStep.ofKey]
  cases hPath : PathStep.path? key.toList with
  | none => exact ⟨key, [], rfl⟩
  | some steps =>
    obtain ⟨⟨first, rest⟩, hRead, hSteps⟩ := Option.bind_eq_some_iff.1 hPath
    obtain ⟨others, _, rfl⟩ := Option.map_eq_some_iff.1 hSteps
    rw [PathStep.readName] at hRead
    split at hRead
    · cases hRead
    · cases hRead
      exact ⟨_, others, rfl⟩

theorem putAll_object (layer : List (String × Json)) (fields : List (String × Json)) :
    ∃ fields', putAll layer (.object fields) = .object fields' := by
  rw [putAll]
  induction layer generalizing fields with
  | nil => exact ⟨fields, rfl⟩
  | cons entry rest ih =>
    obtain ⟨name, steps, hKey⟩ := ofKey_eq entry.1
    rw [List.foldl_cons, hKey, put]
    exact ih _

/-- **What is loaded comes from the variables, else from the document, else from the defaults.** -/
theorem load?_layered {family : String} {document : Option String}
    {environment : List (String × String)}
    (h : load? family document environment = some settings) :
    ∃ layer whole, documentLayer? document = some layer ∧ Reads settings whole ∧
      ∀ path,
        (∀ v, Gives (variableLayer family environment) path v → at? path whole = some v) ∧
        (Lacks (variableLayer family environment) path →
          (∀ v, Gives layer path v → at? path whole = some v) ∧
          (Lacks layer path → at? path whole = at? path defaults)) := by
  rw [load?] at h
  obtain ⟨layer, hLayer, hSettings⟩ := Option.bind_eq_some_iff.1 h
  obtain ⟨fields, hFields⟩ := putAll_object layer
    [("cache", CacheSettings.default.toJson.canonical)]
  obtain ⟨fields', hWhole⟩ := putAll_object (variableLayer family environment) fields
  have hDefaults : putAll layer defaults = .object fields := hFields
  rw [hDefaults, hWhole] at hSettings
  refine ⟨layer, .object fields', hLayer, reads_of_settings? hSettings, fun path => ⟨?_, ?_⟩⟩
  · intro v hGives
    rw [← hWhole]
    exact at?_putAll_of_gives hGives _
  · intro hLacks
    rw [← hWhole, at?_putAll_of_lacks hLacks, ← hDefaults]
    exact ⟨fun v hGives => at?_putAll_of_gives hGives _, fun hLacks => at?_putAll_of_lacks hLacks _⟩

/-- Without a document and variables of the family the settings are the default ones. -/
theorem load?_nothing {family : String} {environment : List (String × String)}
    (h : ∀ entry ∈ environment, variableKey? family entry.1 = none) :
    load? family none environment = some default := by
  have hLayer : variableLayer family environment = [] := by
    refine List.filterMap_eq_nil_iff.2 fun (name, value) hEntry => ?_
    exact congrArg (Option.map (·, Json.string value)) (h (name, value) hEntry)
  have hDefaults : Decoder.lenient.settings? defaults = some default := by decide +kernel
  rw [load?, hLayer]
  exact hDefaults

end Settings

end CodeGraph
