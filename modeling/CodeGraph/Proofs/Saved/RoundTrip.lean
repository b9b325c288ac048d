import CodeGraph.Proofs.Graph.RoundTrip
import CodeGraph.Saved.Store

/-!
# Saved queries written and read

The text that a list of queries is kept as is always read as JSON again, and whatever the queries
are, their identifiers stand in it (`idsIn_writeList`).  The queries themselves come back from it if
they are `Steady`: their instants and the numbers of their parameters are read as what they are, no
parameter is nested too deep, and the use counts are of 64 bits (`readList?_writeList`).
-/

namespace CodeGraph

open Query (Params)

namespace SavedQuery

/-- The value of a parameter that comes back from a list of queries: with sorted fields, as every
value has that a caller can pass, with numbers that are read as themselves, and not too deep. -/
structure Storable (value : Json) : Prop where
  sorted : value.canonical = value
  reread : value.reread = value
  denotes : value.denotes parameterDepth = true

structure Steady (q : SavedQuery) : Prop where
  parameters : ∀ params, q.parameters = some params → ∀ entry ∈ params.toList, Storable entry.2
  createdAt : q.createdAt.ReadsBack
  lastUsed : ∀ t, q.lastUsed = some t → t.ReadsBack
  usageCount : q.usageCount < 2 ^ 64

/-! ### Fields -/

theorem params?_reread {params : Params} (h : ∀ entry ∈ params.toList, Storable entry.2) :
    params? (Json.object params.toList).reread = some params := by
  have hDecode : ∀ entry ∈ params.toList,
      (if entry.2.reread.denotes parameterDepth then some entry.2.reread.canonical else none) =
        some entry.2 := fun entry hMem => by
    obtain ⟨hSorted, hReread, hDenotes⟩ := h entry hMem
    rw [hReread, if_pos hDenotes, hSorted]
  have hFields : params? (.object (params.map Json.reread).toList) =
      some (params.map fun value => value) := Json.fields?_map hDecode
  have hSame : params.map (fun value => value) = params := Fields.map_eq_self fun _ _ => rfl
  rw [hSame, Fields.toList_map] at hFields
  rw [Json.reread_object, hFields]

theorem timestamp?_renderShort {t : Timestamp} (h : t.ReadsBack) :
    timestamp? (.string t.renderShort) = some t :=
  readTimestamp_renderShort h

theorem nat?_reread {n : Nat} (h : n < 2 ^ 64) : Json.nat? (Json.integer n).reread = some n :=
  readCount_reread h

/-! ### Whole queries -/

def written (q : SavedQuery) : List (String × Json) :=
  [("id", .string q.id), ("name", .string q.name), ("description", .string q.description),
    ("query", .string q.query)] ++
    (q.parameters.map fun params => ("parameters", (Json.object params.toList).reread)).toList ++
    [("createdAt", .string q.createdAt.renderShort),
      ("lastUsed", (q.lastUsed.map fun t => Json.string t.renderShort).getD .null),
      ("usageCount", (Json.integer q.usageCount).reread)]

theorem toJson_reread (q : SavedQuery) : q.toJson.reread = .object q.written := by
  rw [toJson, Json.reread_object, written]
  cases q.parameters <;> cases q.lastUsed <;> rfl

theorem nodup_written (q : SavedQuery) : (q.written.map (·.1)).Nodup := by
  rw [written]
  cases q.parameters <;> simp

theorem lookup_written {q : SavedQuery} {name : String} {value : Json}
    (h : (name, value) ∈ q.written) : q.written.lookup name = some value :=
  (Fields.lookup_eq_some_iff_mem q.nodup_written).2 h

theorem required_written {q : SavedQuery} {name : String} {value : Json} {α : Type}
    {decode : Json → Option α} {x : α} (h : (name, value) ∈ q.written)
    (hDecode : decode value = some x) :
    (Json.Record.mk false q.written).required name decode = some x := by
  rw [Json.Record.required, lookup_written h, Option.bind_some, hDecode]

theorem defaulted_parameters {q : SavedQuery} (h : q.Steady) :
    (Json.Record.mk false q.written).defaulted "parameters" none optionalParams? =
      some q.parameters := by
  rw [Json.Record.defaulted]
  cases hParams : q.parameters with
  | none => simp [written, hParams, Fields.lookup_cons_eq]
  | some params =>
    have hMem : ("parameters", (Json.object params.toList).reread) ∈ q.written := by
      simp [written, hParams]
    have hRead := params?_reread (h.parameters params hParams)
    rw [lookup_written hMem]
    rw [Json.reread_object] at hRead ⊢
    dsimp only
    rw [optionalParams?, hRead, Option.map_some]
    intro hNull
    cases hNull

theorem optional_lastUsed {q : SavedQuery} (h : q.Steady) :
    (Json.Record.mk false q.written).optional "lastUsed" timestamp? = some q.lastUsed := by
  have hMem : ("lastUsed", (q.lastUsed.map fun t => Json.string t.renderShort).getD .null) ∈
      q.written := by simp [written]
  rw [Json.Record.optional, lookup_written hMem]
  cases hUsed : q.lastUsed with
  | none => rfl
  | some t =>
    simp only [Option.map_some, Option.getD_some, timestamp?_renderShort (h.lastUsed t hUsed)]

/-- **A steady query comes back.** -/
theorem ofJson?_reread {q : SavedQuery} (h : q.Steady) : ofJson? q.toJson.reread = some q := by
  have hText : ∀ {name : String} {text : String}, (name, Json.string text) ∈ q.written →
      (Json.Record.mk false q.written).required name Json.string? = some text :=
    fun hMem => required_written hMem rfl
  have hId : ("id", Json.string q.id) ∈ q.written := by simp [written]
  have hName : ("name", Json.string q.name) ∈ q.written := by simp [written]
  have hDescription : ("description", Json.string q.description) ∈ q.written := by simp [written]
  have hQuery : ("query", Json.string q.query) ∈ q.written := by simp [written]
  have hCreated : ("createdAt", Json.string q.createdAt.renderShort) ∈ q.written := by
    simp [written]
  have hCount : ("usageCount", (Json.integer q.usageCount).reread) ∈ q.written := by simp [written]
  rw [toJson_reread, ofJson?, Json.Record.ofJson?_object q.nodup_written]
  simp only [Option.bind_eq_bind, Option.bind_some, hText hId, hText hName, hText hDescription,
    hText hQuery, defaulted_parameters h, optional_lastUsed h,
    required_written hCreated (timestamp?_renderShort h.createdAt),
    required_written hCount (nat?_reread h.usageCount)]

/-! ### Lists of queries -/

/-- **A list of steady queries comes back from its text.** -/
theorem readList?_writeList {queries : List SavedQuery} (h : ∀ q ∈ queries, q.Steady) :
    readList? (writeList queries) = some queries := by
  have hItems : Json.list? ofJson? (.array (queries.map (Json.reread ∘ toJson))) =
      some (queries.map fun q => q) :=
    list?_reread fun q hMem => ofJson?_reread (h q hMem)
  rw [readList?, writeList, Json.ofText?_indented, Option.bind_some, Json.reread_array,
    List.map_map, hItems, List.map_id']

def fieldNames : List String :=
  ["id", "name", "description", "query", "parameters", "createdAt", "lastUsed", "usageCount"]

/-- The identifier of a query as it stands in JSON, whatever becomes of its other fields. -/
def idIn? (value : Json) : Option String :=
  (Json.Record.ofJson? fieldNames value).bind (·.required "id" Json.string?)

def idsIn (text : String) : List String :=
  match Json.ofText? text with
  | some (.array items) => items.filterMap idIn?
  | _ => []

theorem idIn?_of_ofJson? {value : Json} {q : SavedQuery} (h : ofJson? value = some q) :
    idIn? value = some q.id := by
  simp only [ofJson?, Option.bind_eq_bind, Option.bind_eq_some_iff] at h
  obtain ⟨r, hRecord, id, hId, name, -, description, -, query, -, parameters, -, createdAt, -,
    lastUsed, -, usageCount, -, hQuery⟩ := h
  cases hQuery
  rw [idIn?, fieldNames, hRecord, Option.bind_some, hId]

theorem idsIn_of_readList? {text : String} {queries : List SavedQuery}
    (h : readList? text = some queries) : idsIn text = queries.map (·.id) := by
  obtain ⟨value, hText, hList⟩ := Option.bind_eq_some_iff.1 h
  rw [idsIn, hText]
  cases value with
  | array items =>
    have hItems := Json.mapM_eq_some_iff.1 hList
    clear hText hList h
    dsimp only
    induction hItems with
    | nil => rfl
    | cons hFirst _ ih =>
      rw [List.filterMap_cons_some (idIn?_of_ofJson? hFirst), ih, List.map_cons]
  | _ => cases hList

/-- **The identifiers of all queries stand in the text of their list.** -/
theorem idsIn_writeList (queries : List SavedQuery) :
    idsIn (writeList queries) = queries.map (·.id) := by
  have hId : ∀ q : SavedQuery, idIn? ((Json.reread ∘ toJson) q) = some q.id := fun q => by
    have hMem : ("id", Json.string q.id) ∈ q.written := by simp [written]
    rw [Function.comp, idIn?, toJson_reread, Json.Record.ofJson?_object q.nodup_written,
      Option.bind_some]
    exact required_written hMem rfl
  rw [idsIn, writeList, Json.ofText?_indented, Json.reread_array, List.map_map]
  dsimp only
  induction queries with
  | nil => rfl
  | cons q queries ih => rw [List.map_cons, List.filterMap_cons_some (hId q), ih, List.map_cons]

end SavedQuery

end CodeGraph
