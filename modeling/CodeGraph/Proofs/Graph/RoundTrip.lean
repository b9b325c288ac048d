import CodeGraph.Graph.Json
import CodeGraph.Proofs.Json.Decoding
import CodeGraph.Proofs.Json.Range
import CodeGraph.Proofs.Json.Texts

/-!
# Graphs written and read

A node, an edge or an answer that is written as JSON and read again comes back as its `inJson`: the
same record, except that in metadata an instant comes back as its text and a float that is not
finite as null.  The texts of the doubles and instants in it must be read as these (`Steady`), and
confidences must be finite, since others have no text.  What was itself read from a text has no
instants in its metadata and only finite floats, and comes back unchanged.
-/

namespace CodeGraph

open Json (reread_integer reread_double)

/-- An instant that its own text is read as. -/
def Timestamp.ReadsBack (t : Timestamp) : Prop := ofText? t.renderShort = some t

instance (t : Timestamp) : Decidable t.ReadsBack :=
  inferInstanceAs (Decidable (Timestamp.ofText? t.renderShort = some t))

theorem readTimestamp_renderShort {t : Timestamp} (h : t.ReadsBack) :
    readTimestamp (.string t.renderShort) = some t := by
  rw [Timestamp.ReadsBack] at h
  rw [readTimestamp, Json.string?, Option.bind_some, h]

/-- A double that its text is read as, if it has a text. -/
def Double.Steady (x : Double) : Prop := x.isFinite = true → x.ReadsBack

instance (x : Double) : Decidable x.Steady :=
  inferInstanceAs (Decidable (x.isFinite = true → x.ReadsBack))

/-! ### Values -/

namespace Value

/-- What a value is after it was written and read. -/
def inJson : Value → Value
  | float x => if x.isFinite then float x else null
  | dateTime t => str t.renderShort
  | value => value

def Steady : Value → Prop
  | float x => x.Steady
  | _ => True

instance : (value : Value) → Decidable value.Steady
  | float x => inferInstanceAs (Decidable x.Steady)
  | null => .isTrue trivial
  | bool _ => .isTrue trivial
  | int _ => .isTrue trivial
  | str _ => .isTrue trivial
  | dateTime _ => .isTrue trivial

theorem inRange_toInt (i : Int64) : Json.InRange i.toInt := by
  have hLow := i.le_toInt
  have hHigh := i.toInt_lt
  exact ⟨by omega, by omega⟩

/-- **A value comes back as what it is in JSON.** -/
theorem ofJson?_reread {value : Value} (h : value.Steady) :
    ofJson? value.toJson.reread = some value.inJson := by
  cases value with
  | null => rfl
  | bool b => rfl
  | str s => rfl
  | dateTime t => rfl
  | int i =>
    rw [toJson, reread_integer (inRange_toInt i), ofJson?, ofInteger_toInt]
    rfl
  | float x =>
    rw [toJson, inJson]
    split
    · next hFinite => rw [reread_double (h hFinite), ofJson?]
    · rfl

/-- What is read from bounded JSON does not change when it is written and read. -/
theorem inJson_of_ofJson? {j : Json} (hBounded : j.Bounded) {value : Value}
    (h : ofJson? j = some value) : value.inJson = value := by
  cases j with
  | null => cases h; rfl
  | bool b => cases h; rfl
  | string s => cases h; rfl
  | double x =>
    cases h
    exact if_pos hBounded
  | integer i =>
    cases h
    rw [ofInteger]
    split
    · rfl
    · have hFinite : (Double.ofInt i).isFinite = true := by
        obtain ⟨hLow, hHigh⟩ := hBounded
        exact Double.isFinite_ofInt (by omega)
      exact if_pos hFinite
  | array items => cases h
  | object fields => cases h
  | broken => cases h

end Value

/-! ### Metadata -/

theorem readMetadata_reread {metadata : Fields Value}
    (h : ∀ entry ∈ metadata.toList, entry.2.Steady) :
    readMetadata (metadataToJson metadata).reread = some (metadata.map Value.inJson) := by
  have hReread : (metadataToJson metadata).reread =
      .object (metadata.map fun value => value.toJson.reread).toList := by
    rw [metadataToJson, Json.reread_object, Fields.toList_map, Fields.toList_map, List.map_map]
    rfl
  rw [hReread]
  exact Json.fields?_map fun entry hMem => Value.ofJson?_reread (h entry hMem)

theorem list?_reread {α β : Type} {encode : α → Json} {decode : Json → Option β} {g : α → β}
    {xs : List α} (h : ∀ x ∈ xs, decode (encode x).reread = some (g x)) :
    Json.list? decode (.array (xs.map (Json.reread ∘ encode))) = some (xs.map g) :=
  Json.list?_map h

theorem texts_reread (texts : List String) : Json.list? Json.string?
    (.array (texts.map (Json.reread ∘ Json.string))) = some texts := by
  have hSame : ∀ text ∈ texts, Json.string? (Json.string text).reread = some (id text) :=
    fun _ _ => rfl
  rw [list?_reread hSame, List.map_id]

theorem readCount_reread {n : Nat} (h : n < 2 ^ 64) :
    readCount (Json.integer n).reread = some n := by
  rw [reread_integer ⟨by omega, by omega⟩, readCount, Json.nat?, if_pos (by omega),
    Int.toNat_natCast]

/-! ### Nodes, edges and answers -/

namespace Node

def inJson (node : Node) : Node := { node with metadata := node.metadata.map Value.inJson }

/-- The texts in the node are read as what they are texts of. -/
structure Steady (node : Node) : Prop where
  metadata : ∀ entry ∈ node.metadata.toList, entry.2.Steady
  confidence : node.confidence.Steady
  lastUpdated : node.lastUpdated.ReadsBack

def Finite (node : Node) : Prop := node.confidence.isFinite = true

theorem ofJson?_reread {node : Node} (hSteady : node.Steady) (hFinite : node.Finite) :
    ofJson? node.toJson.reread = some node.inJson := by
  have hMetadata := readMetadata_reread hSteady.metadata
  have hConfidence := reread_double (hSteady.confidence hFinite)
  have hUpdated := readTimestamp_renderShort hSteady.lastUpdated
  obtain ⟨id, kind, name, path, metadata, confidence, lastUpdated, frameworks⟩ := node
  dsimp only at hMetadata hConfidence hUpdated
  cases path <;> cases frameworks
  all_goals
    rw [toJson, Json.reread_object, ofJson?, Json.Record.ofJson?_object (by simp [optionalField])]
    simp [optionalField, Json.Record.required, Json.Record.optional, Json.Record.defaulted,
      Fields.lookup_cons_eq, hMetadata, hConfidence, hUpdated, texts_reread, Json.string?,
      Json.double?, inJson]

end Node

namespace Edge

def inJson (edge : Edge) : Edge := { edge with metadata := edge.metadata.map Value.inJson }

structure Steady (edge : Edge) : Prop where
  confidence : edge.confidence.Steady
  metadata : ∀ entry ∈ edge.metadata.toList, entry.2.Steady

def Finite (edge : Edge) : Prop := edge.confidence.isFinite = true

theorem ofJson?_reread {edge : Edge} (hSteady : edge.Steady) (hFinite : edge.Finite) :
    ofJson? edge.toJson.reread = some edge.inJson := by
  have hMetadata := readMetadata_reread hSteady.metadata
  have hConfidence := reread_double (hSteady.confidence hFinite)
  obtain ⟨id, source, target, kind, confidence, metadata⟩ := edge
  dsimp only at hMetadata hConfidence
  rw [toJson, Json.reread_object, ofJson?]
  dsimp only
  by_cases hEmpty : metadata.isEmpty = true
  · rw [if_pos hEmpty, Json.Record.ofJson?_object (by simp [optionalField])]
    simp [optionalField, Json.Record.required, Json.Record.defaulted, Fields.lookup_cons_eq,
      hConfidence, Json.string?, Json.double?, inJson, Fields.eq_empty_of_isEmpty hEmpty]
    rfl
  · rw [if_neg hEmpty, Json.Record.ofJson?_object (by simp [optionalField])]
    simp [optionalField, Json.Record.required, Json.Record.defaulted, Fields.lookup_cons_eq,
      hMetadata, hConfidence, Json.string?, Json.double?, inJson]

end Edge

namespace Answer

def inJson (answer : Answer) : Answer :=
  { answer with nodes := answer.nodes.map Node.inJson, edges := answer.edges.map Edge.inJson }

structure Steady (answer : Answer) : Prop where
  nodes : ∀ node ∈ answer.nodes, node.Steady
  edges : ∀ edge ∈ answer.edges, edge.Steady

/-- All confidences of the answer are finite, and its counts are of 64 bits, as counts are. -/
structure Finite (answer : Answer) : Prop where
  nodes : ∀ node ∈ answer.nodes, node.Finite
  edges : ∀ edge ∈ answer.edges, edge.Finite
  totalMatches : answer.totalMatches < 2 ^ 64
  queryTime : answer.queryTime < 2 ^ 64

theorem ofJson?_reread {answer : Answer} (hSteady : answer.Steady) (hFinite : answer.Finite) :
    ofJson? answer.toJson.reread = some answer.inJson := by
  have hNodes := list?_reread fun node hMem =>
    Node.ofJson?_reread (hSteady.nodes node hMem) (hFinite.nodes node hMem)
  have hEdges := list?_reread fun edge hMem =>
    Edge.ofJson?_reread (hSteady.edges edge hMem) (hFinite.edges edge hMem)
  have hMatches := readCount_reread hFinite.totalMatches
  have hTime := readCount_reread hFinite.queryTime
  rw [toJson, Json.reread_object, ofJson?, Json.Record.ofJson?_object (by simp)]
  simp [Json.Record.required, Json.Record.defaulted, Fields.lookup_cons_eq, hNodes, hEdges,
    hMatches, hTime, Json.bool?, inJson]

end Answer

/-! ### What was read from a text -/

theorem map_inJson_of_readMetadata {j : Json} (hBounded : j.Bounded) {metadata : Fields Value}
    (h : readMetadata j = some metadata) : metadata.map Value.inJson = metadata :=
  Fields.map_eq_self (Json.forall_of_fields? (P := fun value => value.inJson = value)
    (fun _ _ hValue hDecode => Value.inJson_of_ofJson? hValue hDecode) hBounded h)

theorem map_inJson_of_defaulted {r : Json.Record} (hBounded : ∀ field ∈ r.fields, field.2.Bounded)
    {name : String} {metadata : Fields Value}
    (h : r.defaulted name ∅ readMetadata = some metadata) :
    metadata.map Value.inJson = metadata := by
  rcases Json.Record.of_defaulted h with rfl | ⟨value, hMem, hDecode⟩
  · rfl
  · exact map_inJson_of_readMetadata (hBounded _ hMem) hDecode

theorem isFinite_of_required {r : Json.Record} (hBounded : ∀ field ∈ r.fields, field.2.Bounded)
    {name : String} {x : Double} (h : r.required name Json.double? = some x) :
    x.isFinite = true := by
  obtain ⟨value, hMem, hDecode⟩ := Json.Record.of_required h
  exact Json.isFinite_of_double? (hBounded _ hMem) hDecode

theorem lt_of_required {r : Json.Record} (hBounded : ∀ field ∈ r.fields, field.2.Bounded)
    {name : String} {n : Nat} (h : r.required name readCount = some n) : n < 2 ^ 64 := by
  obtain ⟨value, hMem, hDecode⟩ := Json.Record.of_required h
  exact Json.lt_of_nat? (hBounded _ hMem) hDecode

theorem Node.of_ofJson? {j : Json} (hBounded : j.Bounded) {node : Node}
    (h : ofJson? j = some node) : node.Finite ∧ node.inJson = node := by
  simp only [ofJson?, Option.bind_eq_bind, Option.bind_eq_some_iff] at h
  obtain ⟨r, hRecord, id, -, kind, -, name, -, path, -, metadata, hMetadata, confidence,
    hConfidence, lastUpdated, -, frameworks, -, hNode⟩ := h
  have hFields := Json.Record.bounded hRecord hBounded
  cases hNode
  refine ⟨isFinite_of_required hFields hConfidence, ?_⟩
  simp only [inJson, map_inJson_of_defaulted hFields hMetadata]

theorem Edge.of_ofJson? {j : Json} (hBounded : j.Bounded) {edge : Edge}
    (h : ofJson? j = some edge) : edge.Finite ∧ edge.inJson = edge := by
  simp only [ofJson?, Option.bind_eq_bind, Option.bind_eq_some_iff] at h
  obtain ⟨r, hRecord, id, -, source, -, target, -, kind, -, confidence, hConfidence, metadata,
    hMetadata, hEdge⟩ := h
  have hFields := Json.Record.bounded hRecord hBounded
  cases hEdge
  refine ⟨isFinite_of_required hFields hConfidence, ?_⟩
  simp only [inJson, map_inJson_of_defaulted hFields hMetadata]

theorem Answer.of_ofJson? {j : Json} (hBounded : j.Bounded) {answer : Answer}
    (h : ofJson? j = some answer) : answer.Finite ∧ answer.inJson = answer := by
  simp only [ofJson?, Option.bind_eq_bind, Option.bind_eq_some_iff] at h
  obtain ⟨r, hRecord, nodes, hNodes, edges, hEdges, totalMatches, hMatches, queryTime, hTime,
    cached, -, hAnswer⟩ := h
  have hFields := Json.Record.bounded hRecord hBounded
  obtain ⟨nodesJson, hNodesMem, hNodesDecode⟩ := Json.Record.of_required hNodes
  obtain ⟨edgesJson, hEdgesMem, hEdgesDecode⟩ := Json.Record.of_required hEdges
  have hAllNodes : ∀ node ∈ nodes, node.Finite ∧ node.inJson = node :=
    Json.forall_of_list? (fun _ _ hValue hDecode => Node.of_ofJson? hValue hDecode)
      (hFields _ hNodesMem) hNodesDecode
  have hAllEdges : ∀ edge ∈ edges, edge.Finite ∧ edge.inJson = edge :=
    Json.forall_of_list? (fun _ _ hValue hDecode => Edge.of_ofJson? hValue hDecode)
      (hFields _ hEdgesMem) hEdgesDecode
  have hMatchesLt := lt_of_required hFields hMatches
  have hTimeLt := lt_of_required hFields hTime
  cases hAnswer
  refine ⟨⟨fun node hMem => (hAllNodes node hMem).1, fun edge hMem => (hAllEdges edge hMem).1,
    hMatchesLt, hTimeLt⟩, ?_⟩
  have hNodesSame : nodes.map Node.inJson = nodes :=
    List.map_congr_left (fun node hMem => (hAllNodes node hMem).2) |>.trans (List.map_id _)
  have hEdgesSame : edges.map Edge.inJson = edges :=
    List.map_congr_left (fun edge hMem => (hAllEdges edge hMem).2) |>.trans (List.map_id _)
  simp only [inJson, hNodesSame, hEdgesSame]

/-! ### Encoding and decoding -/

/-- A decoder undoes an encoder: what is `Finite` and `Steady` comes back as its `inJson`, and
what was itself decoded from a text comes back as it is if it is `Steady`. -/
structure Decodes {α : Type} (ofJson? : Json → Option α) (toJson : α → Json) (inJson : α → α)
    (Finite Steady : α → Prop) : Prop where
  written : ∀ x, Steady x → Finite x →
    (Json.ofText? (toJson x).compact).bind ofJson? = some (inJson x)
  read : ∀ text x, (Json.ofText? text).bind ofJson? = some x → Steady x →
    (Json.ofText? (toJson x).compact).bind ofJson? = some x

section

variable {α : Type} {ofJson? : Json → Option α} {toJson : α → Json} {inJson : α → α}
  {Finite Steady : α → Prop}

theorem Decodes.of_reread
    (hReread : ∀ x, Steady x → Finite x → ofJson? (toJson x).reread = some (inJson x))
    (hBounded : ∀ (j : Json) x, j.Bounded → ofJson? j = some x → Finite x ∧ inJson x = x) :
    Decodes ofJson? toJson inJson Finite Steady := by
  have hWritten : ∀ x, Steady x → Finite x →
      (Json.ofText? (toJson x).compact).bind ofJson? = some (inJson x) := by
    intro x hSteady hFinite
    rw [Json.ofText?_compact, Option.bind_some, hReread x hSteady hFinite]
  refine ⟨hWritten, fun text x hText hSteady => ?_⟩
  obtain ⟨j, hJson, hDecode⟩ := Option.bind_eq_some_iff.1 hText
  obtain ⟨hFinite, hSame⟩ := hBounded j x (Json.bounded_of_ofText? hJson) hDecode
  rw [hWritten x hSteady hFinite, hSame]

end

/-- **Nodes, edges and answers are decoded from their encodings.** -/
theorem decodes_encoded :
    Decodes Node.ofJson? Node.toJson Node.inJson Node.Finite Node.Steady ∧
    Decodes Edge.ofJson? Edge.toJson Edge.inJson Edge.Finite Edge.Steady ∧
    Decodes Answer.ofJson? Answer.toJson Answer.inJson Answer.Finite Answer.Steady :=
  ⟨.of_reread (fun _ => Node.ofJson?_reread) fun _ _ hBounded => Node.of_ofJson? hBounded,
    .of_reread (fun _ => Edge.ofJson?_reread) fun _ _ hBounded => Edge.of_ofJson? hBounded,
    .of_reread (fun _ => Answer.ofJson?_reread) fun _ _ hBounded => Answer.of_ofJson? hBounded⟩

/-- A node whose metadata has values that come back and values that do not. -/
def Node.mixed : Node where
  id := "file:main"
  kind := "file"
  name := "main.rs"
  path := some "src/main.rs"
  metadata := .ofList [("lines", .int 120), ("ratio", .float (.ofDecimal false 5 (-1))),
    ("limit", .float .infinity), ("seen", .dateTime .epoch), ("stamp", .str "1970-01-01T00:00:00Z")]
  confidence := .ofNat 1
  lastUpdated := .epoch
  frameworks := some ["axum"]

theorem decodes_encoded_mixed :
    (Json.ofText? Node.mixed.toJson.compact).bind Node.ofJson? =
      some { Node.mixed with metadata := .ofList [("lines", .int 120),
        ("ratio", .float (.ofDecimal false 5 (-1))), ("limit", .null),
        ("seen", .str "1970-01-01T00:00:00Z"), ("stamp", .str "1970-01-01T00:00:00Z")] } := by
  have hSteady : Node.mixed.Steady := ⟨by decide +kernel, by decide +kernel, by decide +kernel⟩
  have hFinite : Node.mixed.Finite := by
    rw [Node.Finite]
    decide +kernel
  have hInJson : Node.mixed.inJson = { Node.mixed with metadata := .ofList [("lines", .int 120),
      ("ratio", .float (.ofDecimal false 5 (-1))), ("limit", .null),
      ("seen", .str "1970-01-01T00:00:00Z"), ("stamp", .str "1970-01-01T00:00:00Z")] } := by
    decide +kernel
  rw [decodes_encoded.1.written Node.mixed hSteady hFinite, hInJson]

end CodeGraph
