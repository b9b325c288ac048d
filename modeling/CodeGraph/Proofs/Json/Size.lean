import CodeGraph.Graph.Json

/-!
# Sizes of written values

The text of a value is at least as long as that of each of its parts, and takes at least one byte
for every character.  So an answer is at least as large as the name of any node in it
(`Answer.length_name_le_size`).
-/

namespace CodeGraph

namespace Json

theorem length_le_joined {separator part : List Char} {parts : List (List Char)}
    (h : part ∈ parts) : part.length ≤ (joined separator parts).length := by
  induction parts with
  | nil => cases h
  | cons first rest ih =>
    cases rest with
    | nil =>
      rw [List.mem_singleton.1 h]
      exact Nat.le_refl _
    | cons second rest =>
      show part.length ≤ (first ++ separator ++ joined separator (second :: rest)).length
      rw [List.length_append, List.length_append]
      rcases List.mem_cons.1 h with rfl | h
      · omega
      · have hRest := ih h
        omega

theorem length_le_quoted (s : String) : s.length ≤ (quoted s).length := by
  have hChars : ∀ cs : List Char, cs.length ≤ (cs.flatMap escapedChar).length := by
    intro cs
    induction cs with
    | nil => exact Nat.le_refl _
    | cons c cs ih =>
      have hOne : 1 ≤ (escapedChar c).length := by
        unfold escapedChar
        split <;> (try split) <;> simp
      rw [List.flatMap_cons, List.length_append, List.length_cons]
      omega
  have hString := hChars s.toList
  rw [String.length_toList] at hString
  rw [quoted, List.length_cons, List.length_append]
  omega

theorem length_le_array {value : Json} {items : List Json} (h : value ∈ items) :
    value.compactChars.length ≤ (array items).compactChars.length := by
  have hMem : value.compactChars ∈ compactItems items := by
    induction items with
    | nil => cases h
    | cons first rest ih =>
      rw [compactItems]
      rcases List.mem_cons.1 h with rfl | h
      · exact List.mem_cons_self
      · exact List.mem_cons_of_mem _ (ih h)
  have hJoined : _ ≤ (joined [','] (compactItems items)).length := length_le_joined hMem
  rw [compactChars, List.length_cons, List.length_append]
  omega

theorem length_le_object {name : String} {value : Json} {fields : List (String × Json)}
    (h : (name, value) ∈ fields) :
    value.compactChars.length ≤ (object fields).compactChars.length := by
  have hMem : (quoted name ++ ':' :: value.compactChars) ∈ compactFields fields := by
    induction fields with
    | nil => cases h
    | cons first rest ih =>
      rw [compactFields]
      rcases List.mem_cons.1 h with rfl | h
      · exact List.mem_cons_self
      · exact List.mem_cons_of_mem _ (ih h)
  have hJoined : _ ≤ (joined [','] (compactFields fields)).length := length_le_joined hMem
  rw [List.length_append, List.length_cons] at hJoined
  rw [compactChars, List.length_cons, List.length_append]
  omega

theorem length_le_size (value : Json) : value.compactChars.length ≤ value.size := by
  rw [size, compact]
  induction value.compactChars with
  | nil => exact Nat.zero_le _
  | cons c cs ih =>
    have hOne := Char.utf8Size_pos c
    rw [String.ofList_cons, String.utf8ByteSize_append, String.utf8ByteSize_singleton,
      List.length_cons]
    omega

end Json

theorem Answer.length_name_le_size {answer : Answer} {node : Node} (h : node ∈ answer.nodes) :
    node.name.length ≤ answer.size := by
  have hName : node.name.length ≤ (Json.string node.name).compactChars.length := by
    rw [Json.compactChars]
    exact Json.length_le_quoted node.name
  have hNode : (Json.string node.name).compactChars.length ≤ node.toJson.compactChars.length :=
    @Json.length_le_object "name" _ _ (by simp)
  have hNodes : node.toJson.compactChars.length ≤
      (Json.array (answer.nodes.map Node.toJson)).compactChars.length :=
    Json.length_le_array (List.mem_map_of_mem h)
  have hAnswer : (Json.array (answer.nodes.map Node.toJson)).compactChars.length ≤
      answer.toJson.compactChars.length :=
    @Json.length_le_object "nodes" _ _ List.mem_cons_self
  have hSize := answer.toJson.length_le_size
  show node.name.length ≤ answer.toJson.size
  omega

end CodeGraph
