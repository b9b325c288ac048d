import CodeGraph.Proofs.Fields
import CodeGraph.Query.Execution

/-!
# The rows of an answer

A row holds one value under each column, so items of a `RETURN` clause that name one column are set
one over the other, and the last of them stays (`find?_rowOf`).  Every item that no later one shares
its column with keeps its value, and the others keep theirs only where the last shows the same
(`rows_hold_last`).
-/

namespace CodeGraph.Query

variable {plan : Plan Value} {node : Node} {items : List ReturnItem} {item : ReturnItem}

/-! ### Items -/

/-- What a returned expression shows of a node: its identifier for `*` and for the name of a node
pattern, else what the field holds, or null where the node has no such field. -/
inductive Shows (plan : Plan Value) (node : Node) : String → Value → Prop
  | all : Shows plan node "*" (.str node.id)
  | name {expression : String} (hName : some expression ∈ plan.nodes.map (·.name)) :
    Shows plan node expression (.str node.id)
  | field {expression : String} {v : Value} (hStar : expression ≠ "*")
    (hName : some expression ∉ plan.nodes.map (·.name))
    (hField : node.resolve? expression = some v) : Shows plan node expression v
  | missing {expression : String} (hStar : expression ≠ "*")
    (hName : some expression ∉ plan.nodes.map (·.name))
    (hField : node.resolve? expression = none) : Shows plan node expression .null

theorem shows_iff {expression : String} {v : Value} :
    Shows plan node expression v ↔
      project (plan.nodes.filterMap (·.name)) node expression = v := by
  have hNames : (plan.nodes.filterMap (·.name)).contains expression = true ↔
      some expression ∈ plan.nodes.map (·.name) := by
    rw [List.contains_iff_mem, List.mem_filterMap, List.mem_map]
  unfold project
  by_cases hStar : expression = "*"
  · subst hStar
    constructor
    · rintro (_ | _ | hStar | hStar)
      · simp
      · simp
      · exact absurd rfl hStar
      · exact absurd rfl hStar
    · rintro rfl
      simpa using Shows.all
  by_cases hName : some expression ∈ plan.nodes.map (·.name)
  · rw [if_pos (by rw [hNames.2 hName, Bool.or_true])]
    constructor
    · rintro (_ | _ | ⟨_, hNone, _⟩ | ⟨_, hNone, _⟩)
      · rfl
      · rfl
      · exact absurd hName hNone
      · exact absurd hName hNone
    · rintro rfl
      exact .name hName
  · rw [if_neg (by rw [Bool.or_eq_true, hNames, beq_iff_eq]; exact not_or.2 ⟨hStar, hName⟩)]
    constructor
    · rintro (_ | hSome | ⟨_, _, hField⟩ | ⟨_, _, hField⟩)
      · exact absurd rfl hStar
      · exact absurd hSome hName
      · rw [hField]; rfl
      · rw [hField]; rfl
    · rintro rfl
      cases hField : node.resolve? expression with
      | none => exact .missing hStar hName hField
      | some v => exact .field hStar hName hField

/-- The item is the last of those that name the column. -/
def LastUnder (column : String) (items : List ReturnItem) (item : ReturnItem) : Prop :=
  item.column = column ∧ ∃ before after, items = before ++ item :: after ∧
    ∀ later ∈ after, later.column ≠ column

theorem LastUnder.mem {column : String} (h : LastUnder column items item) : item ∈ items := by
  obtain ⟨-, before, after, rfl, -⟩ := h
  exact List.mem_append_right _ List.mem_cons_self

theorem lookup_reverse_iff {column : String} {value : Value} {f : ReturnItem → Value} :
    (items.map fun item => (item.column, f item)).reverse.lookup column = some value ↔
      ∃ item, LastUnder column items item ∧ f item = value := by
  rw [List.lookup_eq_some_iff]
  constructor
  · rintro ⟨after, before, hSplit, hAfter⟩
    rw [List.reverse_eq_iff, List.reverse_append, List.reverse_cons, List.append_assoc,
      List.singleton_append] at hSplit
    obtain ⟨front, rest, rfl, -, hRest⟩ := List.map_eq_append_iff.1 hSplit
    obtain ⟨item, back, rfl, hItem, hBack⟩ := List.map_eq_cons_iff.1 hRest
    obtain ⟨hColumn, hValue⟩ := Prod.mk.inj hItem
    refine ⟨item, ⟨hColumn, front, back, rfl, fun later hLater => ?_⟩, hValue⟩
    have hMem : (later.column, f later) ∈ after := by
      rw [← List.mem_reverse, ← hBack]
      exact List.mem_map_of_mem hLater
    exact fun hColumn => by simpa [hColumn] using hAfter _ hMem
  · rintro ⟨item, ⟨rfl, before, after, rfl, hAfter⟩, rfl⟩
    refine ⟨(after.map fun item => (item.column, f item)).reverse,
      (before.map fun item => (item.column, f item)).reverse, by simp, fun entry hEntry => ?_⟩
    rw [List.mem_reverse] at hEntry
    obtain ⟨later, hLater, rfl⟩ := List.mem_map.1 hEntry
    simpa using fun hColumn => hAfter later hLater hColumn.symm

theorem exists_lastUnder (h : item ∈ items) : ∃ last, LastUnder item.column items last := by
  have hSome : ((items.map fun item => (item.column, Value.null)).reverse.lookup
      item.column).isSome = true := by
    rw [List.lookup_isSome_iff]
    exact ⟨_, List.mem_reverse.2 (List.mem_map_of_mem h), beq_self_eq_true _⟩
  obtain ⟨value, hValue⟩ := Option.isSome_iff_exists.1 hSome
  obtain ⟨last, hLast, -⟩ := lookup_reverse_iff.1 hValue
  exact ⟨last, hLast⟩

/-! ### Rows -/

def rowOf (plan : Plan Value) (items : List ReturnItem) (node : Node) : Row :=
  .ofList (items.map fun item =>
    (item.column, project (plan.nodes.filterMap (·.name)) node item.expression))

/-- **A column holds what the last item that names it shows.** -/
theorem find?_rowOf {column : String} {value : Value} :
    (rowOf plan items node).find? column = some value ↔
      ∃ item, LastUnder column items item ∧ Shows plan node item.expression value := by
  rw [rowOf, Fields.ofList, Fields.find?_insertAll_reverse]
  simp only [shows_iff]
  rw [← lookup_reverse_iff]
  exact iff_of_eq (congrArg (· = some value) (Option.or_none))

theorem isSome_find?_rowOf {column : String} :
    ((rowOf plan items node).find? column).isSome = true ↔ column ∈ items.map (·.column) := by
  rw [Option.isSome_iff_exists, List.mem_map]
  constructor
  · rintro ⟨value, hValue⟩
    obtain ⟨item, hLast, -⟩ := find?_rowOf.1 hValue
    exact ⟨item, hLast.mem, hLast.1⟩
  · rintro ⟨item, hItem, rfl⟩
    obtain ⟨last, hLast⟩ := exists_lastUnder hItem
    exact ⟨_, find?_rowOf.2 ⟨last, hLast, shows_iff.2 rfl⟩⟩

theorem find?_rowOf_iff_last (h : item ∈ items) {value : Value} :
    (rowOf plan items node).find? item.column = some value ↔
      ∀ last, LastUnder item.column items last → Shows plan node last.expression value := by
  constructor
  · intro hHeld other hOther
    have hShown : (rowOf plan items node).find? item.column =
        some (project (plan.nodes.filterMap (·.name)) node other.expression) :=
      find?_rowOf.2 ⟨other, hOther, shows_iff.2 rfl⟩
    rw [hHeld] at hShown
    exact shows_iff.2 (Option.some.inj hShown).symm
  · intro hAll
    obtain ⟨last, hLast⟩ := exists_lastUnder h
    exact find?_rowOf.2 ⟨last, hLast, hAll last hLast⟩

/-- **One row for each node, in their order, with the last item of each column.**  A row has the
columns that the items name, and each holds what the last item that names it shows of the node.  So
an item is shown in full unless a later one names its column and shows something else. -/
theorem rows_hold_last (hColumns : plan.columns = some items)
    (hPlain : ∀ item ∈ items, item.aggregate = none) (nodes : List Node) :
    ∃ made, rows plan nodes = .ok made ∧ List.Forall₂ (fun node row =>
      (∀ column, (row.find? column).isSome = true ↔ column ∈ items.map (·.column)) ∧
      (∀ column value, row.find? column = some value ↔
        ∃ item, LastUnder column items item ∧ Shows plan node item.expression value) ∧
      ∀ item ∈ items, ∀ value, Shows plan node item.expression value →
        (row.find? item.column = some value ↔
          ∀ last, LastUnder item.column items last → Shows plan node last.expression value))
      nodes made := by
  have hNone : (items.findSome? fun item => item.aggregate.map (·, item.expression)) = none :=
    List.findSome?_eq_none_iff.2 fun item hItem => by rw [hPlain item hItem]; rfl
  have hRows : rows plan nodes = .ok (nodes.map (rowOf plan items)) := by
    rw [rows, hColumns]
    dsimp only
    rw [hNone]
    rfl
  refine ⟨_, hRows, ?_⟩
  rw [List.forall₂_map_right_iff, List.forall₂_same]
  exact fun node _ => ⟨fun column => isSome_find?_rowOf, fun column value => find?_rowOf,
    fun item hItem value _ => find?_rowOf_iff_last hItem⟩

def namedAndTyped : List ReturnItem := [⟨"n.name", some "x", none⟩, ⟨"n.type", some "x", none⟩]

theorem exists_namedAndTyped :
    ∃ plan, parse "MATCH (n) RETURN n.name AS x, n.type AS x" ∅ = .ok plan ∧
      plan.columns = some namedAndTyped ∧ plan.nodes.map (·.name) = [some "n"] := by
  have hParts : (parse "MATCH (n) RETURN n.name AS x, n.type AS x" ∅).toOption.map (fun plan =>
      (plan.columns, plan.nodes.map (·.name))) = some (some namedAndTyped, [some "n"]) := by
    decide +kernel
  cases hParse : parse "MATCH (n) RETURN n.name AS x, n.type AS x" ∅ with
  | error e => rw [hParse] at hParts; cases hParts
  | ok plan =>
    rw [hParse] at hParts
    obtain ⟨hColumns, hNames⟩ := Prod.mk.inj (Option.some.inj hParts)
    exact ⟨plan, rfl, hColumns, hNames⟩

def mainFile : Node := { (default : Node) with id := "a", name := "main.rs", kind := "file" }

/-- The type of the file stands under the name, as the item that was given last. -/
theorem rows_hold_last_type :
    ∃ plan row, plan.columns = some namedAndTyped ∧ (∀ item ∈ namedAndTyped, item.aggregate = none) ∧
      rows plan [mainFile] = .ok [row] ∧ row.find? "x" = some (.str "file") := by
  obtain ⟨plan, -, hColumns, hNames⟩ := exists_namedAndTyped
  have hPlain : ∀ item ∈ namedAndTyped, item.aggregate = none := by decide
  obtain ⟨made, hRows, hMade⟩ := rows_hold_last hColumns hPlain [mainFile]
  cases hMade with
  | cons hRow hRest =>
    cases hRest
    refine ⟨plan, _, hColumns, hPlain, hRows, (hRow.2.1 _ _).2 ⟨_, ⟨rfl, [_], [], rfl, nofun⟩, ?_⟩⟩
    exact .field (by decide) (by rw [hNames]; decide) (by decide +kernel)

/-- The name of the file is in no column of its row. -/
theorem rows_lose_item :
    ∃ plan, parse "MATCH (n) RETURN n.name AS x, n.type AS x" ∅ = .ok plan ∧
      plan.columns = some namedAndTyped ∧ (∀ item ∈ namedAndTyped, item.aggregate = none) ∧
      ∃ item ∈ namedAndTyped, Shows plan mainFile item.expression (.str "main.rs") ∧
        item.column = "x" ∧ ∃ row, rows plan [mainFile] = .ok [row] ∧
          row.toList = [("x", .str "file")] := by
  obtain ⟨plan, hParse, hColumns, hNames⟩ := exists_namedAndTyped
  have hPattern : plan.nodes.filterMap (·.name) = ["n"] := by
    have hMap : plan.nodes.filterMap (·.name) = (plan.nodes.map (·.name)).filterMap id := by
      rw [List.filterMap_map]; rfl
    rw [hMap, hNames]; rfl
  refine ⟨plan, hParse, hColumns, by decide, ⟨"n.name", some "x", none⟩, by decide,
    .field (by decide) (by rw [hNames]; decide) (by decide +kernel), rfl,
    .ofList [("x", .str "main.rs"), ("x", .str "file")], ?_, by decide +kernel⟩
  rw [rows, hColumns, hPattern]
  rfl

end CodeGraph.Query
