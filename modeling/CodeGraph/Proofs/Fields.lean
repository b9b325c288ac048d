import Mathlib.Data.List.Nodup
import CodeGraph.Fields

/-!
# Maps by their lookups

A map is known by what it gives for every name (`ext_find?`), so facts about maps are facts about
lookups: what entries set one after the other and names taken out do to them.  A map is put together
again from its own entries in any order (`insertAll_perm`), as no name stands twice in them.
-/

namespace CodeGraph.Fields

variable {α β : Type}

theorem ext_toList {a b : Fields α} (h : a.toList = b.toList) : a = b := by
  obtain ⟨entries, _⟩ := a
  cases h
  rfl

/-- **Maps with the same lookups are the same.** -/
theorem ext_find? {a b : Fields α} (h : ∀ name, a.find? name = b.find? name) : a = b := by
  have hNodup : ∀ fields : Fields α, fields.toList.Nodup :=
    fun fields => .of_map _ fields.nodup_names
  have hMem : ∀ entry, entry ∈ a.toList ↔ entry ∈ b.toList := fun entry => by
    rw [← find?_eq_some_iff, ← find?_eq_some_iff, h]
  have hPerm : a.toList.Perm b.toList := (List.perm_ext_iff_of_nodup (hNodup a) (hNodup b)).2 hMem
  refine ext_toList (hPerm.eq_of_pairwise ?_ a.sorted b.sorted)
  intro x y _ _ hxy hyx
  exact absurd (String.lt_trans hxy hyx) (String.lt_irrefl _)

/-! ### Entries set one after the other -/

/-- **Of entries set one after the other, each name takes its last entry, and the other names keep
what they had.** -/
theorem find?_insertAll_reverse (entries : List (String × α)) (fields : Fields α) (name : String) :
    (fields.insertAll entries).find? name =
      (entries.reverse.lookup name).or (fields.find? name) := by
  induction entries generalizing fields with
  | nil => rfl
  | cons entry rest ih =>
    have hStep : (fields.insertAll (entry :: rest)).find? name =
        ((fields.insert entry.1 entry.2).insertAll rest).find? name := rfl
    rw [hStep, ih, find?_insert, List.reverse_cons, List.lookup_append, lookup_cons_eq,
      List.lookup_nil, Option.or_assoc]
    by_cases hName : name = entry.1
    · rw [if_pos hName, if_pos hName, Option.some_or]
    · rw [if_neg hName, if_neg hName, Option.none_or]

theorem find?_insertAll {entries : List (String × α)} (h : (entries.map (·.1)).Nodup)
    (fields : Fields α) (name : String) :
    (fields.insertAll entries).find? name = (entries.lookup name).or (fields.find? name) := by
  have hReverse : (entries.reverse.map (·.1)).Nodup := by
    rw [List.map_reverse, List.nodup_reverse]
    exact h
  have hSame : entries.reverse.lookup name = entries.lookup name := Option.ext fun value => by
    rw [lookup_eq_some_iff_mem hReverse, lookup_eq_some_iff_mem h, List.mem_reverse]
  rw [find?_insertAll_reverse, hSame]

theorem mem_insertAll {fields : Fields α} {entries : List (String × α)} {entry : String × α}
    (h : entry ∈ (fields.insertAll entries).toList) : entry ∈ fields.toList ∨ entry ∈ entries := by
  induction entries generalizing fields with
  | nil => exact Or.inl h
  | cons first rest ih =>
    rcases ih h with hMem | hMem
    · rcases mem_insertEntry hMem with rfl | hMem
      · exact Or.inr List.mem_cons_self
      · exact Or.inl hMem
    · exact Or.inr (List.mem_cons_of_mem _ hMem)

/-- **A map is put together again from its entries in any order.** -/
theorem insertAll_perm {fields : Fields α} {entries : List (String × α)}
    (h : entries.Perm fields.toList) : (∅ : Fields α).insertAll entries = fields := by
  have hNodup : (entries.map (·.1)).Nodup := (h.map _).nodup_iff.2 fields.nodup_names
  refine ext_find? fun name => ?_
  rw [find?_insertAll hNodup, find?_empty, Option.or_none]
  refine Option.ext fun value => ?_
  rw [lookup_eq_some_iff_mem hNodup, find?_eq_some_iff, h.mem_iff]

@[simp] theorem ofList_toList (fields : Fields α) : ofList fields.toList = fields :=
  insertAll_perm (.refl _)

theorem toList_ofList_perm {entries : List (String × α)} (h : (entries.map (·.1)).Nodup) :
    (ofList entries).toList.Perm entries := by
  have hNodup : (ofList entries).toList.Nodup := .of_map _ (ofList entries).nodup_names
  refine (List.perm_ext_iff_of_nodup hNodup (.of_map _ h)).2 fun entry => ?_
  have hFind := find?_insertAll h ∅ entry.1
  rw [find?_empty, Option.or_none] at hFind
  rw [← find?_eq_some_iff, ← lookup_eq_some_iff_mem h, ← hFind]
  rfl

theorem mem_names_iff {fields : Fields α} {name : String} :
    name ∈ fields.names ↔ (fields.find? name).isSome = true := by
  rw [names, List.mem_map, Option.isSome_iff_exists]
  simp only [find?_eq_some_iff]
  constructor
  · rintro ⟨entry, hMem, rfl⟩
    exact ⟨entry.2, hMem⟩
  · rintro ⟨value, hMem⟩
    exact ⟨_, hMem, rfl⟩

@[simp] theorem toList_map (f : α → β) (fields : Fields α) :
    (fields.map f).toList = fields.toList.map fun entry => (entry.1, f entry.2) := rfl

theorem map_eq_self {f : α → α} {fields : Fields α}
    (h : ∀ entry ∈ fields.toList, f entry.2 = entry.2) : fields.map f = fields := by
  refine ext_toList ?_
  rw [toList_map]
  conv_rhs => rw [← List.map_id fields.toList]
  exact List.map_congr_left fun entry hMem => Prod.ext rfl (h entry hMem)

end CodeGraph.Fields
