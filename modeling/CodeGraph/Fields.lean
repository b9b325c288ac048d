/-! # Named values

A finite map from names to values, kept as the list of its entries in the order of the names. Equal
maps are therefore equal lists, and a map has one written form. A name that is set or taken out
leaves the lookups of the other names as they were.
-/

namespace CodeGraph

structure Fields (α : Type) where
  toList : List (String × α)
  sorted : toList.Pairwise (·.1 < ·.1)

namespace Fields

variable {α β : Type}

instance [DecidableEq α] : DecidableEq (Fields α) := fun a b =>
  if h : a.toList = b.toList then
    .isTrue (by cases a; cases b; cases h; rfl)
  else .isFalse fun he => h (he ▸ rfl)

def empty : Fields α := ⟨[], .nil⟩

instance : Inhabited (Fields α) := ⟨empty⟩

instance : EmptyCollection (Fields α) := ⟨empty⟩

def isEmpty (fields : Fields α) : Bool := fields.toList.isEmpty

theorem eq_empty_of_isEmpty {fields : Fields α} (h : fields.isEmpty = true) : fields = ∅ := by
  obtain ⟨entries, hSorted⟩ := fields
  cases entries with
  | nil => rfl
  | cons entry rest => cases h

def find? (fields : Fields α) (name : String) : Option α := fields.toList.lookup name

def contains (fields : Fields α) (name : String) : Bool := fields.toList.any (·.1 == name)

def size (fields : Fields α) : Nat := fields.toList.length

/-- Puts an entry in its place, over the one that has its name. -/
def insertEntry (name : String) (value : α) : List (String × α) → List (String × α)
  | [] => [(name, value)]
  | entry :: rest =>
    if name < entry.1 then (name, value) :: entry :: rest
    else if name = entry.1 then (name, value) :: rest
    else entry :: insertEntry name value rest

theorem mem_insertEntry {name : String} {value : α} {entries : List (String × α)}
    {entry : String × α} (h : entry ∈ insertEntry name value entries) :
    entry = (name, value) ∨ entry ∈ entries := by
  induction entries with
  | nil => simpa [insertEntry] using h
  | cons first rest ih =>
    unfold insertEntry at h
    split at h
    · simpa using h
    · split at h <;> grind

theorem sorted_insertEntry (name : String) (value : α) {entries : List (String × α)}
    (h : entries.Pairwise (·.1 < ·.1)) : (insertEntry name value entries).Pairwise (·.1 < ·.1) := by
  induction entries with
  | nil => simp [insertEntry]
  | cons first rest ih =>
    have hFirst : ∀ entry ∈ rest, first.1 < entry.1 := fun _ he => List.rel_of_pairwise_cons h he
    unfold insertEntry
    split
    · next hlt =>
      refine .cons (fun entry he => ?_) h
      rcases List.mem_cons.1 he with rfl | he
      · exact hlt
      · exact String.lt_trans hlt (hFirst _ he)
    · next hnot =>
      split
      · next heq => exact .cons (fun entry he => heq ▸ hFirst _ he) h.of_cons
      · next hne =>
        refine .cons (fun entry he => ?_) (ih h.of_cons)
        rcases mem_insertEntry he with rfl | he
        · exact Std.lt_of_le_of_ne hnot (Ne.symm hne)
        · exact hFirst _ he

/-- The map with the name set to the value. -/
def insert (fields : Fields α) (name : String) (value : α) : Fields α :=
  ⟨insertEntry name value fields.toList, sorted_insertEntry name value fields.sorted⟩

/-- The map with the entries set one after the other, so that of one name the last stays. -/
def insertAll (fields : Fields α) (entries : List (String × α)) : Fields α :=
  entries.foldl (fun fields entry => fields.insert entry.1 entry.2) fields

def ofList (entries : List (String × α)) : Fields α := empty.insertAll entries

def erase (fields : Fields α) (name : String) : Fields α :=
  ⟨fields.toList.filter (·.1 != name), fields.sorted.filter _⟩

def map (f : α → β) (fields : Fields α) : Fields β where
  toList := fields.toList.map fun entry => (entry.1, f entry.2)
  sorted := List.pairwise_map.2 fields.sorted

/-! ### Names of entries -/

def names (fields : Fields α) : List String := fields.toList.map (·.1)

theorem nodup_names (fields : Fields α) : fields.names.Nodup :=
  List.pairwise_map.2 (fields.sorted.imp fun h => Std.ne_of_lt h)

theorem lookup_cons_eq (entry : String × α) (rest : List (String × α)) (name : String) :
    (entry :: rest).lookup name = if name = entry.1 then some entry.2 else rest.lookup name := by
  rw [List.lookup_cons]
  by_cases h : name = entry.1
  · simp [h]
  · simp [h, beq_eq_false_iff_ne.2 h]

theorem lookup_eq_some_iff_mem {entries : List (String × α)} (h : (entries.map (·.1)).Nodup)
    {name : String} {value : α} :
    entries.lookup name = some value ↔ (name, value) ∈ entries := by
  induction entries with
  | nil => simp
  | cons entry rest ih =>
    obtain ⟨first, held⟩ := entry
    rw [List.map_cons, List.nodup_cons] at h
    rw [lookup_cons_eq, List.mem_cons, Prod.mk.injEq]
    by_cases hName : name = first
    · have hRest : (name, value) ∉ rest := fun hMem =>
        h.1 (hName ▸ List.mem_map.2 ⟨_, hMem, rfl⟩)
      simp only [hName, if_true, Option.some.injEq, true_and, hName ▸ hRest, or_false]
      exact eq_comm
    · simp only [hName, if_false, ih h.2, false_and, false_or]

theorem find?_eq_some_iff {fields : Fields α} {name : String} {value : α} :
    fields.find? name = some value ↔ (name, value) ∈ fields.toList :=
  lookup_eq_some_iff_mem fields.nodup_names

theorem contains_eq_isSome (fields : Fields α) (name : String) :
    fields.contains name = (fields.find? name).isSome := by
  rw [Bool.eq_iff_iff, find?, List.lookup_isSome_iff, contains, List.any_eq_true]
  simp only [beq_iff_eq, @eq_comm _ name]

/-! ### Lookups after a change -/

@[simp] theorem find?_empty (name : String) : (∅ : Fields α).find? name = none := rfl

theorem lookup_insertEntry (name : String) (value : α) (entries : List (String × α))
    (other : String) : (insertEntry name value entries).lookup other =
      if other = name then some value else entries.lookup other := by
  induction entries with
  | nil => rw [insertEntry, lookup_cons_eq]
  | cons entry rest ih =>
    unfold insertEntry
    split
    · rw [lookup_cons_eq]
    · split
      · next hName =>
        rw [lookup_cons_eq, lookup_cons_eq, hName]
        split <;> rfl
      · next hName =>
        rw [lookup_cons_eq, lookup_cons_eq, ih]
        split
        · next hEntry => rw [if_neg fun h => hName (h.symm.trans hEntry)]
        · rfl

@[simp] theorem find?_insert (fields : Fields α) (name : String) (value : α) (other : String) :
    (fields.insert name value).find? other =
      if other = name then some value else fields.find? other :=
  lookup_insertEntry name value fields.toList other

theorem find?_erase (fields : Fields α) (name other : String) :
    (fields.erase name).find? other = if other = name then none else fields.find? other := by
  by_cases h : other = name
  · rw [if_pos h]
    refine List.lookup_eq_none_iff.2 fun entry hMem => ?_
    have hNe : entry.1 ≠ name := by simpa using (List.mem_filter.1 hMem).2
    simpa [h] using fun h' : name = entry.1 => hNe h'.symm
  · rw [if_neg h]
    refine Option.ext fun value => ?_
    rw [find?_eq_some_iff, find?_eq_some_iff, erase, List.mem_filter]
    simp [h]

theorem find?_foldl_erase (names : List String) (fields : Fields α) (other : String) :
    (names.foldl erase fields).find? other =
      if other ∈ names then none else fields.find? other := by
  induction names generalizing fields with
  | nil => rfl
  | cons name rest ih =>
    rw [List.foldl_cons, ih, find?_erase]
    by_cases hName : other = name
    · simp [hName]
    · simp [hName]

end Fields

end CodeGraph
