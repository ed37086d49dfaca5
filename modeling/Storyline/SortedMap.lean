-- SUMMARY: Finite maps from names to values, kept as one strictly ascending list of entries.

/-!
# Sorted maps

A `SortedMap` holds each name once, in ascending order, so two maps with the same entries are equal
and walking a map gives its names in order. A `NameSet` is such a map without values.

Main statements: `get?_insert` and `get?_erase` (what an operation does to the lookup of every name),
`NameSet.contains_add` and `NameSet.contains_inter` (what it does to the membership of every name).
-/

namespace Storyline

/-- A finite map from names to values, as the ascending list of its entries. -/
structure SortedMap (α : Type) where
  entries : List (String × α)
  sorted : entries.Pairwise (·.1 < ·.1)
  deriving DecidableEq

namespace SortedMap

variable {α β : Type}

theorem ext {m n : SortedMap α} (h : m.entries = n.entries) : m = n := by
  cases m; cases n; cases h; rfl

/-! ## Insertion -/

/-- The entries with `value` put under `name`, at its place in the order. -/
def insertEntry (name : String) (value : α) : List (String × α) → List (String × α)
  | [] => [(name, value)]
  | (key, old) :: rest =>
    if name < key then (name, value) :: (key, old) :: rest
    else if name = key then (name, value) :: rest
    else (key, old) :: insertEntry name value rest

theorem mem_insertEntry {name : String} {value : α} {entry : String × α}
    {entries : List (String × α)} (h : entry ∈ insertEntry name value entries) :
    entry = (name, value) ∨ entry ∈ entries := by
  induction entries with
  | nil => simpa [insertEntry] using h
  | cons hd tl ih =>
    obtain ⟨key, old⟩ := hd
    rw [insertEntry] at h
    split at h
    · simpa using h
    · split at h <;> grind

theorem sorted_insertEntry (name : String) (value : α) {entries : List (String × α)}
    (h : entries.Pairwise (·.1 < ·.1)) : (insertEntry name value entries).Pairwise (·.1 < ·.1) := by
  induction entries with
  | nil => simp [insertEntry]
  | cons hd tl ih =>
    obtain ⟨key, old⟩ := hd
    obtain ⟨hhd, htl⟩ := List.pairwise_cons.1 h
    rw [insertEntry]
    split
    · rename_i hlt
      exact List.pairwise_cons.2 ⟨fun e he => by
        rcases List.mem_cons.1 he with rfl | he
        · exact hlt
        · exact String.lt_trans hlt (hhd e he), h⟩
    · rename_i hlt
      split
      · rename_i heq
        subst heq
        exact List.pairwise_cons.2 ⟨hhd, htl⟩
      · rename_i hne
        refine List.pairwise_cons.2 ⟨fun e he => ?_, ih htl⟩
        rcases mem_insertEntry he with rfl | he
        · grind
        · exact hhd e he

/-- The map without entries. -/
def empty : SortedMap α :=
  ⟨[], .nil⟩

instance : Inhabited (SortedMap α) := ⟨empty⟩

instance : EmptyCollection (SortedMap α) := ⟨empty⟩

/-- The map with `value` under `name`, in place of any older value. -/
def insert (m : SortedMap α) (name : String) (value : α) : SortedMap α :=
  ⟨insertEntry name value m.entries, sorted_insertEntry name value m.sorted⟩

/-- The map without the entry of `name`. -/
def erase (m : SortedMap α) (name : String) : SortedMap α :=
  ⟨m.entries.filter (·.1 != name), m.sorted.filter _⟩

/-- The map of a list of entries, where the last entry of a name wins. -/
def ofList (entries : List (String × α)) : SortedMap α :=
  entries.foldl (fun m entry => m.insert entry.1 entry.2) empty

/-! ## Lookup -/

/-- The value under `name`. -/
def get? (m : SortedMap α) (name : String) : Option α :=
  m.entries.lookup name

/-- Has the map an entry of this name? -/
def contains (m : SortedMap α) (name : String) : Bool :=
  (m.get? name).isSome

/-- The names, in ascending order. -/
def keys (m : SortedMap α) : List String :=
  m.entries.map (·.1)

/-- The number of entries. -/
def size (m : SortedMap α) : Nat :=
  m.entries.length

/-- Is the map without entries? -/
def isEmpty (m : SortedMap α) : Bool :=
  m.entries.isEmpty

@[simp] theorem get?_empty (name : String) : (empty : SortedMap α).get? name = none := rfl

theorem lookup_cons (name key : String) (value : α) (entries : List (String × α)) :
    ((name, value) :: entries).lookup key = if key = name then some value else entries.lookup key := by
  by_cases h : key = name
  · simp [h]
  · have : (key == name) = false := by simpa using h
    simp [List.lookup_cons, this, h]

theorem lookup_insertEntry (name key : String) (value : α) (entries : List (String × α)) :
    (insertEntry name value entries).lookup key =
      if key = name then some value else entries.lookup key := by
  induction entries with
  | nil => simp [insertEntry, lookup_cons]
  | cons hd tl ih =>
    obtain ⟨k, old⟩ := hd
    rw [insertEntry]
    split
    · simp [lookup_cons]
    · split
      · rename_i heq
        subst heq
        by_cases h : key = name <;> simp [lookup_cons, h]
      · rename_i hne
        by_cases h : key = k
        · subst h
          simp [Ne.symm hne]
        · simp [lookup_cons, ih, h]

theorem get?_insert (m : SortedMap α) (name key : String) (value : α) :
    (m.insert name value).get? key = if key = name then some value else m.get? key :=
  lookup_insertEntry name key value m.entries

theorem lookup_filter_ne (name key : String) (entries : List (String × α)) :
    (entries.filter (·.1 != name)).lookup key =
      if key = name then none else entries.lookup key := by
  induction entries with
  | nil => simp
  | cons hd tl ih =>
    obtain ⟨k, v⟩ := hd
    by_cases hk : k = name
    · have hf : ((k, v) :: tl).filter (·.1 != name) = tl.filter (·.1 != name) := by simp [hk]
      rw [hf, ih, lookup_cons]
      by_cases h : key = name <;> simp [h, hk]
    · by_cases h : key = name
      · subst h
        simp [hk, ih, lookup_cons, Ne.symm hk]
      · simp [hk, h, ih, lookup_cons]

theorem get?_erase (m : SortedMap α) (name key : String) :
    (m.erase name).get? key = if key = name then none else m.get? key :=
  lookup_filter_ne name key m.entries

theorem get?_insert_entries (m : SortedMap α) (entries : List (String × α)) (name : String) :
    (entries.foldl (fun m entry => m.insert entry.1 entry.2) m).get? name =
      (entries.reverse.lookup name).or (m.get? name) := by
  induction entries generalizing m with
  | nil => rfl
  | cons entry rest ih =>
    rw [List.foldl_cons, ih, get?_insert, List.reverse_cons, List.lookup_append, Option.or_assoc,
      lookup_cons]
    split <;> rfl

/-- In a list of entries the last one of a name counts. -/
theorem get?_ofList (entries : List (String × α)) (name : String) :
    (ofList entries).get? name = entries.reverse.lookup name := by
  rw [ofList, get?_insert_entries, get?_empty, Option.or_none]

theorem get?_ofList_append {front behind : List (String × α)} {name : String} {value : α}
    (h : name ∉ behind.map (·.1)) :
    (ofList (front ++ (name, value) :: behind)).get? name = some value := by
  have hbehind : behind.reverse.lookup name = none := by
    rw [List.lookup_eq_none_iff]
    intro entry hentry
    rw [bne_iff_ne]
    rintro rfl
    exact h (List.mem_map_of_mem (List.mem_reverse.1 hentry))
  rw [get?_ofList, List.reverse_append, List.reverse_cons, List.append_assoc, List.lookup_append,
    hbehind, Option.none_or, List.singleton_append, List.lookup_cons_self]

theorem mem_keys {m : SortedMap α} {name : String} :
    name ∈ m.keys ↔ m.contains name = true := by
  simp [keys, contains, get?, List.lookup_isSome_iff]

end SortedMap

/-! ## Sets of names -/

/-- A finite set of names. -/
abbrev NameSet := SortedMap Unit

namespace NameSet

/-- The set with `name` added. -/
def add (s : NameSet) (name : String) : NameSet :=
  s.insert name ()

/-- The set of the names in a list. -/
def ofNames (names : List String) : NameSet :=
  names.foldl add .empty

/-- The names that both sets hold. -/
def inter (s t : NameSet) : NameSet :=
  ⟨s.entries.filter fun entry => t.contains entry.1, s.sorted.filter _⟩

theorem contains_add {s : NameSet} {name key : String} :
    (s.add name).contains key = true ↔ key = name ∨ s.contains key = true := by
  rw [add, SortedMap.contains, SortedMap.get?_insert]
  by_cases h : key = name <;> simp [h, SortedMap.contains]

theorem contains_inter {s t : NameSet} {key : String} :
    (s.inter t).contains key = true ↔ s.contains key = true ∧ t.contains key = true := by
  have hs : s.contains key = true ↔ key ∈ s.keys := SortedMap.mem_keys.symm
  rw [← SortedMap.mem_keys, hs]
  unfold SortedMap.keys inter
  simp only [List.mem_map, List.mem_filter]
  constructor
  · rintro ⟨entry, ⟨hentry, ht⟩, rfl⟩
    exact ⟨⟨entry, hentry, rfl⟩, ht⟩
  · rintro ⟨⟨entry, hentry, rfl⟩, ht⟩
    exact ⟨entry, ⟨hentry, ht⟩, rfl⟩

end NameSet

end Storyline
