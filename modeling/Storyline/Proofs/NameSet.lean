-- SUMMARY: A set of names is known by its members.
import Storyline.Proofs.SortedMap

/-!
# Sets of names

A set of names keeps them in ascending order, so sets with the same members are the same set. A set is
therefore the set of its members in a list.
-/

namespace Storyline.NameSet

variable {s t : NameSet} {key : String} {names : List String}

theorem ext_keys (h : s.keys = t.keys) : s = t := by
  apply SortedMap.ext
  have hentries (set : NameSet) : set.entries = set.keys.map (·, ()) := by
    rw [SortedMap.keys, List.map_map]
    exact (List.map_id _).symm
  rw [hentries s, hentries t, h]

theorem sorted_keys (s : NameSet) : s.keys.Pairwise (· < ·) :=
  List.pairwise_map.2 s.sorted

theorem nodup_of_sorted (h : names.Pairwise (· < ·)) : names.Nodup := by
  apply h.imp
  rintro first second hlt rfl
  exact String.lt_irrefl first hlt

theorem nodup_keys (s : NameSet) : s.keys.Nodup :=
  nodup_of_sorted s.sorted_keys

/-- Names in ascending order are known by their members. -/
theorem eq_of_sorted {other : List String} (h : names.Pairwise (· < ·)) (hother : other.Pairwise (· < ·))
    (hmem : ∀ name, name ∈ names ↔ name ∈ other) : names = other := by
  have hperm : names.Perm other :=
    (List.perm_ext_iff_of_nodup (nodup_of_sorted h) (nodup_of_sorted hother)).2 hmem
  refine hperm.eq_of_pairwise ?_ h hother
  intro first second _ _ hlt hgt
  exact absurd (String.lt_trans hlt hgt) (String.lt_irrefl first)

/-- Sets with the same members are the same. -/
theorem ext_contains (h : ∀ key, s.contains key = true ↔ t.contains key = true) : s = t := by
  apply ext_keys
  apply eq_of_sorted s.sorted_keys t.sorted_keys
  intro key
  rw [SortedMap.mem_keys, SortedMap.mem_keys, h]

theorem contains_foldl_add (names : List String) (s : NameSet) :
    (names.foldl add s).contains key = true ↔ key ∈ names ∨ s.contains key = true := by
  induction names generalizing s with
  | nil => simp
  | cons name rest ih => rw [List.foldl_cons, ih, contains_add, List.mem_cons, or_left_comm, or_assoc]

theorem contains_ofNames : (ofNames names).contains key = true ↔ key ∈ names := by
  rw [ofNames, contains_foldl_add, or_iff_left]
  exact Bool.false_ne_true

theorem ofNames_keys (s : NameSet) : ofNames s.keys = s := by
  apply ext_contains
  intro key
  rw [contains_ofNames, SortedMap.mem_keys]

/-- The names of a set that are in a list make up the set of the list, if that has no others. -/
theorem filter_keys (h : ∀ name ∈ names, s.contains name = true) :
    s.keys.filter (names.contains ·) = (ofNames names).keys := by
  apply eq_of_sorted (s.sorted_keys.filter _) (sorted_keys _)
  intro name
  rw [List.mem_filter, List.contains_iff_mem, SortedMap.mem_keys, SortedMap.mem_keys, contains_ofNames]
  exact and_iff_right_of_imp (h name)

end Storyline.NameSet
