-- SUMMARY: A sorted map holds the entries that it was made from.
import Mathlib.Data.List.Induction
import Mathlib.Data.List.Nodup
import Storyline.SortedMap

/-!
# Entries

A map that is made from entries of different names holds just these, in ascending order. So a map is made again
from its own entries.
-/

namespace Storyline.SortedMap

variable {α β : Type} {name : String} {value : α} {entries : List (String × α)}

theorem mem_of_get? {m : SortedMap α} (h : m.get? name = some value) : (name, value) ∈ m.entries := by
  obtain ⟨front, behind, hsplit, -⟩ := List.lookup_eq_some_iff.1 h
  rw [hsplit]
  exact List.mem_append_right _ List.mem_cons_self

theorem perm_insertEntry (h : name ∉ entries.map (·.1)) :
    (insertEntry name value entries).Perm ((name, value) :: entries) := by
  induction entries with
  | nil => exact .refl _
  | cons entry rest ih =>
    rw [List.map_cons, List.mem_cons, not_or] at h
    rw [insertEntry]
    split
    · exact .refl _
    · rw [if_neg h.1]
      exact ((ih h.2).cons entry).trans (.swap _ _ rest)

/-- If each name has one entry, the map holds the entries that it is made from. -/
theorem perm_ofList (h : (entries.map (·.1)).Nodup) : (ofList entries).entries.Perm entries := by
  induction entries using List.reverseRecOn with
  | nil => exact .refl _
  | append_singleton front entry ih =>
    rw [List.map_append, List.nodup_append] at h
    obtain ⟨hfront, -, hdisjoint⟩ := h
    have hperm := ih hfront
    have hnew : entry.1 ∉ (ofList front).entries.map (·.1) := by
      intro hmem
      exact hdisjoint _ ((hperm.map _).mem_iff.1 hmem) _ List.mem_cons_self rfl
    rw [ofList, List.foldl_concat]
    exact ((perm_insertEntry hnew).trans (hperm.cons entry)).trans (List.perm_append_singleton entry front).symm

theorem nodup_keys_of_sorted (h : entries.Pairwise (·.1 < ·.1)) : (entries.map (·.1)).Nodup := by
  rw [List.Nodup, List.pairwise_map]
  apply h.imp
  intro first second hlt heq
  rw [heq] at hlt
  exact String.lt_irrefl _ hlt

theorem entries_ofList (h : entries.Pairwise (·.1 < ·.1)) : (ofList entries).entries = entries := by
  refine (perm_ofList (nodup_keys_of_sorted h)).eq_of_pairwise ?_ (ofList entries).sorted h
  intro first second _ _ hlt hgt
  exact absurd (String.lt_trans hlt hgt) (String.lt_irrefl _)

/-- A map is made again from its entries. -/
theorem ofList_entries (m : SortedMap α) : ofList m.entries = m :=
  ext (entries_ofList m.sorted)

/-- The map with every value changed, with a look at its name. -/
def mapEntries (f : String → α → β) (m : SortedMap α) : SortedMap β where
  entries := m.entries.map fun entry => (entry.1, f entry.1 entry.2)
  sorted := List.pairwise_map.2 m.sorted

end Storyline.SortedMap
