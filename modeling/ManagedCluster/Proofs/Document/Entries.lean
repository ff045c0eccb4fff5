import Mathlib.Data.List.Perm.Basic
import ManagedCluster.Document.Json
import ManagedCluster.StringMap

/-! # Entries in any order

Entries with different keys can be put into a map in any order. The map is the same in the end.
-/

namespace ManagedCluster

/-- A rearranged image is the image of a rearranged list. -/
theorem exists_perm_of_perm_map {α β : Type} {f : α → β} {image : List β} {l : List α}
    (order : image.Perm (l.map f)) :
    ∃ arranged : List α, arranged.Perm l ∧ image = arranged.map f := by
  induction l generalizing image with
  | nil => exact ⟨[], .refl _, List.perm_nil.mp order⟩
  | cons first rest ih =>
      obtain ⟨before, after, rfl⟩ := List.append_of_mem (order.mem_iff.mpr List.mem_cons_self)
      obtain ⟨arranged, same, split⟩ := ih (List.perm_middle.symm.trans order).cons_inv
      obtain ⟨front, back, rfl, rfl, rfl⟩ := List.append_eq_map_iff.mp split
      exact ⟨front ++ first :: back, List.perm_middle.trans (same.cons first), by simp⟩

namespace Json

variable {α : Type} {key : String} {value : α} {entries before : List (String × α)}

/-- An entry with a new key is only added. -/
theorem putEntry_perm (new : key ∉ entries.map (·.1)) :
    (putEntry key value entries).Perm ((key, value) :: entries) := by
  induction entries with
  | nil => exact .refl _
  | cons first rest ih =>
      obtain ⟨k, v⟩ := first
      rw [List.map_cons, List.mem_cons, not_or] at new
      obtain ⟨different, new⟩ := new
      rw [putEntry]
      split
      · exact .refl _
      · exact ((ih new).cons (k, v)).trans (.swap _ _ _)

/-- Entries that have different keys are only added, in some order. -/
theorem foldl_putEntry_perm (distinct : (before.map (·.1) ++ entries.map (·.1)).Nodup) :
    (entries.foldl (fun entries entry => putEntry entry.1 entry.2 entries) before).Perm
      (before ++ entries) := by
  induction entries generalizing before with
  | nil => simp
  | cons first rest ih =>
      obtain ⟨key, value⟩ := first
      have new : key ∉ before.map (·.1) := by
        intro member
        exact (List.nodup_append.mp distinct).2.2 key member key (by simp) rfl
      have added : (putEntry key value before).Perm ((key, value) :: before) := putEntry_perm new
      have moved : (before ++ (key, value) :: rest).Perm ((key, value) :: before ++ rest) :=
        List.perm_middle
      have same : ((putEntry key value before).map (·.1) ++ rest.map (·.1)).Perm
          (before.map (·.1) ++ ((key, value) :: rest).map (·.1)) := by
        rw [← List.map_append, ← List.map_append]
        exact ((added.append_right rest).trans moved.symm).map _
      rw [List.foldl_cons]
      exact (ih (same.nodup_iff.mpr distinct)).trans ((added.append_right rest).trans moved.symm)

theorem putEntry_of_above (above : ∀ entry ∈ entries, entry.1 < key) :
    putEntry key value entries = entries ++ [(key, value)] := by
  induction entries with
  | nil => rfl
  | cons first rest ih =>
      have later : first.1 < key := above first List.mem_cons_self
      have notBelow : ¬ key < first.1 := String.lt_asymm later
      have different : key ≠ first.1 := fun same => String.lt_irrefl key (same ▸ later)
      rw [putEntry, if_neg notBelow, if_neg different,
        ih fun entry member => above entry (List.mem_cons_of_mem _ member), List.cons_append]

/-- Entries in key order are kept as they are. -/
theorem foldl_putEntry_of_increasing
    (increasing : (before ++ entries).Pairwise fun a b => a.1 < b.1) :
    entries.foldl (fun entries entry => putEntry entry.1 entry.2 entries) before =
      before ++ entries := by
  induction entries generalizing before with
  | nil => rw [List.foldl_nil, List.append_nil]
  | cons first rest ih =>
      -- the first entry comes after all that are there, so it is put at their end
      have above : ∀ entry ∈ before, entry.1 < first.1 := fun entry member =>
        (List.pairwise_append.mp increasing).2.2 entry member first List.mem_cons_self
      rw [List.append_cons] at increasing
      rw [List.foldl_cons, putEntry_of_above above, ih increasing, List.append_assoc,
        List.singleton_append]

end Json

namespace StringMap

variable {key value : String} {entries : List (String × String)}

theorem insertEntry_eq_putEntry :
    insertEntry key value entries = Json.putEntry key value entries := by
  induction entries with
  | nil => rfl
  | cons first rest ih =>
      obtain ⟨k, v⟩ := first
      rw [insertEntry, Json.putEntry, ih]

theorem entries_foldl_insert_eq (map : StringMap) :
    (entries.foldl (fun map entry => map.insert entry.1 entry.2) map).entries =
      entries.foldl (fun entries entry => Json.putEntry entry.1 entry.2 entries) map.entries := by
  induction entries generalizing map with
  | nil => rfl
  | cons first rest ih =>
      have put : (map.insert first.1 first.2).entries =
          Json.putEntry first.1 first.2 map.entries := insertEntry_eq_putEntry
      rw [List.foldl_cons, ih, put, List.foldl_cons]

theorem nodup_keys (map : StringMap) : (map.entries.map (·.1)).Nodup := by
  rw [List.Nodup, List.pairwise_map]
  apply map.increasing.imp
  intro a b below same
  rw [same] at below
  exact String.lt_irrefl _ below

/-- A map is made of its entries in any order. -/
theorem ofList_of_perm {map : StringMap} (order : entries.Perm map.entries) :
    ofList entries = map := by
  ext1
  have distinct : (entries.map (·.1)).Nodup := (order.map _).nodup_iff.mpr map.nodup_keys
  have added : (ofList entries).entries.Perm map.entries := by
    rw [ofList, entries_foldl_insert_eq]
    exact (Json.foldl_putEntry_perm (by simpa using distinct)).trans order
  exact added.eq_of_pairwise
    (fun a b _ _ below above => absurd below (String.lt_asymm above))
    (ofList entries).increasing map.increasing

end StringMap

end ManagedCluster
