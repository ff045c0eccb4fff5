import ManagedCluster.Proofs.Document.Entries

/-! # Maps put together

All entries of one map are put into another, and entries are taken out by their keys. Both keep the
order of the entries, so what is left does not depend on which is done first.
-/

namespace ManagedCluster

namespace StringMap

/-- The map with all entries of another one put in. -/
def insertAll (map added : StringMap) : StringMap :=
  added.entries.foldl (fun map entry => map.insert entry.1 entry.2) map

variable {key value : String} {entries : List (String × String)}

theorem insertEntry_of_below (below : ∀ entry ∈ entries, key < entry.1) :
    insertEntry key value entries = (key, value) :: entries := by
  cases entries with
  | nil => rfl
  | cons first rest => exact if_pos (below first List.mem_cons_self)

theorem filter_insertEntry (keep : String → Bool) (increasing : KeysIncrease entries) :
    (insertEntry key value entries).filter (fun entry => keep entry.1) =
      if keep key then insertEntry key value (entries.filter fun entry => keep entry.1)
      else entries.filter fun entry => keep entry.1 := by
  induction entries with
  | nil => simp [insertEntry, List.filter_cons]
  | cons first rest ih =>
      obtain ⟨k, v⟩ := first
      obtain ⟨later, restIncreasing⟩ := List.pairwise_cons.mp increasing
      by_cases below : key < k
      · have allBelow : ∀ entry ∈ ((k, v) :: rest).filter fun entry => keep entry.1,
            key < entry.1 := by
          intro entry member
          rcases List.mem_cons.mp (List.mem_filter.mp member).1 with rfl | inRest
          · exact below
          · exact String.lt_trans below (later entry inRest)
        rw [insertEntry, if_pos below, insertEntry_of_below allBelow, List.filter_cons]
      · by_cases same : key = k
        · subst same
          rw [insertEntry, if_neg below, if_pos rfl]
          cases kept : keep key <;> simp [kept, insertEntry]
        · rw [insertEntry, if_neg below, if_neg same, List.filter_cons, ih restIncreasing,
            List.filter_cons]
          cases keep k <;> cases keep key <;> simp [insertEntry, below, same]

theorem filterKeys_insert (keep : String → Bool) (map : StringMap) (key value : String) :
    (map.insert key value).filterKeys keep =
      if keep key then (map.filterKeys keep).insert key value else map.filterKeys keep := by
  ext1
  rw [entries_filterKeys, insert, filter_insertEntry keep map.increasing]
  split <;> rfl

theorem filterKeys_foldl_insert (keep : String → Bool) (map : StringMap)
    (added : List (String × String)) :
    (added.foldl (fun map entry => map.insert entry.1 entry.2) map).filterKeys keep =
      (added.filter fun entry => keep entry.1).foldl
        (fun map entry => map.insert entry.1 entry.2) (map.filterKeys keep) := by
  induction added generalizing map with
  | nil => rfl
  | cons first rest ih =>
      rw [List.foldl_cons, ih, filterKeys_insert, List.filter_cons]
      split <;> rfl

theorem filterKeys_insertAll (keep : String → Bool) (map added : StringMap) :
    (map.insertAll added).filterKeys keep =
      (map.filterKeys keep).insertAll (added.filterKeys keep) :=
  filterKeys_foldl_insert keep map added.entries

@[simp] theorem insertAll_empty_left (added : StringMap) : empty.insertAll added = added := by
  ext1
  rw [insertAll, entries_foldl_insert_eq]
  exact Json.foldl_putEntry_of_increasing added.increasing

theorem filterKeys_filterKeys (keep also : String → Bool) (map : StringMap) :
    (map.filterKeys keep).filterKeys also = map.filterKeys fun key => also key && keep key := by
  ext1
  simp only [entries_filterKeys, List.filter_filter]

theorem filterKeys_false (map : StringMap) : map.filterKeys (fun _ => false) = empty := by
  ext1
  simp

/-- Entries that replace all entries of their kind are the only ones of that kind then. -/
theorem filterKeys_not_insertAll (keep : String → Bool) (map added : StringMap) :
    ((map.filterKeys keep).insertAll added).filterKeys (!keep ·) = added.filterKeys (!keep ·) := by
  rw [filterKeys_insertAll, filterKeys_filterKeys]
  simp only [Bool.not_and_self, filterKeys_false, insertAll_empty_left]

end StringMap

end ManagedCluster
