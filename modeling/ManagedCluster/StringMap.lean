/-! # Maps from texts to texts

Labels and properties are maps whose entries are kept in key order, so that two maps with the same
entries are equal and every listing of a map has one order.
-/

namespace ManagedCluster

def KeysIncrease (entries : List (String × String)) : Prop :=
  entries.Pairwise fun a b => a.1 < b.1

instance (entries : List (String × String)) : Decidable (KeysIncrease entries) :=
  inferInstanceAs (Decidable (List.Pairwise _ _))

/-- A map from texts to texts. -/
structure StringMap where
  /-- The entries in key order. -/
  entries : List (String × String)
  increasing : KeysIncrease entries
  deriving DecidableEq

namespace StringMap

instance : Repr StringMap where
  reprPrec map precedence := reprPrec map.entries precedence

/-- The map without entries. -/
def empty : StringMap := ⟨[], List.Pairwise.nil⟩

instance : Inhabited StringMap := ⟨empty⟩

def isEmpty (map : StringMap) : Bool := map.entries.isEmpty

/-- Put an entry in its place and drop an older one with the same key. -/
def insertEntry (key value : String) : List (String × String) → List (String × String)
  | [] => [(key, value)]
  | (k, v) :: rest =>
    if key < k then (key, value) :: (k, v) :: rest
    else if key = k then (key, value) :: rest
    else (k, v) :: insertEntry key value rest

theorem mem_insertEntry {key value : String} {entry : String × String}
    {entries : List (String × String)} (h : entry ∈ insertEntry key value entries) :
    entry = (key, value) ∨ entry ∈ entries := by
  induction entries with
  | nil => simpa [insertEntry] using h
  | cons head rest ih =>
    obtain ⟨k, v⟩ := head
    rw [insertEntry] at h
    split at h
    · simpa using h
    · split at h
      · rcases List.mem_cons.1 h with rfl | h
        · exact .inl rfl
        · exact .inr (List.mem_cons_of_mem _ h)
      · rcases List.mem_cons.1 h with rfl | h
        · exact .inr List.mem_cons_self
        · exact (ih h).imp_right (List.mem_cons_of_mem _)

theorem keysIncrease_insertEntry (key value : String) {entries : List (String × String)}
    (h : KeysIncrease entries) : KeysIncrease (insertEntry key value entries) := by
  induction entries with
  | nil => simp [insertEntry, KeysIncrease]
  | cons head rest ih =>
    obtain ⟨k, v⟩ := head
    have later : ∀ entry ∈ rest, k < entry.1 := (List.pairwise_cons.1 h).1
    have tail : KeysIncrease rest := (List.pairwise_cons.1 h).2
    rw [insertEntry]
    split
    · next below =>
      exact List.pairwise_cons.2 ⟨fun entry mem => by
        rcases List.mem_cons.1 mem with rfl | mem
        · exact below
        · exact String.lt_trans below (later entry mem), h⟩
    · next notBelow =>
      split
      · next same =>
        subst same
        exact List.pairwise_cons.2 ⟨later, tail⟩
      · next different =>
        refine List.pairwise_cons.2 ⟨fun entry mem => ?_, ih tail⟩
        rcases mem_insertEntry mem with rfl | mem
        · exact Std.lt_of_le_of_ne (String.not_lt.1 notBelow) (Ne.symm different)
        · exact later entry mem

/-- The map with one entry put in; an older entry with the same key is lost. -/
def insert (map : StringMap) (key value : String) : StringMap :=
  ⟨insertEntry key value map.entries, keysIncrease_insertEntry key value map.increasing⟩

/-- The map of the entries, the last of those with the same key. -/
def ofList (entries : List (String × String)) : StringMap :=
  entries.foldl (fun map entry => map.insert entry.1 entry.2) empty

/-- The entries whose keys pass the test. -/
def filterKeys (keep : String → Bool) (map : StringMap) : StringMap :=
  ⟨map.entries.filter fun entry => keep entry.1, map.increasing.filter _⟩

@[ext] theorem ext {a b : StringMap} (h : a.entries = b.entries) : a = b := by
  cases a
  cases b
  cases h
  rfl

@[simp] theorem entries_empty : empty.entries = [] := rfl

@[simp] theorem entries_filterKeys (keep : String → Bool) (map : StringMap) :
    (map.filterKeys keep).entries = map.entries.filter fun entry => keep entry.1 := rfl

theorem isEmpty_iff {map : StringMap} : map.isEmpty = true ↔ map = empty := by
  constructor
  · intro h
    exact ext (List.isEmpty_iff.1 h)
  · rintro rfl
    rfl

end StringMap

end ManagedCluster
