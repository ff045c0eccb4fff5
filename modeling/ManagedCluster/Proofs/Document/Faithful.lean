import Mathlib.Data.List.Pairwise
import ManagedCluster.Proofs.Document.Shown

/-! # Codecs that read back what they write

A codec is faithful if it reads a value from every node that shows what it writes for the value. A
record is put together from its fields in whatever order they come, so its codec is faithful if each
field restores its part of the record, different fields restore different parts, and all of them
make up the record.
-/

namespace ManagedCluster

/-- A document with typed leaves, in whose maps no text is the key of two entries. -/
inductive Keyed : Document → Prop
  | scalar {value : Scalar} (typed : ShowsScalar value value) : Keyed (.scalar value)
  | list {items : List Document} (each : ∀ item ∈ items, Keyed item) : Keyed (.list items)
  | object {entries : List (String × Document)} (distinct : (entries.map (·.1)).Nodup)
      (each : ∀ entry ∈ entries, Keyed entry.2) : Keyed (.object entries)

namespace Json

theorem ofItems_eq (items : List Document) : ofItems items = items.map ofDocument := by
  induction items with
  | nil => rfl
  | cons item rest ih => rw [ofItems, ih, List.map_cons]

theorem ofEntries_eq (entries before : List (String × Document)) :
    ofEntries before (entries.map fun (key, value) => (.text key, value)) =
      (entries.map fun entry => (entry.1, ofDocument entry.2)).foldl
        (fun entries entry => putEntry entry.1 entry.2 entries) before := by
  induction entries generalizing before with
  | nil => rfl
  | cons entry rest ih =>
      rw [List.map_cons, ofEntries, ih, List.map_cons, List.foldl_cons]
      rfl

theorem ofDocument_object (entries : List (String × Document)) :
    ofDocument (.object entries) =
      .object ((entries.map fun entry => (entry.1, ofDocument entry.2)).foldl
        (fun entries entry => putEntry entry.1 entry.2 entries) []) := by
  rw [← ofEntries_eq, Document.object, ofDocument]

theorem ofDocument_entry (key : String) (value : Document) :
    ofDocument (.object [(key, value)]) = .object [(key, ofDocument value)] := rfl

theorem ofDocument_increasing {key other : String} (value given : Document) (below : key < other) :
    ofDocument (.object [(key, value), (other, given)]) =
      .object [(key, ofDocument value), (other, ofDocument given)] := by
  simp only [ofDocument_object, List.map_cons, List.map_nil, List.foldl_cons, List.foldl_nil,
    putEntry, if_neg (String.lt_asymm below), if_neg (String.ne_of_lt below).symm]

theorem ofDocument_decreasing {key other : String} (value given : Document) (below : other < key) :
    ofDocument (.object [(key, value), (other, given)]) =
      .object [(other, ofDocument given), (key, ofDocument value)] := by
  simp only [ofDocument_object, List.map_cons, List.map_nil, List.foldl_cons, List.foldl_nil,
    putEntry, if_pos below]

/-- The JSON value of a document shows it. -/
theorem shows_ofDocument {document : Document} (keyed : Keyed document) :
    Shows (ofDocument document) document := by
  induction keyed with
  | scalar typed =>
      cases typed with
      | bool value => exact .scalar (.bool value)
      | int value => exact .scalar (.int value)
      | text value => exact .scalar (.text value)
  | @list items _ ih =>
      rw [ofDocument, ofItems_eq]
      refine .list ?_
      rw [List.forall₂_map_left_iff]
      exact List.forall₂_same.mpr ih
  | @object entries distinct _ ih =>
      have sorted : (ofEntries [] (entries.map fun (key, value) => (.text key, value))).Perm
          (entries.map fun entry => (entry.1, ofDocument entry.2)) := by
        rw [ofEntries_eq]
        refine foldl_putEntry_perm ?_
        simpa [Function.comp_def] using distinct
      unfold Document.object ofDocument
      refine .map (sorted.map _) ?_ ?_
      · simp only [List.map_map, List.forall₂_map_left_iff, List.forall₂_map_right_iff]
        exact List.forall₂_same.mpr fun entry _ => .scalar (.text entry.1)
      · simp only [List.map_map, List.forall₂_map_left_iff, List.forall₂_map_right_iff]
        exact List.forall₂_same.mpr ih

end Json

/-- A map of texts is a JSON value as it is written. -/
theorem Json.ofDocument_stringMap (map : StringMap) :
    ofDocument (Codec.stringMap.write map) = Codec.stringMap.write map := by
  have increasing : (map.entries.map fun entry => (entry.1, Document.text entry.2)).Pairwise
      fun a b => a.1 < b.1 := List.pairwise_map.mpr map.increasing
  simp only [Codec.stringMap, ofDocument_object, List.map_map]
  exact congrArg Document.object (foldl_putEntry_of_increasing increasing)

/-- The codec reads back what it writes. -/
structure Codec.Faithful {α : Type} (codec : Codec α) : Prop where
  keyed : ∀ value, Keyed (codec.write value)
  reads : ∀ {value : α} {reading : Reading} {node : Document}, Shows node (codec.write value) →
    codec.read reading node = pure value

namespace Codec

theorem text_faithful : text.Faithful where
  keyed value := .scalar (.text value)
  reads shows := Decoder.text_of_shows shows

theorem bool_faithful : bool.Faithful where
  keyed value := .scalar (.bool value)
  reads shows := Decoder.bool_of_shows shows

theorem word32_faithful : word32.Faithful where
  keyed value := .scalar (.int value.toNat)
  reads {value reading node} shows := by
    have below : value.toNat < UInt32.size := value.toNat_lt
    have small : value.toNat < UInt64.size := Nat.lt_trans below (by decide)
    have number : Decoder.natBelow UInt32.size "u32" reading node = pure value.toNat :=
      Decoder.natBelow_of_shows shows below small
    simp only [word32, number, map_pure, UInt32.ofNat_toNat]

theorem word64_faithful : word64.Faithful where
  keyed value := .scalar (.int value.toNat)
  reads {value reading node} shows := by
    have small : value.toNat < UInt64.size := value.toNat_lt
    have number : Decoder.natBelow UInt64.size "u64" reading node = pure value.toNat :=
      Decoder.natBelow_of_shows shows small small
    simp only [word64, number, map_pure, UInt64.ofNat_toNat]

theorem int32_faithful : int32.Faithful where
  keyed value := .scalar (.int value.toInt)
  reads {value reading node} shows := by
    have inside : -Int.pow 2 31 ≤ value.toInt ∧ value.toInt < Int.pow 2 31 :=
      ⟨value.le_toInt, value.toInt_lt⟩
    have small : value.toInt < UInt64.size := Int.lt_trans inside.2 (by decide)
    have number : Decoder.intBetween (-Int.pow 2 31) (Int.pow 2 31) "i32" reading node =
        pure value.toInt := Decoder.intBetween_of_shows shows inside small
    simp only [int32, number, map_pure, Int32.ofInt_toInt]

theorem list_faithful {α : Type} {item : Codec α} (faithful : item.Faithful) :
    (list item).Faithful where
  keyed values := by
    refine .list ?_
    intro document member
    obtain ⟨value, -, rfl⟩ := List.mem_map.mp member
    exact faithful.keyed value
  reads shows := Decoder.list_of_shows faithful.reads shows

theorem stringMap_faithful : stringMap.Faithful where
  keyed map := by
    refine .object ?_ ?_
    · simpa [Function.comp_def] using map.nodup_keys
    · intro entry member
      obtain ⟨_, -, rfl⟩ := List.mem_map.mp member
      exact .scalar (.text _)
  reads {map reading node} shows := by
    simp only [stringMap, Document.object, List.map_map] at shows
    exact Decoder.stringMap_of_shows shows

/-- What a faithful codec writes is read back from a JSON value. -/
theorem Faithful.decode_json {α : Type} {codec : Codec α} (faithful : codec.Faithful) (value : α) :
    codec.decode .json (Json.ofDocument (codec.write value)) = .ok value := by
  unfold decode
  rw [faithful.reads (Json.shows_ofDocument (faithful.keyed value))]
  rfl

end Codec

end ManagedCluster
