import Mathlib.Data.List.Forall2
import ManagedCluster.Document.Record

/-! # Reading trees

A document without references is a tree. What is read from a node of a tree depends on the node and
the dialect alone: elsewhere in a document it is read as the same value, or fails just as well.
-/

namespace ManagedCluster

namespace Document

mutual

/-- There are no references in the document. -/
def isTree : Document → Bool
  | scalar _ => true
  | reference _ => false
  | tagged _ collection => isTree collection
  | list items => itemsAreTrees items
  | map entries => entriesAreTrees entries

def itemsAreTrees : List Document → Bool
  | [] => true
  | item :: rest => isTree item && itemsAreTrees rest

def entriesAreTrees : List (Document × Document) → Bool
  | [] => true
  | (key, value) :: rest => isTree key && isTree value && entriesAreTrees rest

end

@[simp] theorem isTree_scalar (value : Scalar) : (scalar value).isTree = true := rfl

@[simp] theorem isTree_list_iff {items : List Document} :
    (list items).isTree = true ↔ ∀ item ∈ items, item.isTree = true := by
  rw [isTree]
  induction items with
  | nil => simp [itemsAreTrees]
  | cons item rest ih => simp [itemsAreTrees, ih]

@[simp] theorem isTree_map_iff {entries : List (Document × Document)} :
    (map entries).isTree = true ↔
      ∀ entry ∈ entries, entry.1.isTree = true ∧ entry.2.isTree = true := by
  rw [isTree]
  induction entries with
  | nil => simp [entriesAreTrees]
  | cons entry rest ih => simp [entriesAreTrees, ih]

theorem isTree_untagged {document : Document} (tree : document.isTree = true) :
    document.untagged.isTree = true := by
  cases document with
  | tagged tag collection => exact tree
  | scalar | list | map | reference => exact tree

/-- The node stands for itself, and not for one that it refers to. -/
def IsDirect (node : Document) : Prop :=
  ∀ reading : Reading, reading.follow node = pure node

theorem isDirect_of_untagged {node : Document}
    (direct : ∀ anchor, node.untagged ≠ .reference anchor) : node.IsDirect := by
  intro reading
  cases node with
  | reference anchor => exact absurd rfl (direct anchor)
  | scalar | list | map | tagged => rfl

end Document

namespace Decoding

variable {α : Type} {value other : α} {error : DecodeError}

theorem eq_of_pure_eq_pure (same : (pure value : Decoding α) = pure other) : value = other := by
  have run := congrFun same 0
  injection run with pair
  exact congrArg Prod.fst pair

theorem exists_of_map_eq_pure {β : Type} {f : α → β} {read : Decoding α} {made : β}
    (same : f <$> read = pure made) : ∃ value, f value = made := by
  have run := congrFun same 0
  rw [map_eq_pure_bind] at run
  change (read 0 >>= fun pair => Except.ok (f pair.1, pair.2)) = .ok (made, 0) at run
  cases first : read 0 with
  | error error =>
      rw [first] at run
      cases run
  | ok pair =>
      rw [first] at run
      injection run with pair
      exact ⟨_, congrArg Prod.fst pair⟩

theorem pure_ne_throw : (pure value : Decoding α) ≠ throw error := by
  intro same
  have run := congrFun same 0
  cases run

end Decoding

/-- Both come to values that are related, or both fail. -/
inductive Alike {α β : Type} (related : α → β → Prop) : Decoding α → Decoding β → Prop
  | values {value : α} {other : β} (same : related value other) :
      Alike related (pure value) (pure other)
  | errors (error other : DecodeError) : Alike related (throw error) (throw other)

namespace Alike

variable {α β γ δ : Type} {related : α → β → Prop} {also : γ → δ → Prop}

theorem bind {first : Decoding α} {second : Decoding β} {next : α → Decoding γ}
    {after : β → Decoding δ} (alike : Alike related first second)
    (rest : ∀ value other, related value other → Alike also (next value) (after other)) :
    Alike also (first >>= next) (second >>= after) := by
  cases alike with
  | values same =>
      rw [pure_bind, pure_bind]
      exact rest _ _ same
  | errors error other => exact .errors error other

/-- What is done with equal values is the same on both sides. -/
theorem bind_eq {first second : Decoding α} {next after : α → Decoding β}
    {same : β → β → Prop} (alike : Alike Eq first second)
    (rest : ∀ value, Alike same (next value) (after value)) :
    Alike same (first >>= next) (second >>= after) := by
  refine alike.bind ?_
  rintro value _ rfl
  exact rest value

theorem map_eq {first second : Decoding α} (alike : Alike Eq first second) (f : α → β) :
    Alike Eq (f <$> first) (f <$> second) := by
  rw [map_eq_pure_bind, map_eq_pure_bind]
  exact alike.bind_eq fun value => .values rfl

theorem symm {first second : Decoding α} (alike : Alike Eq first second) :
    Alike Eq second first := by
  cases alike with
  | values same => exact .values same.symm
  | errors error other => exact .errors other error

/-- What holds of each value that the first comes to holds of the values. -/
theorem with_property {first second : Decoding α} (alike : Alike Eq first second)
    {holds : α → Prop} (each : ∀ value, first = pure value → holds value) :
    Alike (fun value other => value = other ∧ holds value) first second := by
  cases alike with
  | values same => exact .values ⟨same, each _ rfl⟩
  | errors error other => exact .errors error other

theorem exists_of_pure {value : α} {second : Decoding β}
    (alike : Alike related (pure value) second) :
    ∃ other, second = pure other ∧ related value other := by
  generalize given : (pure value : Decoding α) = first at alike
  cases alike with
  | values same =>
      obtain rfl := Decoding.eq_of_pure_eq_pure given
      exact ⟨_, rfl, same⟩
  | errors error other => exact absurd given Decoding.pure_ne_throw

theorem exists_of_throw {error : DecodeError} {second : Decoding β}
    (alike : Alike related (throw error : Decoding α) second) :
    ∃ other, second = throw other := by
  generalize given : (throw error : Decoding α) = first at alike
  cases alike with
  | values same => exact absurd given.symm Decoding.pure_ne_throw
  | errors error other => exact ⟨other, rfl⟩

theorem trans {first second third : Decoding α} (alike : Alike Eq first second)
    (more : Alike Eq second third) : Alike Eq first third := by
  cases alike with
  | values same =>
      obtain ⟨last, rfl, next⟩ := more.exists_of_pure
      exact .values (same.trans next)
  | errors error other =>
      obtain ⟨last, rfl⟩ := more.exists_of_throw
      exact .errors error last

/-- The values that are come to are the same, however many references may be followed. -/
theorem run'_iff {first second : Decoding α} (alike : Alike Eq first second) (left more : Nat)
    (value : α) : first.run' left = .ok value ↔ second.run' more = .ok value := by
  cases alike with
  | values same =>
      subst same
      exact Iff.rfl
  | errors error other => exact ⟨nofun, nofun⟩

end Alike

namespace Decoder

variable {α : Type}

/-- Wherever the two documents stand, the decoder reads the same value from both, or from
neither. -/
def ReadsAlike (decoder : Decoder α) (document other : Document) : Prop :=
  ∀ ⦃reading also : Reading⦄, reading.dialect = also.dialect →
    Alike Eq (decoder reading document) (decoder also other)

theorem ReadsAlike.symm {decoder : Decoder α} {document other : Document}
    (alike : decoder.ReadsAlike document other) : decoder.ReadsAlike other document :=
  fun _ _ same => (alike same.symm).symm

theorem ReadsAlike.trans {decoder : Decoder α} {document other last : Document}
    (alike : decoder.ReadsAlike document other) (more : decoder.ReadsAlike other last) :
    decoder.ReadsAlike document last := by
  intro reading also same
  have first : Alike Eq (decoder reading document) (decoder also other) := alike same
  exact first.trans (more rfl)

/-- A node of a tree is read alike wherever it stands. -/
def Steady (decoder : Decoder α) : Prop :=
  ∀ {document : Document}, document.isTree = true → decoder.ReadsAlike document document

end Decoder

namespace Reading

variable {α β : Type} {related : α → β → Prop} {reading other : Reading}

theorem follow_of_isTree {document : Document} (tree : document.isTree = true) :
    reading.follow document = pure document := by
  cases document with
  | reference anchor => cases tree
  | scalar | list | map | tagged => rfl

theorem fail_alike (cause also : DecodeCause) :
    Alike related (reading.fail cause) (other.fail also) :=
  .errors _ _

theorem exists_mismatch_eq (node : Document) (expected : String) :
    ∃ error, reading.mismatch node expected = (throw error : Decoding α) := by
  unfold mismatch
  split
  · exact ⟨_, rfl⟩
  · exact ⟨_, rfl⟩
  · split <;> exact ⟨_, rfl⟩
  · exact ⟨_, rfl⟩

theorem mismatch_alike (node others : Document) (expected also : String) :
    Alike related (reading.mismatch node expected) (other.mismatch others also) := by
  obtain ⟨error, same⟩ := reading.exists_mismatch_eq (α := α) node expected
  obtain ⟨different, alsoSame⟩ := other.exists_mismatch_eq (α := β) others also
  rw [same, alsoSame]
  exact .errors error different

end Reading

namespace Decoder

open Reading (follow_of_isTree fail_alike mismatch_alike)

variable {α : Type}

theorem textExpecting_steady (expected : String) : (textExpecting expected).Steady := by
  intro document tree reading also same
  unfold textExpecting
  rw [follow_of_isTree tree, follow_of_isTree tree, pure_bind, pure_bind]
  cases document with
  | scalar value =>
      cases value with
      | text | written => exact .values rfl
      | null | bool | int | float => exact mismatch_alike _ _ _ _
  | reference | list | map | tagged => exact mismatch_alike _ _ _ _

theorem text_steady : text.Steady := textExpecting_steady "a string"

theorem bool_steady : bool.Steady := by
  intro document tree reading also same
  unfold bool
  rw [follow_of_isTree tree, follow_of_isTree tree, pure_bind, pure_bind]
  cases document with
  | scalar value =>
      cases value with
      | bool value => exact .values rfl
      | text | null | int | float => exact mismatch_alike _ _ _ _
      | written =>
          dsimp only
          split
          · exact .values rfl
          · exact mismatch_alike _ _ _ _
  | reference | list | map | tagged => exact mismatch_alike _ _ _ _

theorem intBetween_steady (low high : Int) (name : String) :
    (intBetween low high name).Steady := by
  intro document tree reading also same
  unfold intBetween
  rw [follow_of_isTree tree, follow_of_isTree tree, pure_bind, pure_bind]
  cases document with
  | scalar value =>
      dsimp only
      split
      · split
        · exact .values rfl
        · exact fail_alike _ _
      · exact mismatch_alike _ _ _ _
  | reference | list | map | tagged => exact mismatch_alike _ _ _ _

theorem natBelow_steady (bound : Nat) (name : String) : (natBelow bound name).Steady :=
  fun tree _ _ same => (intBetween_steady 0 bound name tree same).map_eq _

/-- The items of a tree are trees. -/
theorem items_alike {document : Document} (tree : document.isTree = true) (expected : String)
    (reading also : Reading) :
    Alike (fun items others => items = others ∧ ∀ item ∈ items, item.isTree = true)
      (items expected reading document) (items expected also document) := by
  unfold items
  rw [follow_of_isTree tree, follow_of_isTree tree, pure_bind, pure_bind]
  have inner := Document.isTree_untagged tree
  cases given : document.untagged with
  | list items =>
      rw [given] at inner
      exact .values ⟨rfl, Document.isTree_list_iff.mp inner⟩
  | scalar value =>
      split
      · next same => cases same
      · exact .values ⟨rfl, nofun⟩
      · exact mismatch_alike _ _ _ _
  | reference | map | tagged => exact mismatch_alike _ _ _ _

/-- The entries of a tree are made of trees. -/
theorem entries_alike {document : Document} (tree : document.isTree = true) (expected : String)
    (reading also : Reading) :
    Alike (fun entries others => entries = others ∧
        ∀ entry ∈ entries, entry.1.isTree = true ∧ entry.2.isTree = true)
      (entries expected reading document) (entries expected also document) := by
  unfold entries
  rw [follow_of_isTree tree, follow_of_isTree tree, pure_bind, pure_bind]
  have inner := Document.isTree_untagged tree
  cases given : document.untagged with
  | map entries =>
      rw [given] at inner
      exact .values ⟨rfl, Document.isTree_map_iff.mp inner⟩
  | scalar value =>
      split
      · next same => cases same
      · exact .values ⟨rfl, nofun⟩
      · exact mismatch_alike _ _ _ _
  | reference | list | tagged => exact mismatch_alike _ _ _ _

/-- Lists are read alike if their items are. -/
theorem itemsFrom_alike {item : Decoder α} {items others : List Document}
    (each : List.Forall₂ item.ReadsAlike items others) {reading also : Reading}
    (same : reading.dialect = also.dialect) (position other : Nat) :
    Alike Eq (itemsFrom item reading position items) (itemsFrom item also other others) := by
  induction each generalizing position other with
  | nil => exact .values rfl
  | cons first _ ih =>
      unfold itemsFrom
      refine Alike.bind_eq (first same) fun value => ?_
      exact (ih _ _).bind_eq fun values => .values rfl

theorem list_steady {item : Decoder α} (steady : item.Steady) : (list item).Steady := by
  intro document tree reading also same
  unfold list
  refine (items_alike tree _ reading also).bind ?_
  rintro items _ ⟨rfl, trees⟩
  exact itemsFrom_alike (List.forall₂_same.mpr fun item member => steady (trees item member)) same
    0 0

theorem textEntries_alike {entries : List (Document × Document)}
    (trees : ∀ entry ∈ entries, entry.1.isTree = true ∧ entry.2.isTree = true)
    {reading also : Reading} (same : reading.dialect = also.dialect) (map : StringMap) :
    Alike Eq (textEntries reading map entries) (textEntries also map entries) := by
  induction entries generalizing map with
  | nil => exact .values rfl
  | cons entry rest ih =>
      obtain ⟨⟨keyTree, valueTree⟩, later⟩ := List.forall_mem_cons.mp trees
      unfold textEntries
      refine Alike.bind_eq (text_steady keyTree same) fun name => ?_
      refine Alike.bind_eq (text_steady valueTree same) fun content => ?_
      exact ih later _

theorem stringMap_steady : stringMap.Steady := by
  intro document tree reading also same
  unfold stringMap
  refine (entries_alike tree _ reading also).bind ?_
  rintro entries _ ⟨rfl, trees⟩
  exact textEntries_alike trees same _

theorem optional_steady {value : Decoder α} (steady : value.Steady) :
    (optional value).Steady := by
  intro document tree reading also same
  have inside : Alike Eq (some <$> value reading document) (some <$> value also document) :=
    (steady tree same).map_eq some
  unfold optional
  rw [follow_of_isTree tree, follow_of_isTree tree, pure_bind, pure_bind]
  split
  · exact .values rfl
  · split
    · exact .values rfl
    · exact inside
  · split
    · exact .values rfl
    · exact fail_alike _ _
  · exact inside

end Decoder

end ManagedCluster
