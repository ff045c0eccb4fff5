import Mathlib.Logic.Relation
import ManagedCluster.Proofs.Document.Places

/-! # The forms of blocks

A block stands in a document as a map, as the only item of a list, or, where there is none, as null,
as an empty list or not at all. Which of these forms is taken makes no difference to what a record
is read as, at any depth. An outline says where the blocks of a record are.
-/

namespace ManagedCluster

namespace Document

/-- The blocks that stand in the place of one: a map is one, a list has one for each item, and null
has none. A node with a tag of its own stands for something else. -/
def held? (document : Document) : Option (List Document) :=
  if document.isVariant then none
  else
    match document.untagged with
    | .map _ => some [document]
    | .list items => some items
    | .scalar value =>
      match value.resolve with
      | .ok .null => some []
      | _ => none
    | _ => none

theorem isTree_iff_of_held {document : Document} {items : List Document}
    (held : document.held? = some items) :
    document.isTree = true ↔ ∀ item ∈ items, item.isTree = true := by
  unfold held? at held
  split at held
  · cases held
  · have inner : document.untagged.isTree = document.isTree := by
      cases document <;> rfl
    split at held
    · cases held
      simp
    · next given =>
      cases held
      rw [← inner, given, isTree_list_iff]
    · next given =>
      split at held
      · cases held
        rw [← inner, given]
        simp
      · cases held
    · cases held

end Document

/-- The fields of a record, and for those that hold a block the fields of that. -/
inductive Outline where
  | fields (parts : List (String × Option Outline))

/-- The function puts a value in the place of a field that holds a block with this outline: into an
entry of a map, or into a list that stands for a record. -/
inductive BlockPlace (parts : List (String × Option Outline)) (inner : Outline) :
    (Document → Document) → Prop
  | entry {name : String} {key : Document} (tag : Option Tag)
      (before after : List (Document × Document)) (named : Decoder.stepOf key = .key name)
      (isPart : (name, some inner) ∈ parts) :
      BlockPlace parts inner fun value => .withTag tag (.map (before ++ (key, value) :: after))
  | item {name : String} {earlier later : List (String × Option Outline)}
      (before after : List Document) (isPart : parts = earlier ++ (name, some inner) :: later)
      (level : earlier.length = before.length) :
      BlockPlace parts inner fun value => .list (before ++ value :: after)

/-- The first document becomes the second if one block takes another form. -/
inductive Reform : Outline → Document → Document → Prop
  /-- The block itself does: the same blocks are held in its place. -/
  | form {parts : List (String × Option Outline)} {inner : Outline} {put : Document → Document}
      {value other : Document} {items : List Document} (place : BlockPlace parts inner put)
      (held : value.held? = some items) (also : other.held? = some items) :
      Reform (.fields parts) (put value) (put other)
  /-- A block inside of it does. -/
  | within {parts : List (String × Option Outline)} {inner : Outline} {put : Document → Document}
      {value other first second : Document} {before after : List Document}
      (place : BlockPlace parts inner put) (held : value.held? = some (before ++ first :: after))
      (also : other.held? = some (before ++ second :: after)) (inside : Reform inner first second) :
      Reform (.fields parts) (put value) (put other)
  /-- The entry of a block that is not there is left out. -/
  | entryLeftOut {parts : List (String × Option Outline)} {inner : Outline} {name : String}
      {key value : Document} (tag : Option Tag) {before after : List (Document × Document)}
      (named : Decoder.stepOf key = .key name) (isPart : (name, some inner) ∈ parts)
      (only : ∀ entry ∈ before ++ after, Decoder.stepOf entry.1 ≠ .key name)
      (nothing : value.held? = some []) :
      Reform (.fields parts) (.withTag tag (.map (before ++ (key, value) :: after)))
        (.withTag tag (.map (before ++ after)))
  /-- The last item of a list that stands for a record is left out. -/
  | itemLeftOut {parts earlier later : List (String × Option Outline)} {inner : Outline}
      {name : String} {value : Document} {items : List Document}
      (isPart : parts = earlier ++ (name, some inner) :: later)
      (level : earlier.length = items.length) (nothing : value.held? = some []) :
      Reform (.fields parts) (.list (items ++ [value])) (.list items)

theorem BlockPlace.isTree_iff {parts : List (String × Option Outline)} {inner : Outline}
    {put : Document → Document} (place : BlockPlace parts inner put) {value other : Document}
    (same : value.isTree = true ↔ other.isTree = true) :
    (put value).isTree = true ↔ (put other).isTree = true := by
  cases place with
  | entry tag before after named isPart => simp [or_imp, forall_and, same]
  | item before after isPart level => simp [or_imp, forall_and, same]

theorem BlockPlace.isTree_of_put {parts : List (String × Option Outline)} {inner : Outline}
    {put : Document → Document} (place : BlockPlace parts inner put) {value : Document}
    (tree : (put value).isTree = true) : value.isTree = true := by
  cases place with
  | entry tag before after named isPart =>
      have trees := Document.isTree_map_iff.mp (Document.isTree_withTag.symm.trans tree)
      exact (trees _ (List.mem_append_right _ List.mem_cons_self)).2
  | item before after isPart level =>
      exact Document.isTree_list_iff.mp tree _ (List.mem_append_right _ List.mem_cons_self)

theorem Reform.isTree_iff {outline : Outline} {document other : Document}
    (reform : Reform outline document other) :
    document.isTree = true ↔ other.isTree = true := by
  induction reform with
  | form place held also =>
      apply place.isTree_iff
      rw [Document.isTree_iff_of_held held, Document.isTree_iff_of_held also]
  | within place held also _ ih =>
      apply place.isTree_iff
      rw [Document.isTree_iff_of_held held, Document.isTree_iff_of_held also]
      simp [or_imp, forall_and, ih]
  | @entryLeftOut _ _ name key value tag before after named isPart only nothing =>
      have tree : value.isTree = true := by simp [Document.isTree_iff_of_held nothing]
      have keyTree : key.isTree = true := by
        cases key with
        | scalar => rfl
        | list | map | tagged | reference => cases named
      simp [or_imp, forall_and, tree, keyTree]
  | @itemLeftOut _ _ _ _ _ value _ isPart level nothing =>
      have tree : value.isTree = true := by simp [Document.isTree_iff_of_held nothing]
      simp [or_imp, forall_and, tree]

namespace Decoder

variable {α : Type} {value : Decoder α} {name : String}

/-- The one block among these, or none. -/
def atMostOne (name : String) (value : Decoder α) (reading : Reading) (items : List Document) :
    Decoding (Option α) := do
  let blocks ← itemsFrom value reading 0 items
  if 1 < blocks.length then reading.fail (.repeatedBlock name blocks.length)
  else return blocks.head?

theorem atMostOne_alike {items others : List Document}
    (each : List.Forall₂ value.ReadsAlike items others) {reading also : Reading}
    (same : reading.dialect = also.dialect) :
    Alike Eq (atMostOne name value reading items) (atMostOne name value also others) := by
  refine (itemsFrom_alike each same 0 0).bind_eq fun blocks => ?_
  split
  · exact Reading.fail_alike _ _
  · exact .values rfl

section Forms

variable {document : Document} {reading : Reading} (plain : document.isVariant = false)

include plain

theorem block_of_map {entries : List (Document × Document)}
    (isMap : document.untagged = .map entries) :
    block name value reading document = some <$> value reading document := by
  have direct : document.IsDirect := Document.isDirect_of_untagged (by simp [isMap])
  simp [block, direct reading, plain, isMap]

theorem block_of_list {items : List Document} (isList : document.untagged = .list items) :
    block name value reading document = atMostOne name value reading items := by
  have direct : document.IsDirect := Document.isDirect_of_untagged (by simp [isList])
  simp [block, direct reading, plain, isList, atMostOne]

theorem block_of_null {scalar : Scalar} (isScalar : document.untagged = .scalar scalar)
    (isNull : scalar.resolve = .ok .null) : block name value reading document = pure none := by
  have direct : document.IsDirect := Document.isDirect_of_untagged (by simp [isScalar])
  simp [block, direct reading, plain, isScalar, isNull]

end Forms

/-- In the place of a block, the blocks that it holds are read. -/
theorem block_alike_of_held {document : Document} {items : List Document}
    (tree : document.isTree = true) (steady : value.Steady) (held : document.held? = some items)
    {reading also : Reading} (same : reading.dialect = also.dialect) :
    Alike Eq (block name value reading document) (atMostOne name value also items) := by
  have trees := (Document.isTree_iff_of_held held).mp tree
  unfold Document.held? at held
  split at held
  · cases held
  · next noVariant =>
    have plain := Bool.eq_false_of_not_eq_true noVariant
    split at held
    · next isMap =>
      cases held
      have alone : atMostOne name value also [document] =
          some <$> value (also.below (.index 0)) document := by
        simp [atMostOne, itemsFrom]
      have read : Alike Eq (value reading document) (value (also.below (.index 0)) document) :=
        steady tree same
      rw [block_of_map plain isMap, alone]
      exact read.map_eq some
    · next isList =>
      cases held
      rw [block_of_list plain isList]
      exact atMostOne_alike (List.forall₂_same.mpr fun item member => steady (trees item member))
        same
    · next isScalar =>
      split at held
      · next isNull =>
        cases held
        rw [block_of_null plain isScalar isNull]
        exact .values rfl
      · cases held
    · cases held

theorem exists_block_eq_throw {document : Document} (tree : document.isTree = true)
    (held : document.held? = none) (reading : Reading) :
    ∃ error, block name value reading document = throw error := by
  unfold Document.held? at held
  unfold block
  rw [Reading.follow_of_isTree tree, pure_bind]
  by_cases variant : document.isVariant = true
  · rw [if_pos variant]
    exact ⟨_, rfl⟩
  · rw [if_neg variant] at held ⊢
    cases given : document.untagged with
    | map | list => simp [given] at held
    | tagged | reference => exact Reading.exists_mismatch_eq _ _
    | scalar scalar =>
        cases resolved : scalar.resolve with
        | error bad =>
            simp only [resolved]
            exact Reading.exists_mismatch_eq _ _
        | ok value =>
            cases value with
            | null => simp [given, resolved] at held
            | bool | int | float | text | written =>
                simp only [resolved]
                exact Reading.exists_mismatch_eq _ _

theorem block_of_nothing {document : Document} (nothing : document.held? = some [])
    {reading : Reading} : block name value reading document = pure none := by
  unfold Document.held? at nothing
  split at nothing
  · cases nothing
  · next noVariant =>
    have plain := Bool.eq_false_of_not_eq_true noVariant
    split at nothing
    · cases nothing
    · next isList =>
      cases nothing
      rw [block_of_list plain isList]
      rfl
    · next isScalar =>
      split at nothing
      · next isNull => exact block_of_null plain isScalar isNull
      · cases nothing
    · cases nothing

theorem block_steady (steady : value.Steady) : (block name value).Steady := by
  intro document tree reading also same
  cases held : document.held? with
  | none =>
      have fails : ∀ reading, ∃ error, block name value reading document = throw error :=
        exists_block_eq_throw tree held
      obtain ⟨error, first⟩ := fails reading
      obtain ⟨other, second⟩ := fails also
      rw [first, second]
      exact .errors error other
  | some items =>
      have first : Alike Eq (block name value reading document) (atMostOne name value also items) :=
        block_alike_of_held tree steady held same
      exact first.trans (block_alike_of_held tree steady held rfl).symm

/-- Two forms that hold the same blocks, or blocks that are read alike, are read alike. -/
theorem block_readsAlike {document other : Document} {items others : List Document}
    (tree : document.isTree = true) (also : other.isTree = true) (steady : value.Steady)
    (held : document.held? = some items) (alsoHeld : other.held? = some others)
    (each : List.Forall₂ value.ReadsAlike items others) :
    (block name value).ReadsAlike document other := by
  intro reading beside same
  have first : Alike Eq (block name value reading document) (atMostOne name value beside items) :=
    block_alike_of_held tree steady held same
  have second : Alike Eq (block name value beside other) (atMostOne name value beside others) :=
    block_alike_of_held also steady alsoHeld rfl
  exact (first.trans (atMostOne_alike each rfl)).trans second.symm

end Decoder

/-- The codec reads trees, and the forms of the blocks in the outline make no difference to it. -/
structure Codec.IgnoresForms {α : Type} (codec : Codec α) (outline : Outline) : Prop where
  steady : codec.read.Steady
  reads : ∀ {document other : Document}, document.isTree = true → Reform outline document other →
    codec.read.ReadsAlike document other

/-- Any number of blocks can take other forms. -/
theorem Codec.IgnoresForms.readsAlike {α : Type} {codec : Codec α} {outline : Outline}
    (ignores : codec.IgnoresForms outline) {document other : Document}
    (reforms : Relation.EqvGen (Reform outline) document other) :
    (document.isTree = true ↔ other.isTree = true) ∧
      (document.isTree = true → codec.read.ReadsAlike document other) := by
  induction reforms with
  | rel document other reform =>
      exact ⟨reform.isTree_iff, fun tree => ignores.reads tree reform⟩
  | refl document => exact ⟨Iff.rfl, fun tree => ignores.steady tree⟩
  | symm document other _ ih =>
      obtain ⟨sameTree, alike⟩ := ih
      exact ⟨sameTree.symm, fun tree => (alike (sameTree.mpr tree)).symm⟩
  | trans first second third _ _ ih more =>
      obtain ⟨sameTree, alike⟩ := ih
      obtain ⟨alsoTree, alsoAlike⟩ := more
      exact ⟨sameTree.trans alsoTree, fun tree =>
        (alike tree).trans (alsoAlike (sameTree.mp tree))⟩

end ManagedCluster
