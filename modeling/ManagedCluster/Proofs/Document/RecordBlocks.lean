import ManagedCluster.Proofs.Document.Blocks

/-! # Records that ignore the forms of their blocks

The form of one block matters neither to what is read before it nor to what is read after it. Where
a block that is not there is left out, the record keeps its default, since no other field changes
this part of it. So a record ignores the forms of its blocks if each of the blocks does.
-/

namespace ManagedCluster

/-- What there is to know of a field: the outline of the block that it holds, and the changes that
its values can make. -/
structure Slot (σ : Type) where
  inner : Option Outline
  changes : (σ → σ) → Prop

/-- The changes that this setter makes. -/
def Sets {σ α : Type} (set : α → σ → σ) (change : σ → σ) : Prop := ∃ value, change = set value

/-- What the one changes in a record, the other does not. -/
def Slot.Independent {σ : Type} (one other : Slot σ) : Prop :=
  ∀ first second, one.changes first → other.changes second →
    ∀ record, first (second record) = second (first record)

@[simp] theorem Slot.independent_sets_iff {σ α β : Type} {set : α → σ → σ} {other : β → σ → σ}
    {inner also : Option Outline} :
    Slot.Independent ⟨inner, Sets set⟩ ⟨also, Sets other⟩ ↔
      ∀ value more record, set value (other more record) = other more (set value record) := by
  constructor
  · intro independent value more
    exact independent _ _ ⟨value, rfl⟩ ⟨more, rfl⟩
  · rintro commute _ _ ⟨value, rfl⟩ ⟨more, rfl⟩
    exact commute value more

section Fits

variable {σ α : Type}

/-- The field holds a block with this outline. Where there is none, its value leaves the default as
it is. -/
structure Field.HoldsBlock (field : Field σ) (default : σ) (changes : (σ → σ) → Prop)
    (inner : Outline) : Prop where
  optional : field.required = false
  alike : ∀ {value other : Document} {items others : List Document}, value.isTree = true →
    other.isTree = true → value.held? = some items → other.held? = some others →
    List.Forall₂ (fun item also => item = also ∨ Reform inner item also) items others →
    field.read.ReadsAlike value other
  nothing : ∃ change, changes change ∧ change default = default ∧
    ∀ (reading : Reading) {value : Document}, value.held? = some [] →
      field.read reading value = pure change

/-- What is known of the field is true. -/
structure Field.Fits (default : σ) (field : Field σ) (slot : Slot σ) : Prop where
  steady : field.read.Steady
  makes : ∀ {change : σ → σ}, field.Makes change → slot.changes change
  block : ∀ {inner : Outline}, slot.inner = some inner →
    field.HoldsBlock default slot.changes inner

namespace Field

variable {name : String} {codec : Codec α} {default : σ}

theorem makes_of_map {field : Field σ} {set : α → σ → σ} {read : Decoder α}
    (same : ∀ reading document, field.read reading document = set <$> read reading document)
    {change : σ → σ} (makes : field.Makes change) : Sets set change := by
  obtain ⟨reading, document, made⟩ := makes
  rw [same] at made
  obtain ⟨value, rfl⟩ := Decoding.exists_of_map_eq_pure made
  exact ⟨value, rfl⟩

theorem block_fits {get : σ → Option α} {set : Option α → σ → σ} {inner : Outline}
    (blind : codec.IgnoresForms inner) (unset : set none default = default) :
    (block name codec get set).Fits default ⟨some inner, Sets set⟩ where
  steady tree _ _ same := (Decoder.block_steady blind.steady tree same).map_eq set
  makes made := makes_of_map (fun _ _ => rfl) made
  block := by
    rintro _ ⟨⟩
    refine ⟨rfl, ?_, ⟨set none, ⟨none, rfl⟩, unset, ?_⟩⟩
    · intro value other items others tree also held alsoHeld each reading beside same
      have trees := (Document.isTree_iff_of_held held).mp tree
      have alike : (Decoder.block name codec.read).ReadsAlike value other := by
        refine Decoder.block_readsAlike tree also blind.steady held alsoHeld ?_
        refine ((List.forall₂_and_left _ _).mpr ⟨trees, each⟩).imp ?_
        rintro item _ ⟨itemTree, rfl | reform⟩
        · exact blind.steady itemTree
        · exact blind.reads itemTree reform
      exact (alike same).map_eq set
    · intro reading value nothing
      simp only [block, Decoder.block_of_nothing nothing, map_pure]

/-- A field that holds no block can do with a decoder that does not see where it stands. -/
theorem fits_of_steady {field : Field σ} {set : α → σ → σ} {read : Decoder α}
    (same : ∀ reading document, field.read reading document = set <$> read reading document)
    (steady : read.Steady) : field.Fits default ⟨none, Sets set⟩ where
  steady tree reading also alike := by
    rw [same, same]
    exact (steady tree alike).map_eq set
  makes made := makes_of_map same made
  block := nofun

end Field

end Fits

/-- A field with what there is to know of it. -/
structure Fitted {σ : Type} (default : σ) where
  field : Field σ
  slot : Slot σ
  fits : field.Fits default slot

namespace Fitted

variable {σ : Type} {default : σ} {fitted : List (Fitted default)}

/-- The field in an outline. -/
def part (fitted : Fitted default) : String × Option Outline :=
  (fitted.field.name, fitted.slot.inner)

theorem exists_of_forall₂ {fields : List (Field σ)} {slots : List (Slot σ)}
    (each : List.Forall₂ (Field.Fits default) fields slots) :
    ∃ fitted : List (Fitted default),
      fitted.map (·.field) = fields ∧ fitted.map (·.slot) = slots := by
  induction each with
  | nil => exact ⟨[], rfl, rfl⟩
  | @cons field slot _ _ first _ ih =>
      obtain ⟨fitted, rfl, rfl⟩ := ih
      exact ⟨⟨field, slot, first⟩ :: fitted, rfl, rfl⟩

theorem steady_of_mem {field : Field σ} (member : field ∈ fitted.map (·.field)) :
    field.read.Steady := by
  obtain ⟨one, -, rfl⟩ := List.mem_map.mp member
  exact one.fits.steady

/-- Where the outline names a block, there is a field that holds it. -/
theorem exists_of_part {inner : Outline} {name : String}
    {earlier later : List (String × Option Outline)}
    (isPart : fitted.map part = earlier ++ (name, some inner) :: later) :
    ∃ (before : List (Fitted default)) (here : Fitted default) (after : List (Fitted default)),
      fitted = before ++ here :: after ∧ before.length = earlier.length ∧
      here.field.name = name ∧ here.field.HoldsBlock default here.slot.changes inner := by
  obtain ⟨before, rest, rfl, rfl, split⟩ := List.map_eq_append_iff.mp isPart
  obtain ⟨here, after, rfl, isHere, -⟩ := List.map_eq_cons_iff.mp split
  obtain ⟨rfl, inside⟩ := Prod.mk.inj isHere
  exact ⟨before, here, after, rfl, (List.length_map _).symm, rfl, here.fits.block inside⟩

variable {parts : List (String × Option Outline)} {inner : Outline}
  {name recordName : String}

/-- A record is read alike if the value of one block field is. -/
theorem record_put_readsAlike (distinct : (fitted.map (·.field.name)).Nodup)
    {put : Document → Document} (place : BlockPlace (fitted.map part) inner put)
    {value other : Document} (tree : (put value).isTree = true)
    (alike : ∀ one ∈ fitted, one.field.HoldsBlock default one.slot.changes inner →
      one.field.read.ReadsAlike value other) :
    (Decoder.record recordName (fitted.map (·.field)) default).ReadsAlike (put value)
      (put other) := by
  intro reading also same
  have steady : ∀ field ∈ fitted.map (·.field), field.read.Steady := fun _ => steady_of_mem
  cases place with
  | @entry name key tag before after named isPart =>
      obtain ⟨earlier, later, split⟩ := List.append_of_mem isPart
      obtain ⟨fieldsBefore, here, fieldsAfter, isAmong, -, rfl, holds⟩ := exists_of_part split
      have member : here ∈ fitted := by simp [isAmong]
      have found : (fitted.map (·.field)).find? (·.name == here.field.name) = some here.field :=
        Field.find?_name (by rwa [List.map_map]) (List.mem_map_of_mem member)
      have trees := Document.isTree_map_iff.mp (Document.isTree_withTag.symm.trans tree)
      obtain ⟨beforeTrees, trees⟩ := List.forall_mem_append.mp trees
      obtain ⟨-, afterTrees⟩ := List.forall_mem_cons.mp trees
      rw [Decoder.record_map, Decoder.record_map]
      refine Alike.bind_eq ?_ fun ended => Decoder.ending_alike rfl fun _ _ _ => rfl
      rw [Decoder.recordEntries_append, Decoder.recordEntries_append]
      refine (Decoder.recordEntries_steady steady beforeTrees same).bind_eq fun ended => ?_
      rw [Decoder.recordEntries_of_field named found, Decoder.recordEntries_of_field named found]
      split
      · exact Reading.fail_alike _ _
      · exact Alike.bind_eq (alike here member holds same) fun change =>
          Decoder.recordEntries_steady steady afterTrees same
  | @item name earlier later before after isPart level =>
      obtain ⟨fieldsBefore, here, fieldsAfter, isAmong, asLong, rfl, holds⟩ := exists_of_part isPart
      have member : here ∈ fitted := by simp [isAmong]
      obtain ⟨beforeTrees, trees⟩ := List.forall_mem_append.mp (Document.isTree_list_iff.mp tree)
      obtain ⟨-, afterTrees⟩ := List.forall_mem_cons.mp trees
      cases isRecord : reading.dialect.listsAsRecords with
      | false => exact Decoder.record_list_alike isRecord same
      | true =>
          rw [Decoder.record_list isRecord, Decoder.record_list (same ▸ isRecord)]
          subst isAmong
          rw [List.map_append, List.map_cons] at steady ⊢
          obtain ⟨steadyBefore, steadyAfter⟩ := List.forall_mem_append.mp steady
          have level : (fieldsBefore.map (·.field)).length = before.length := by
            rw [List.length_map, asLong, level]
          rw [Decoder.recordItems_append level, Decoder.recordItems_append level]
          refine (Decoder.recordItems_steady steadyBefore beforeTrees same _).bind_eq
            fun record => ?_
          unfold Decoder.recordItems
          refine Alike.bind_eq (alike here member holds same) fun change => ?_
          exact Decoder.recordItems_steady (List.forall_mem_cons.mp steadyAfter).2 afterTrees same _

/-- Different fields change different parts of a record. -/
def Independent (fitted : List (Fitted default)) : Prop :=
  fitted.Pairwise fun one other => one.slot.Independent other.slot

theorem Independent.commute {before after : List (Fitted default)} {here one : Fitted default}
    (independent : Independent (before ++ here :: after)) (member : one ∈ before ++ after)
    {first second : σ → σ} (isFirst : here.slot.changes first) (isSecond : one.slot.changes second)
    (record : σ) : first (second record) = second (first record) := by
  obtain ⟨-, later, across⟩ := List.pairwise_append.mp independent
  obtain ⟨fromHere, -⟩ := List.pairwise_cons.mp later
  rcases List.mem_append.mp member with isBefore | isAfter
  · exact (across one isBefore here List.mem_cons_self second first isSecond isFirst record).symm
  · exact fromHere one isAfter first second isFirst isSecond record

/-- A change that leaves a record as it is still does so after a change to another field. -/
theorem Independent.keeps {before after : List (Fitted default)} {here : Fitted default}
    (independent : Independent (before ++ here :: after)) {clear change : σ → σ}
    (clears : here.slot.changes clear) {field : Field σ}
    (member : field ∈ (before ++ after).map (·.field)) (makes : field.Makes change) {record : σ}
    (cleared : clear record = record) : clear (change record) = change record := by
  obtain ⟨one, beside, rfl⟩ := List.mem_map.mp member
  rw [independent.commute beside clears (one.fits.makes makes), cleared]

theorem mem_others {before after : List (Fitted default)} {here : Fitted default} {field : Field σ}
    (member : field ∈ (before ++ here :: after).map (·.field))
    (other : field.name ≠ here.field.name) : field ∈ (before ++ after).map (·.field) := by
  obtain ⟨one, inFitted, rfl⟩ := List.mem_map.mp member
  refine List.mem_map_of_mem ?_
  rcases List.mem_append.mp inFitted with isBefore | rest
  · exact List.mem_append_left _ isBefore
  · rcases List.mem_cons.mp rest with rfl | isAfter
    · exact absurd rfl other
    · exact List.mem_append_right _ isAfter

theorem record_entryLeftOut_readsAlike (distinct : (fitted.map (·.field.name)).Nodup)
    (independent : Independent fitted) {key value : Document} (tag : Option Tag)
    {before after : List (Document × Document)} (named : Decoder.stepOf key = .key name)
    (isPart : (name, some inner) ∈ fitted.map part)
    (only : ∀ entry ∈ before ++ after, Decoder.stepOf entry.1 ≠ .key name)
    (nothing : value.held? = some [])
    (trees : ∀ entry ∈ before ++ after, entry.1.isTree = true ∧ entry.2.isTree = true) :
    (Decoder.record recordName (fitted.map (·.field)) default).ReadsAlike
      (.withTag tag (.map (before ++ (key, value) :: after)))
      (.withTag tag (.map (before ++ after))) := by
  intro reading also same
  have steady : ∀ field ∈ fitted.map (·.field), field.read.Steady := fun _ => steady_of_mem
  obtain ⟨earlier, later, split⟩ := List.append_of_mem isPart
  obtain ⟨fieldsBefore, here, fieldsAfter, isAmong, -, rfl, holds⟩ := exists_of_part split
  obtain ⟨clear, clears, keepsDefault, readsNothing⟩ := holds.nothing
  have found : (fitted.map (·.field)).find? (·.name == here.field.name) = some here.field :=
    Field.find?_name (by rwa [List.map_map]) (List.mem_map_of_mem (by simp [isAmong]))
  have keeps : ∀ field ∈ fitted.map (·.field), field.name ≠ here.field.name →
      ∀ change, field.Makes change → ∀ record, clear record = record →
        clear (change record) = change record := by
    intro field member other change makes record cleared
    subst isAmong
    exact independent.keeps clears (mem_others member other) makes cleared
  obtain ⟨beforeTrees, afterTrees⟩ := List.forall_mem_append.mp trees
  obtain ⟨beforeNames, afterNames⟩ := List.forall_mem_append.mp only
  rw [Decoder.record_map, Decoder.record_map, Decoder.recordEntries_append,
    Decoder.recordEntries_append, bind_assoc, bind_assoc]
  -- Up to the entry, both records are the same, and the field is as it is by default.
  have untouched : Decoder.Untouched here.field.name clear ([], default) := ⟨keepsDefault, rfl⟩
  refine (Decoder.recordEntries_untouched steady beforeTrees beforeNames same keeps
    untouched).bind ?_
  rintro ended _ ⟨rfl, cleared, unseen⟩
  rw [Decoder.recordEntries_of_field named found, unseen, readsNothing _ nothing, pure_bind,
    cleared, if_neg Bool.false_ne_true]
  -- After it, the records are still the same, and only the name of the field is seen or not.
  have start : Decoder.SameBut here.field.name (here.field.name :: ended.1, ended.2) ended := by
    refine ⟨rfl, fun other isOther => ?_⟩
    rw [List.contains_cons, beq_eq_false_iff_ne.mpr isOther, Bool.false_or]
  refine (Decoder.recordEntries_sameBut steady afterTrees afterNames same start).bind ?_
  rintro a b ⟨records, seen⟩
  refine Decoder.ending_alike records ?_
  intro field member required
  refine seen field.name fun sameName => ?_
  have alsoFound := Field.find?_name (by rwa [List.map_map]) member
  rw [sameName, found] at alsoFound
  cases alsoFound
  exact absurd required (by simp [holds.optional])

theorem record_itemLeftOut_readsAlike (independent : Independent fitted) {value : Document}
    {items : List Document} {earlier later : List (String × Option Outline)}
    (isPart : fitted.map part = earlier ++ (name, some inner) :: later)
    (level : earlier.length = items.length) (nothing : value.held? = some [])
    (trees : ∀ item ∈ items, item.isTree = true) :
    (Decoder.record recordName (fitted.map (·.field)) default).ReadsAlike (.list (items ++ [value]))
      (.list items) := by
  intro reading also same
  have steady : ∀ field ∈ fitted.map (·.field), field.read.Steady := fun _ => steady_of_mem
  obtain ⟨fieldsBefore, here, fieldsAfter, isAmong, asLong, rfl, holds⟩ := exists_of_part isPart
  obtain ⟨clear, clears, keepsDefault, readsNothing⟩ := holds.nothing
  cases isRecord : reading.dialect.listsAsRecords with
  | false => exact Decoder.record_list_alike isRecord same
  | true =>
      rw [Decoder.record_list isRecord, Decoder.record_list (same ▸ isRecord)]
      subst isAmong
      have keeps {field : Field σ} {change : σ → σ} {record : σ}
          (member : field ∈ fieldsBefore.map (·.field)) (makes : field.Makes change)
          (cleared : clear record = record) : clear (change record) = change record := by
        refine independent.keeps clears ?_ makes cleared
        rw [List.map_append]
        exact List.mem_append_left _ member
      rw [List.map_append, List.map_cons] at steady ⊢
      obtain ⟨steadyBefore, steadyAfter⟩ := List.forall_mem_append.mp steady
      have level : (fieldsBefore.map (·.field)).length = items.length := by
        rw [List.length_map, asLong, level]
      rw [Decoder.recordItems_append level, Decoder.recordItems_short level]
      have kept {a b : σ} {field : Field σ} {change : σ → σ} (same : a = b ∧ clear a = a)
          (member : field ∈ fieldsBefore.map (·.field)) (makes : field.Makes change) :
          change a = change b ∧ clear (change a) = change a :=
        ⟨congrArg change same.1, keeps member makes same.2⟩
      refine (Decoder.recordItems_alike (fun a b => a = b ∧ clear a = a) steadyBefore kept trees
        same 0 ⟨rfl, keepsDefault⟩).bind ?_
      rintro record _ ⟨rfl, cleared⟩
      unfold Decoder.recordItems
      rw [readsNothing _ nothing, pure_bind, cleared, holds.optional, if_neg Bool.false_ne_true]
      exact Decoder.recordItems_steady (List.forall_mem_cons.mp steadyAfter).2 (by simp) same _

end Fitted

/-- A record ignores the forms of its blocks if each block does, and different fields are different
parts of the record. -/
theorem Codec.record_ignoresForms {σ : Type} {name : String} {default : σ}
    {fields : List (Field σ)} {slots : List (Slot σ)}
    (each : List.Forall₂ (Field.Fits default) fields slots)
    (distinct : (fields.map (·.name)).Nodup)
    (independent : slots.Pairwise Slot.Independent) :
    (record name fields default).IgnoresForms
      (.fields (List.zipWith (fun field slot => (field.name, slot.inner)) fields slots)) := by
  obtain ⟨fitted, rfl, rfl⟩ := Fitted.exists_of_forall₂ each
  have parts : List.zipWith (fun field slot => (field.name, slot.inner))
      (fitted.map (·.field)) (fitted.map (·.slot)) = fitted.map Fitted.part := by
    rw [List.zipWith_map, List.zipWith_self]
    rfl
  rw [List.map_map] at distinct
  rw [List.pairwise_map] at independent
  rw [parts]
  refine ⟨Decoder.record_steady fun _ => Fitted.steady_of_mem, ?_⟩
  intro document other tree reform
  have alsoTree := reform.isTree_iff.mp tree
  cases reform with
  | form place held also =>
      refine Fitted.record_put_readsAlike distinct place tree fun one member holds => ?_
      refine holds.alike (place.isTree_of_put tree) (place.isTree_of_put alsoTree) held also ?_
      exact List.forall₂_same.mpr fun _ _ => .inl rfl
  | @within _ inner _ _ _ _ _ _ _ place held also inside =>
      refine Fitted.record_put_readsAlike distinct place tree fun one member holds => ?_
      refine holds.alike (place.isTree_of_put tree) (place.isTree_of_put alsoTree) held also ?_
      have same (items : List Document) :
          List.Forall₂ (fun item also => item = also ∨ Reform inner item also) items items :=
        List.forall₂_same.mpr fun _ _ => .inl rfl
      exact List.rel_append (same _) (.cons (.inr inside) (same _))
  | entryLeftOut tag named isPart only nothing =>
      refine Fitted.record_entryLeftOut_readsAlike distinct independent tag named isPart only
        nothing ?_
      exact Document.isTree_map_iff.mp (Document.isTree_withTag.symm.trans alsoTree)
  | itemLeftOut isPart level nothing =>
      exact Fitted.record_itemLeftOut_readsAlike independent isPart level nothing
        (Document.isTree_list_iff.mp alsoTree)

end ManagedCluster
