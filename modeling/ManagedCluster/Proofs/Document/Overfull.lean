import ManagedCluster.Proofs.Document.Blocks

/-! # Lists of several blocks

In the place of a block, a list of several fails: all of its items are read, and then counted. If
everything before it is read without an error, this is the error of the whole document. References
on the way there are followed, as far as so many may be.
-/

namespace ManagedCluster

namespace Decoding

variable {α β : Type} {read : Decoding α} {next : α → Decoding β} {left : Nat}

theorem bind_of_ok {value : α} {more : Nat} (first : read left = .ok (value, more)) :
    (read >>= next) left = next value more := by
  change (read left >>= fun pair => next pair.1 pair.2) = next value more
  rw [first]
  rfl

theorem bind_of_error {error : DecodeError} (failed : read left = .error error) :
    (read >>= next) left = .error error := by
  change (read left >>= fun pair => next pair.1 pair.2) = .error error
  rw [failed]
  rfl

theorem map_of_error {error : DecodeError} (failed : read left = .error error) (f : α → β) :
    (f <$> read) left = .error error := by
  rw [map_eq_pure_bind]
  exact bind_of_error failed

theorem run'_of_error {error : DecodeError} (failed : read left = .error error) :
    read.run' left = .error error := by
  change Prod.fst <$> read left = .error error
  rw [failed]
  rfl

end Decoding

open Decoding

section Reaches

variable {σ : Type} {fields : List (Field σ)} {default : σ} {reading : Reading} {left : Nat}

/-- Reading a record with these fields comes to the value of this field, one step down, after all
that is before it was read without an error. The numbers are how many references may be followed
before and after. -/
inductive Reaches (fields : List (Field σ)) (default : σ) (reading : Reading) (left : Nat) :
    Document → Field σ → Step → Document → Nat → Prop
  | entry {document key value : Document} {field : Field σ} {started read now : Nat}
      {tag : Option Tag} {before after : List (Document × Document)} {seen : List String}
      {record : σ}
      (isMap : reading.follow document left =
        .ok (.withTag tag (.map (before ++ (key, value) :: after)), started))
      (first : Decoder.recordEntries fields reading [] default before started =
        .ok ((seen, record), read))
      (named : Decoder.textExpecting "field identifier" reading key read = .ok (field.name, now))
      (found : fields.find? (·.name == field.name) = some field)
      (unseen : seen.contains field.name = false) :
      Reaches fields default reading left document field (Decoder.stepOf key) value now
  | item {document value : Document} {field : Field σ} {started now : Nat}
      {earlier later : List (Field σ)} {before after : List Document} {record : σ}
      (isRecord : reading.dialect.listsAsRecords = true)
      (isList : reading.follow document left = .ok (.list (before ++ value :: after), started))
      (isField : fields = earlier ++ field :: later) (level : earlier.length = before.length)
      (first : ∀ expected,
        Decoder.recordItems expected reading 0 default earlier before started =
          .ok (record, now)) :
      Reaches fields default reading left document field (.index before.length) value now

/-- A record is read from the node that is referred to. -/
theorem Decoder.record_of_follow {name : String} {document node : Document} {more : Nat}
    (here : reading.follow document left = .ok (node, more)) (direct : node.IsDirect) :
    record name fields default reading document left =
      record name fields default reading node more := by
  unfold record
  dsimp only
  rw [bind_of_ok here, direct reading, pure_bind]

/-- A record fails with the error of the value that is reached. -/
theorem Reaches.record_eq_error {name : String} {document value : Document} {field : Field σ}
    {step : Step} {now : Nat}
    (reaches : Reaches fields default reading left document field step value now)
    {error : DecodeError} (failed : field.read (reading.below step) value now = .error error) :
    Decoder.record name fields default reading document left = .error error := by
  cases reaches with
  | entry isMap first named found unseen =>
      rw [Decoder.record_of_follow isMap Document.isDirect_map, Decoder.record_map]
      refine bind_of_error ?_
      rw [Decoder.recordEntries_append, bind_of_ok first, Decoder.recordEntries, bind_of_ok named]
      simp only [found, unseen]
      exact bind_of_error failed
  | item isRecord isList isField level first =>
      rw [Decoder.record_of_follow isList fun _ => rfl, Decoder.record_list isRecord, isField,
        Decoder.recordItems_append level, bind_of_ok (first _), Decoder.recordItems, Nat.zero_add]
      exact bind_of_error failed

end Reaches

/-- The items are read without an error, from this position of a list on. The numbers are how many
references may be followed before and after. -/
inductive AllRead {α : Type} (decoder : Decoder α) (reading : Reading) :
    Nat → List Document → Nat → Nat → Prop
  | none (position left : Nat) : AllRead decoder reading position [] left left
  | next {position left more last : Nat} {item : Document} {rest : List Document} {value : α}
      (read : decoder (reading.below (.index position)) item left = .ok (value, more)) :
      AllRead decoder reading (position + 1) rest more last →
      AllRead decoder reading position (item :: rest) left last

/-- A record comes to a list of several blocks before anything is wrong. The first number is how
many references may be followed. The name is that of the block, the number after it is how many
there are, and the steps lead to the list. -/
inductive Overfull :
    {σ : Type} → Codec σ → Reading → Document → Nat → String → Nat → List Step → Prop
  | here {σ α : Type} {recordName block : String} {fields : List (Field σ)} {default : σ}
      {codec : Codec α} {get : σ → Option α} {set : Option α → σ → σ} {reading : Reading}
      {document value node : Document} {left now started last : Nat} {step : Step}
      {items : List Document}
      (reaches : Reaches fields default reading left document (.block block codec get set) step
        value now)
      (follows : (reading.below step).follow value now = .ok (node, started))
      (plain : node.isVariant = false) (isList : node.untagged = .list items)
      (several : 2 ≤ items.length)
      (valid : AllRead codec.read (reading.below step) 0 items started last) :
      Overfull (.record recordName fields default) reading document left block items.length [step]
  | inMap {σ α : Type} {recordName field block : String} {fields : List (Field σ)} {default : σ}
      {codec : Codec α} {get : σ → Option α} {set : Option α → σ → σ} {reading : Reading}
      {document value node : Document} {left now started count : Nat} {step : Step}
      {entries : List (Document × Document)} {path : List Step}
      (reaches : Reaches fields default reading left document (.block field codec get set) step
        value now)
      (follows : (reading.below step).follow value now = .ok (node, started))
      (plain : node.isVariant = false) (isMap : node.untagged = .map entries)
      (inside : Overfull codec (reading.below step) node started block count path) :
      Overfull (.record recordName fields default) reading document left block count (step :: path)
  | inItem {σ α : Type} {recordName field block : String} {fields : List (Field σ)} {default : σ}
      {codec : Codec α} {get : σ → Option α} {set : Option α → σ → σ} {reading : Reading}
      {document value node item : Document} {left now started last count : Nat} {step : Step}
      {before after : List Document} {path : List Step}
      (reaches : Reaches fields default reading left document (.block field codec get set) step
        value now)
      (follows : (reading.below step).follow value now = .ok (node, started))
      (plain : node.isVariant = false) (isList : node.untagged = .list (before ++ item :: after))
      (valid : AllRead codec.read (reading.below step) 0 before started last)
      (inside : Overfull codec ((reading.below step).below (.index before.length)) item last block
        count path) :
      Overfull (.record recordName fields default) reading document left block count
        (step :: .index before.length :: path)

namespace Decoder

variable {α : Type} {decoder : Decoder α} {reading : Reading}

theorem itemsFrom_append (before after : List Document) (position : Nat) :
    itemsFrom decoder reading position (before ++ after) = (do
      let first ← itemsFrom decoder reading position before
      let rest ← itemsFrom decoder reading (position + before.length) after
      return first ++ rest) := by
  induction before generalizing position with
  | nil => simp [itemsFrom]
  | cons item before ih =>
      simp only [List.cons_append, itemsFrom, ih, bind_assoc, pure_bind, List.length_cons,
        Nat.add_assoc, Nat.add_comm 1]

theorem exists_itemsFrom_eq {position left last : Nat} {items : List Document}
    (valid : AllRead decoder reading position items left last) :
    ∃ values, itemsFrom decoder reading position items left = .ok (values, last) ∧
      values.length = items.length := by
  induction valid with
  | none position left => exact ⟨[], rfl, rfl⟩
  | @next _ _ _ _ _ _ value read _ ih =>
      obtain ⟨values, others, asMany⟩ := ih
      refine ⟨value :: values, ?_, congrArg (· + 1) asMany⟩
      rw [itemsFrom, bind_of_ok read, bind_of_ok others]
      rfl

section Followed

variable {document node : Document} {left started last : Nat} {name : String}
  (follows : reading.follow document left = .ok (node, started)) (plain : node.isVariant = false)

include follows

/-- A block is read from the node that is referred to. -/
theorem block_of_follow (direct : node.IsDirect) :
    block name decoder reading document left = block name decoder reading node started := by
  unfold block
  rw [bind_of_ok follows, direct reading, pure_bind]

include plain

theorem block_of_several {items : List Document} (isList : node.untagged = .list items)
    (several : 2 ≤ items.length) (valid : AllRead decoder reading 0 items started last) :
    block name decoder reading document left =
      .error ⟨reading.steps.reverse, .repeatedBlock name items.length⟩ := by
  obtain ⟨values, read, asMany⟩ := exists_itemsFrom_eq valid
  rw [block_of_follow follows (Document.isDirect_of_untagged (by simp [isList])),
    block_of_list plain isList, atMostOne, bind_of_ok read, asMany,
    if_pos (show 1 < items.length from several)]
  rfl

variable {error : DecodeError}

theorem block_of_bad_map {entries : List (Document × Document)}
    (isMap : node.untagged = .map entries) (failed : decoder reading node started = .error error) :
    block name decoder reading document left = .error error := by
  rw [block_of_follow follows (Document.isDirect_of_untagged (by simp [isMap])),
    block_of_map plain isMap]
  exact map_of_error failed some

/-- A list of blocks fails with the error of an item if those before it are read. -/
theorem block_of_bad_item {item : Document} {before after : List Document}
    (isList : node.untagged = .list (before ++ item :: after))
    (valid : AllRead decoder reading 0 before started last)
    (failed : decoder (reading.below (.index before.length)) item last = .error error) :
    block name decoder reading document left = .error error := by
  obtain ⟨values, read, -⟩ := exists_itemsFrom_eq valid
  rw [block_of_follow follows (Document.isDirect_of_untagged (by simp [isList])),
    block_of_list plain isList, atMostOne, itemsFrom_append]
  refine bind_of_error ?_
  rw [bind_of_ok read, Nat.zero_add, itemsFrom]
  exact bind_of_error (bind_of_error failed)

end Followed

end Decoder

/-- The way to a node goes by one more step than the way to the node above it. -/
theorem Reading.reverse_below_append (reading : Reading) (step : Step) (path : List Step) :
    (reading.below step).steps.reverse ++ path = reading.steps.reverse ++ step :: path := by
  simp [below]

/-- A document with several blocks in the place of one fails with their name and number, and with
the steps to them. -/
theorem Overfull.read_eq_error {σ : Type} {codec : Codec σ} {reading : Reading}
    {document : Document} {left count : Nat} {block : String} {path : List Step}
    (overfull : Overfull codec reading document left block count path) :
    codec.read reading document left =
      .error ⟨reading.steps.reverse ++ path, .repeatedBlock block count⟩ := by
  induction overfull with
  | here reaches follows plain isList several valid =>
      refine reaches.record_eq_error (map_of_error ?_ _)
      rw [← Reading.reverse_below_append, List.append_nil]
      exact Decoder.block_of_several follows plain isList several valid
  | inMap reaches follows plain isMap inside ih =>
      refine reaches.record_eq_error (map_of_error ?_ _)
      rw [← Reading.reverse_below_append]
      exact Decoder.block_of_bad_map follows plain isMap ih
  | inItem reaches follows plain isList valid inside ih =>
      refine reaches.record_eq_error (map_of_error ?_ _)
      rw [← Reading.reverse_below_append, ← Reading.reverse_below_append]
      exact Decoder.block_of_bad_item follows plain isList valid ih

end ManagedCluster
