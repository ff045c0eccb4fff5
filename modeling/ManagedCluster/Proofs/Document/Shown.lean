import Mathlib.Data.List.Forall2
import ManagedCluster.Document.Record
import ManagedCluster.Proofs.Document.Entries
import ManagedCluster.Proofs.Document.Numerals

/-! # Nodes that show documents

What is read back is not always the tree that was written. A scalar of a YAML text keeps its form
and no type, and the entries of a JSON object come in key order. A node shows a document if this is
all in which they differ. Where a node shows what was written for a value, decoders read the value.
-/

namespace ManagedCluster

/-- The scalar is what can be read back of a written one. -/
inductive ShowsScalar : Scalar → Scalar → Prop
  | bool (value : Bool) : ShowsScalar (.bool value) (.bool value)
  | int (value : Int) : ShowsScalar (.int value) (.int value)
  | text (value : String) : ShowsScalar (.text value) (.text value)
  | writtenBool (value : Bool) : ShowsScalar (.written (toString value) .plain none) (.bool value)
  | writtenNat (value : Nat) : ShowsScalar (.written (toString value) .plain none) (.int value)
  | writtenText {form : String} {style : ScalarStyle}
      (isText : (Scalar.written form style none).resolve = .ok (.text form)) :
      ShowsScalar (.written form style none) (.text form)

/-- The node shows the document, with the entries of each map in any order. -/
inductive Shows : Document → Document → Prop
  | scalar {shown value : Scalar} (leaf : ShowsScalar shown value) :
      Shows (.scalar shown) (.scalar value)
  | list {nodes items : List Document} (each : List.Forall₂ Shows nodes items) :
      Shows (.list nodes) (.list items)
  | map {nodes arranged entries : List (Document × Document)} (order : nodes.Perm arranged)
      (keys : List.Forall₂ Shows (arranged.map (·.1)) (entries.map (·.1)))
      (values : List.Forall₂ Shows (arranged.map (·.2)) (entries.map (·.2))) :
      Shows (.map nodes) (.map entries)

/-- The node of an entry shows an entry. -/
def ShowsEntry (node entry : Document × Document) : Prop :=
  Shows node.1 entry.1 ∧ Shows node.2 entry.2

section Shows

variable {node document : Document} {nodes entries : List (Document × Document)}

theorem showsEntry_of_parts
    (keys : List.Forall₂ Shows (nodes.map (·.1)) (entries.map (·.1)))
    (values : List.Forall₂ Shows (nodes.map (·.2)) (entries.map (·.2))) :
    List.Forall₂ ShowsEntry nodes entries := by
  rw [List.forall₂_map_left_iff, List.forall₂_map_right_iff] at keys values
  induction keys with
  | nil => exact .nil
  | cons key _ ih =>
      cases values with
      | cons value values => exact .cons ⟨key, value⟩ (ih values)

theorem Shows.of_entries (each : List.Forall₂ ShowsEntry nodes entries) :
    Shows (.map nodes) (.map entries) := by
  refine .map (.refl _) ?_ ?_
  · rw [List.forall₂_map_left_iff, List.forall₂_map_right_iff]
    exact each.imp fun _ _ shows => shows.1
  · rw [List.forall₂_map_left_iff, List.forall₂_map_right_iff]
    exact each.imp fun _ _ shows => shows.2

/-- The entries of a map are shown one by one, in some order. -/
theorem Shows.entries_of_map (shows : Shows node (.map entries)) :
    ∃ nodes arranged, node = .map nodes ∧ List.Forall₂ ShowsEntry nodes arranged ∧
      arranged.Perm entries := by
  cases shows with
  | @map nodes _ _ order keys values =>
      obtain ⟨arranged, each, same⟩ :=
        List.perm_comp_forall₂ order (showsEntry_of_parts keys values)
      exact ⟨nodes, arranged, rfl, each, same⟩

end Shows

/-! ## A check for nodes of texts -/

/-- Whether a scalar of a text is seen to show a scalar. -/
def Scalar.isShownBy (value shown : Scalar) : Bool :=
  match shown, value with
  | .written form .plain none, .bool value => form == toString value
  | .written form .plain none, .int (.ofNat value) => form == toString value
  | .written form style none, .text value =>
    match (Scalar.written form style none).resolve with
    | .ok (.text meaning) => meaning == form && form == value
    | _ => false
  | _, _ => false

mutual

/-- Whether a node of a text is seen to show a document, with the same order of entries. -/
def Document.isShownBy (document node : Document) : Bool :=
  match document, node with
  | .scalar value, .scalar shown => value.isShownBy shown
  | .list items, .list nodes => itemsShownBy items nodes
  | .map entries, .map nodes => entriesShownBy entries nodes
  | _, _ => false

def Document.itemsShownBy (items nodes : List Document) : Bool :=
  match items, nodes with
  | [], [] => true
  | item :: items, node :: nodes => item.isShownBy node && itemsShownBy items nodes
  | _, _ => false

def Document.entriesShownBy (entries nodes : List (Document × Document)) : Bool :=
  match entries, nodes with
  | [], [] => true
  | (key, value) :: entries, (name, node) :: nodes =>
    key.isShownBy name && value.isShownBy node && entriesShownBy entries nodes
  | _, _ => false

end

theorem ShowsScalar.of_isShownBy {shown value : Scalar} (found : value.isShownBy shown = true) :
    ShowsScalar shown value := by
  unfold Scalar.isShownBy at found
  split at found
  · cases beq_iff_eq.mp found
    exact .writtenBool _
  · cases beq_iff_eq.mp found
    exact .writtenNat _
  · split at found
    · next isText =>
        obtain ⟨same, rfl⟩ := Bool.and_eq_true_iff.mp found |>.imp beq_iff_eq.mp beq_iff_eq.mp
        rw [same] at isText
        exact .writtenText isText
    · cases found
  · cases found

mutual

theorem Shows.of_isShownBy {document node : Document} (found : document.isShownBy node = true) :
    Shows node document := by
  match document, node with
  | .scalar _, .scalar _ => exact .scalar (.of_isShownBy found)
  | .list _, .list _ => exact .list (forall₂_shows_of_itemsShownBy found)
  | .map _, .map _ => exact .of_entries (forall₂_showsEntry_of_entriesShownBy found)

theorem forall₂_shows_of_itemsShownBy {items nodes : List Document}
    (found : Document.itemsShownBy items nodes = true) : List.Forall₂ Shows nodes items := by
  match items, nodes with
  | [], [] => exact .nil
  | _ :: _, _ :: _ =>
      obtain ⟨here, later⟩ := Bool.and_eq_true_iff.mp found
      exact .cons (.of_isShownBy here) (forall₂_shows_of_itemsShownBy later)

theorem forall₂_showsEntry_of_entriesShownBy {entries nodes : List (Document × Document)}
    (found : Document.entriesShownBy entries nodes = true) :
    List.Forall₂ ShowsEntry nodes entries := by
  match entries, nodes with
  | [], [] => exact .nil
  | (_, _) :: _, (_, _) :: _ =>
      obtain ⟨here, later⟩ := Bool.and_eq_true_iff.mp found
      obtain ⟨key, value⟩ := Bool.and_eq_true_iff.mp here
      exact .cons ⟨.of_isShownBy key, .of_isShownBy value⟩
        (forall₂_showsEntry_of_entriesShownBy later)

end

/-! ## Leaves -/

namespace Decoder

variable {reading : Reading} {node document : Document} {α : Type}

theorem follow_of_shows (shows : Shows node document) : reading.follow node = pure node := by
  cases shows <;> rfl

theorem textExpecting_of_shows {value expected : String} (shows : Shows node (.text value)) :
    textExpecting expected reading node = pure value := by
  cases shows with
  | scalar leaf => cases leaf <;> rfl

theorem text_of_shows {value : String} (shows : Shows node (.text value)) :
    text reading node = pure value :=
  textExpecting_of_shows shows

theorem bool_of_shows {value : Bool} (shows : Shows node (.bool value)) :
    bool reading node = pure value := by
  cases shows with
  | scalar leaf =>
      cases leaf with
      | bool => rfl
      | writtenBool => cases value <;> rfl

theorem integerOf?_of_shows {shown : Scalar} {value : Int} (leaf : ShowsScalar shown (.int value))
    (small : value < UInt64.size) : integerOf? shown = some value := by
  cases leaf with
  | int => rfl
  | writtenNat value =>
      have fits : value < UInt64.size := Int.ofNat_lt.mp small
      simp [integerOf?, formFor, Scalar.unsigned?_repr, fits]

theorem intBetween_of_shows {low high value : Int} {name : String} (shows : Shows node (.int value))
    (inside : low ≤ value ∧ value < high) (small : value < UInt64.size) :
    intBetween low high name reading node = pure value := by
  cases shows with
  | scalar leaf =>
      unfold intBetween
      rw [follow_of_shows (.scalar leaf), pure_bind]
      simp only [integerOf?_of_shows leaf small, inside, and_self, if_true]

theorem natBelow_of_shows {value bound : Nat} {name : String} (shows : Shows node (.nat value))
    (below : value < bound) (small : value < UInt64.size) :
    natBelow bound name reading node = pure value := by
  unfold natBelow
  rw [intBetween_of_shows shows (by omega) (by omega)]
  rfl

/-! ## Collections -/

/-- A form of null is the form of nothing else. -/
theorem noNull_of_shows {form : String} {value : Scalar}
    (leaf : ShowsScalar (.written form .plain none) value) :
    (form.isEmpty || Scalar.nullForms.contains form) = false := by
  rw [Bool.eq_false_iff]
  intro isNull
  generalize written : Scalar.written form .plain none = shown at leaf
  cases leaf with
  | bool | int | text => cases written
  | writtenBool value =>
      cases written
      revert isNull
      cases value <;> decide
  | writtenNat value =>
      cases written
      have noNumber : ∀ form ∈ "" :: Scalar.nullForms, Scalar.unsigned? form = none := by decide
      have member : value.repr ∈ "" :: Scalar.nullForms := by
        rw [Bool.or_eq_true, String.isEmpty_iff, List.contains_iff_mem] at isNull
        exact List.mem_cons.mpr isNull
      cases (Scalar.unsigned?_repr value).symm.trans (noNumber _ member)
  | writtenText isText =>
      cases written
      simp only [Scalar.resolve, if_true, Scalar.resolvePlain, isNull] at isText
      cases isText

/-- What is written of a value is never taken for a missing value. -/
theorem optional_of_shows {value : Decoder α} (shows : Shows node document) :
    optional value reading node = some <$> value reading node := by
  unfold optional
  rw [follow_of_shows shows, pure_bind]
  cases shows with
  | list | map => rfl
  | scalar leaf =>
      split
      · next null =>
          cases null
          cases leaf
      · next form plain =>
          cases plain
          simp only [noNull_of_shows leaf, Bool.false_eq_true, if_false]
      · next form tagged =>
          cases tagged
          cases leaf
      · rfl

theorem block_of_shows {name : String} {value : Decoder α} {entries : List (Document × Document)}
    (shows : Shows node (.map entries)) :
    block name value reading node = some <$> value reading node := by
  unfold block
  rw [follow_of_shows shows, pure_bind]
  cases shows with
  | map => rfl

theorem itemsFrom_of_shows {item : Decoder α} {write : α → Document}
    (reads : ∀ {value reading node}, Shows node (write value) → item reading node = pure value)
    {nodes : List Document} {values : List α} (each : List.Forall₂ Shows nodes (values.map write))
    (position : Nat) : itemsFrom item reading position nodes = pure values := by
  induction values generalizing nodes position with
  | nil =>
      cases each
      rfl
  | cons value values ih =>
      cases each with
      | cons first rest =>
          simp only [itemsFrom, reads first, ih rest, pure_bind]

theorem list_of_shows {item : Decoder α} {write : α → Document}
    (reads : ∀ {value reading node}, Shows node (write value) → item reading node = pure value)
    {values : List α} (shows : Shows node (.list (values.map write))) :
    list item reading node = pure values := by
  unfold list items
  rw [follow_of_shows shows, pure_bind]
  cases shows with
  | list each => simp only [Document.untagged, pure_bind, itemsFrom_of_shows reads each]

theorem entries_of_shows {expected : String} {nodes : List (Document × Document)} :
    entries expected reading (.map nodes) = pure nodes := rfl

/-- The entries of a map of texts, as they are written. -/
def textEntry (entry : String × String) : Document × Document := (.text entry.1, .text entry.2)

theorem textEntries_of_shows {nodes : List (Document × Document)} {shown : List (String × String)}
    (each : List.Forall₂ ShowsEntry nodes (shown.map textEntry)) (map : StringMap) :
    textEntries reading map nodes =
      pure (shown.foldl (fun map entry => map.insert entry.1 entry.2) map) := by
  induction shown generalizing nodes map with
  | nil =>
      cases each
      rfl
  | cons entry shown ih =>
      cases each with
      | cons first rest =>
          obtain ⟨key, content⟩ := first
          simp only [textEntries, text_of_shows key, text_of_shows content, pure_bind, ih rest,
            List.foldl_cons]

theorem stringMap_of_shows {map : StringMap}
    (shows : Shows node (.map (map.entries.map textEntry))) :
    stringMap reading node = pure map := by
  obtain ⟨nodes, arranged, rfl, each, order⟩ := shows.entries_of_map
  obtain ⟨shown, same, rfl⟩ := exists_perm_of_perm_map order
  unfold stringMap
  rw [entries_of_shows, pure_bind, textEntries_of_shows each]
  exact congrArg pure (StringMap.ofList_of_perm same)

end Decoder

end ManagedCluster
