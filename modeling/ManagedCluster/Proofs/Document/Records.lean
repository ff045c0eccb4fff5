import Mathlib.Data.List.Pairwise
import ManagedCluster.Proofs.Document.Faithful

/-! # Records that are read back

A record is put together from its fields in whatever order they come. Its codec is faithful if each
field restores its part of the record, different fields restore different parts, and all parts
together are the record.
-/

namespace ManagedCluster

variable {σ α : Type}

/-- Reading the field restores its part of a record, and the part of a field that is left out is
that of the default. -/
structure Field.Restores (field : Field σ) (default : σ) (restore : σ → σ → σ) : Prop where
  keyed : ∀ {record : σ} {document : Document}, field.write record = some document → Keyed document
  reads : ∀ {record : σ} {document node : Document} {reading : Reading},
    field.write record = some document → Shows node document →
    field.read reading node = pure (restore record)
  leftOut : ∀ {record : σ}, field.write record = none →
    field.required = false ∧ restore record default = default

namespace Field

variable {name : String} {codec : Codec α} {default : σ}

/-- A field is found by its name among fields with different names. -/
theorem find?_name {fields : List (Field σ)} (distinct : (fields.map (·.name)).Nodup)
    {field : Field σ} (member : field ∈ fields) :
    fields.find? (·.name == field.name) = some field := by
  induction fields with
  | nil => cases member
  | cons first rest ih =>
      rw [List.map_cons, List.nodup_cons] at distinct
      obtain ⟨new, distinct⟩ := distinct
      rw [List.find?_cons]
      rcases List.mem_cons.mp member with rfl | inRest
      · simp
      · have other : first.name ≠ field.name := by
          intro same
          rw [same] at new
          exact new (List.mem_map_of_mem inRest)
        rw [beq_eq_false_iff_ne.mpr other]
        exact ih distinct inRest

section Given

variable {get : σ → α} {set : α → σ → σ} (faithful : codec.Faithful)

include faithful

theorem mandatory_restores :
    (mandatory name codec get set).Restores default fun record => set (get record) where
  keyed := by
    intro record document written
    cases written
    exact faithful.keyed _
  reads := by
    intro record document node reading written shows
    cases written
    simp only [mandatory, faithful.reads shows, map_pure]
  leftOut := nofun

theorem defaulted_restores :
    (defaulted name codec get set).Restores default fun record => set (get record) where
  keyed := by
    intro record document written
    cases written
    exact faithful.keyed _
  reads := by
    intro record document node reading written shows
    cases written
    simp only [defaulted, faithful.reads shows, map_pure]
  leftOut := nofun

theorem unlessEmpty_restores {isEmpty : α → Bool}
    (empty : ∀ value, isEmpty value = true → set value default = default) :
    (unlessEmpty name codec isEmpty get set).Restores default fun record => set (get record) where
  keyed := by
    intro record document written
    obtain ⟨-, same⟩ := Option.ite_none_left_eq_some.mp written
    cases same
    exact faithful.keyed _
  reads := by
    intro record document node reading written shows
    obtain ⟨-, same⟩ := Option.ite_none_left_eq_some.mp written
    cases same
    simp only [unlessEmpty, faithful.reads shows, map_pure]
  leftOut := by
    intro record missing
    refine ⟨rfl, empty _ ?_⟩
    simpa [unlessEmpty] using missing

end Given

section Optional

variable {get : σ → Option α} {set : Option α → σ → σ} (faithful : codec.Faithful)
  (none : set none default = default)

include faithful none

theorem optional_restores :
    (optional name codec get set).Restores default fun record => set (get record) where
  keyed := by
    intro record document written
    obtain ⟨value, -, rfl⟩ := Option.map_eq_some_iff.mp written
    exact faithful.keyed value
  reads := by
    intro record document node reading written shows
    obtain ⟨value, present, rfl⟩ := Option.map_eq_some_iff.mp written
    simp only [optional, Decoder.optional_of_shows shows, faithful.reads shows, map_pure, present]
  leftOut := by
    intro record missing
    refine ⟨rfl, ?_⟩
    rw [Option.map_eq_none_iff.mp missing, none]

theorem block_restores (isMap : ∀ value, ∃ entries, codec.write value = .map entries) :
    (block name codec get set).Restores default fun record => set (get record) where
  keyed := by
    intro record document written
    obtain ⟨value, -, rfl⟩ := Option.map_eq_some_iff.mp written
    exact faithful.keyed value
  reads := by
    intro record document node reading written shows
    obtain ⟨value, present, rfl⟩ := Option.map_eq_some_iff.mp written
    obtain ⟨entries, same⟩ := isMap value
    have read : Decoder.block name codec.read reading node = some <$> codec.read reading node := by
      rw [same] at shows
      exact Decoder.block_of_shows shows
    simp only [block, read, faithful.reads shows, map_pure, present]
  leftOut := by
    intro record missing
    refine ⟨rfl, ?_⟩
    rw [Option.map_eq_none_iff.mp missing, none]

end Optional

end Field

theorem Decoder.record_of_entries {name : String} {fields : List (Field σ)} {default record : σ}
    {reading : Reading} {nodes : List (Document × Document)} {seen : List String}
    (read : recordEntries fields reading [] default nodes = pure (seen, record))
    (nothingMissing :
      fields.find? (fun field => field.required && !seen.contains field.name) = none) :
    Decoder.record name fields default reading (.map nodes) = pure record := by
  have here : reading.follow (.map nodes) = pure (.map nodes) := rfl
  unfold Decoder.record
  simp only [here, pure_bind]
  split
  · next isList => cases isList
  · simp only [entries_of_shows, read, pure_bind, nothingMissing]

/-- A field with how it restores its part of a record. -/
structure Part (default : σ) where
  field : Field σ
  restore : σ → σ → σ
  restores : field.Restores default restore

namespace Part

variable {default value : σ} {parts : List (Part default)}

/-- The part with what is written of it, unless it is left out. -/
def written? (value : σ) (part : Part default) : Option (Part default × Document) :=
  (part.field.write value).map (part, ·)

/-- The key of a part that is written. -/
def key (written : Part default × Document) : String := written.1.field.name

/-- The entry of a record for a part that is written. -/
def entry (written : Part default × Document) : Document × Document :=
  (.text (key written), written.2)

/-- The record with this part of another one. -/
def apply (value record : σ) (part : Part default) : σ := part.restore value record

/-- Fields that restore their parts are the fields of parts. -/
theorem exists_of_forall₂ {fields : List (Field σ)} {restores : List (σ → σ → σ)}
    (each : List.Forall₂ (·.Restores default ·) fields restores) :
    ∃ parts : List (Part default),
      parts.map (·.field) = fields ∧ parts.map (·.restore) = restores := by
  induction each with
  | nil => exact ⟨[], rfl, rfl⟩
  | @cons field restore _ _ first _ ih =>
      obtain ⟨parts, rfl, rfl⟩ := ih
      exact ⟨⟨field, restore, first⟩ :: parts, rfl, rfl⟩

theorem commute_of_pairwise
    (commute : (parts.map (·.restore)).Pairwise fun first second =>
      ∀ record, first value (second value record) = second value (first value record)) :
    ∀ a ∈ parts, ∀ b ∈ parts, ∀ record,
      a.restore value (b.restore value record) = b.restore value (a.restore value record) := by
  rw [List.pairwise_map] at commute
  have symmetric : Std.Symm fun a b : Part default => ∀ record,
      a.restore value (b.restore value record) = b.restore value (a.restore value record) :=
    ⟨fun _ _ same record => (same record).symm⟩
  intro a inParts b alsoInParts
  exact commute.forall_of_forall (fun _ _ _ => rfl) inParts alsoInParts

theorem written?_eq_some_iff {part : Part default} {written : Part default × Document} :
    part.written? value = some written ↔
      written.1 = part ∧ part.field.write value = some written.2 := by
  obtain ⟨other, document⟩ := written
  simp only [written?, Option.map_eq_some_iff, Prod.mk.injEq]
  constructor
  · intro found
    obtain ⟨_, present, rfl, rfl⟩ := found
    exact ⟨rfl, present⟩
  · intro found
    obtain ⟨rfl, present⟩ := found
    exact ⟨document, present, rfl, rfl⟩

theorem find?_name (distinct : (parts.map (·.field.name)).Nodup) {part : Part default}
    (member : part ∈ parts) :
    (parts.map (·.field)).find? (·.name == part.field.name) = some part.field := by
  refine Field.find?_name ?_ (List.mem_map_of_mem member)
  rw [List.map_map]
  exact distinct

/-- The entries of written parts restore these parts one after the other. -/
theorem recordEntries_of_shows {reading : Reading} {written : List (Part default × Document)}
    (distinct : (parts.map (·.field.name)).Nodup)
    (present : ∀ entry ∈ written, entry.1 ∈ parts ∧ entry.1.field.write value = some entry.2)
    {nodes : List (Document × Document)}
    (each : List.Forall₂ ShowsEntry nodes (written.map entry)) {seen : List String}
    (new : (written.map key ++ seen).Nodup) (record : σ) :
    Decoder.recordEntries (parts.map (·.field)) reading seen record nodes =
      pure ((written.map key).reverse ++ seen,
        (written.map (·.1)).foldl (apply value) record) := by
  induction written generalizing nodes seen record with
  | nil =>
      cases each
      rfl
  | cons first rest ih =>
      cases each with
      | @cons node _ nodes _ shows each =>
          obtain ⟨name, content⟩ := shows
          obtain ⟨here, later⟩ := List.forall_mem_cons.mp present
          obtain ⟨member, isWritten⟩ := here
          rw [List.map_cons, List.cons_append, List.nodup_cons] at new
          obtain ⟨notSeen, distinctRest⟩ := new
          have unseen : seen.contains first.1.field.name = false := by
            rw [← Bool.not_eq_true, List.contains_iff_mem]
            exact fun inSeen => notSeen (List.mem_append_right _ inSeen)
          have moved : (rest.map key ++ key first :: seen).Nodup := by
            rw [List.perm_middle.nodup_iff, List.nodup_cons]
            exact ⟨notSeen, distinctRest⟩
          have change : first.1.field.read (reading.below (Decoder.stepOf node.1)) node.2 =
              pure (first.1.restore value) := first.1.restores.reads isWritten content
          unfold Decoder.recordEntries
          simp only [Decoder.textExpecting_of_shows name, pure_bind, key,
            find?_name distinct member, unseen, change]
          have others := ih later each moved (apply value record first.1)
          simpa [key, apply] using others

theorem perm_filter_of_perm {written : List (Part default × Document)}
    (order : written.Perm (parts.filterMap (written? value))) :
    (written.map (·.1)).Perm (parts.filter fun part => (part.field.write value).isSome) := by
  have onlyParts : (parts.filterMap (written? value)).map (·.1) =
      parts.filter fun part => (part.field.write value).isSome := by
    rw [List.map_filterMap, ← List.filterMap_eq_filter]
    congr 1
    funext part
    cases present : part.field.write value <;> simp [written?, present, Option.guard]
  rw [← onlyParts]
  exact order.map (·.1)

/-- Parts that are as they were change nothing. -/
theorem foldl_apply_eq_self (same : ∀ part ∈ parts, part.restore value default = default) :
    parts.foldl (apply value) default = default := by
  induction parts with
  | nil => rfl
  | cons first rest ih =>
      obtain ⟨here, later⟩ := List.forall_mem_cons.mp same
      rw [List.foldl_cons, apply, here, ih later]

section Foldl

variable (commute : ∀ a ∈ parts, ∀ b ∈ parts, ∀ record,
    a.restore value (b.restore value record) = b.restore value (a.restore value record))

include commute

/-- The parts that are written make up the same record as all parts. -/
theorem foldl_apply_filter :
    (parts.filter fun part => (part.field.write value).isSome).foldl (apply value) default =
      parts.foldl (apply value) default := by
  have nothing : (parts.filter fun part => !(part.field.write value).isSome).foldl (apply value)
      default = default := by
    apply foldl_apply_eq_self
    intro part member
    obtain ⟨inParts, missing⟩ := List.mem_filter.mp member
    exact (part.restores.leftOut (by simpa using missing)).2
  have arranged : ((parts.filter fun part => !(part.field.write value).isSome) ++
      parts.filter fun part => (part.field.write value).isSome).Perm parts :=
    List.perm_append_comm.trans (List.filter_append_perm _ parts)
  calc (parts.filter fun part => (part.field.write value).isSome).foldl (apply value) default
      = (parts.filter fun part => (part.field.write value).isSome).foldl (apply value)
          ((parts.filter fun part => !(part.field.write value).isSome).foldl (apply value)
            default) := by rw [nothing]
    _ = ((parts.filter fun part => !(part.field.write value).isSome) ++
          parts.filter fun part => (part.field.write value).isSome).foldl (apply value) default :=
        List.foldl_append.symm
    _ = parts.foldl (apply value) default :=
        (arranged.symm.foldl_eq' (fun a ha b hb record => commute b hb a ha record) default).symm

theorem foldl_apply_of_perm {written : List (Part default × Document)}
    (order : written.Perm (parts.filterMap (written? value))) :
    (written.map (·.1)).foldl (apply value) default = parts.foldl (apply value) default := by
  have arranged := perm_filter_of_perm order
  have fromParts {part : Part default} (member : part ∈ written.map (·.1)) : part ∈ parts :=
    (List.mem_filter.mp (arranged.mem_iff.mp member)).1
  rw [arranged.foldl_eq' fun a ha b hb record =>
    commute b (fromParts hb) a (fromParts ha) record]
  exact foldl_apply_filter commute

end Foldl

end Part

namespace Codec

variable {name : String} {default : σ} {parts : List (Part default)}

theorem keyed_record (distinct : (parts.map (·.field.name)).Nodup) (value : σ) :
    Keyed ((record name (parts.map (·.field)) default).write value) := by
  refine .object ?_ ?_
  · have names : ((parts.map (·.field)).filterMap fun field =>
        (field.write value).map (field.name, ·)).map (·.1) =
        (parts.filter fun part => (part.field.write value).isSome).map (·.field.name) := by
      rw [List.filterMap_map, List.map_filterMap, ← List.filterMap_eq_filter, List.map_filterMap]
      congr 1
      funext part
      cases present : part.field.write value <;> simp [present, Option.guard]
    rw [names]
    exact distinct.sublist (List.filter_sublist.map _)
  · intro entry member
    obtain ⟨field, inFields, written⟩ := List.mem_filterMap.mp member
    obtain ⟨part, inParts, rfl⟩ := List.mem_map.mp inFields
    obtain ⟨document, present, rfl⟩ := Option.map_eq_some_iff.mp written
    exact part.restores.keyed present

theorem record_write (value : σ) :
    (record name (parts.map (·.field)) default).write value =
      .map ((parts.filterMap (Part.written? value)).map Part.entry) := by
  simp only [record, Document.object, List.filterMap_map, List.map_filterMap]
  congr 2
  funext part
  cases present : part.field.write value <;> simp [Part.written?, Part.entry, Part.key, present]

/-- Reading the written parts in any order gives the record. -/
theorem record_reads (distinct : (parts.map (·.field.name)).Nodup) {value : σ}
    (commute : ∀ a ∈ parts, ∀ b ∈ parts, ∀ record,
      a.restore value (b.restore value record) = b.restore value (a.restore value record))
    (whole : parts.foldl (Part.apply value) default = value)
    {written : List (Part default × Document)}
    (order : written.Perm (parts.filterMap (Part.written? value)))
    {nodes : List (Document × Document)} {reading : Reading}
    (each : List.Forall₂ ShowsEntry nodes (written.map Part.entry)) :
    (record name (parts.map (·.field)) default).read reading (.map nodes) = pure value := by
  have arranged := Part.perm_filter_of_perm order
  have present : ∀ entry ∈ written, entry.1 ∈ parts ∧ entry.1.field.write value = some entry.2 := by
    intro entry member
    obtain ⟨part, inParts, isWritten⟩ := List.mem_filterMap.mp (order.mem_iff.mp member)
    obtain ⟨rfl, isWritten⟩ := Part.written?_eq_some_iff.mp isWritten
    exact ⟨inParts, isWritten⟩
  have new : (written.map Part.key ++ []).Nodup := by
    have names := (arranged.map (·.field.name)).nodup_iff.mpr
      (distinct.sublist (List.filter_sublist.map _))
    rw [List.map_map] at names
    rw [List.append_nil]
    exact names
  have nothingMissing : (parts.map (·.field)).find? (fun field => field.required &&
      !((written.map Part.key).reverse ++ []).contains field.name) = none := by
    rw [List.find?_eq_none]
    intro field inFields
    obtain ⟨part, inParts, rfl⟩ := List.mem_map.mp inFields
    cases isWritten : part.field.write value with
    | none => simp [(part.restores.leftOut isWritten).1]
    | some document =>
        have inWritten : part ∈ written.map (·.1) :=
          arranged.mem_iff.mpr (List.mem_filter.mpr ⟨inParts, by simp [isWritten]⟩)
        obtain ⟨entry, member, rfl⟩ := List.mem_map.mp inWritten
        have seen : entry.1.field.name ∈ written.map Part.key := List.mem_map_of_mem member
        simp only [List.append_nil, List.contains_reverse, List.contains_iff_mem.mpr seen,
          Bool.not_true, Bool.and_false, Bool.false_eq_true, not_false_eq_true]
  have read : Decoder.recordEntries (parts.map (·.field)) reading [] default nodes =
      pure ((written.map Part.key).reverse ++ [],
        (written.map (·.1)).foldl (Part.apply value) default) :=
    Part.recordEntries_of_shows distinct present each new default
  rw [Part.foldl_apply_of_perm commute order, whole] at read
  exact Decoder.record_of_entries read nothingMissing

/-- A record is read back if each of its fields restores its part, no part depends on another, and
the parts make up the record. -/
theorem record_faithful {fields : List (Field σ)} {restores : List (σ → σ → σ)}
    (each : List.Forall₂ (·.Restores default ·) fields restores)
    (distinct : (fields.map (·.name)).Nodup)
    (commute : ∀ value, restores.Pairwise fun first second =>
      ∀ record, first value (second value record) = second value (first value record))
    (whole : ∀ value, restores.foldl (fun record restore => restore value record) default = value) :
    (record name fields default).Faithful := by
  obtain ⟨parts, rfl, rfl⟩ := Part.exists_of_forall₂ each
  rw [List.map_map] at distinct
  refine ⟨keyed_record distinct, ?_⟩
  intro value reading node shows
  rw [record_write] at shows
  obtain ⟨nodes, arranged, rfl, entries, order⟩ := shows.entries_of_map
  obtain ⟨written, same, rfl⟩ := exists_perm_of_perm_map order
  have made := whole value
  rw [List.foldl_map] at made
  exact record_reads distinct (Part.commute_of_pairwise (commute value)) made same entries

end Codec

end ManagedCluster
