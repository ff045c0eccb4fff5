import ManagedCluster.Proofs.Document.Faithful
import ManagedCluster.Proofs.Drift.Settable
import ManagedCluster.Report.Fields

/-! # What a patch names and what it carries

A patch is sent as a partial cluster with the list of the fields that apply. As a JSON value the
partial cluster has exactly the named fields as leaves, and each holds what is desired of it.
-/

namespace ManagedCluster

namespace PatchField

/-- The keys that lead to the field in the JSON value of a cluster. -/
def keys : PatchField → List String
  | labels => ["labels"]
  | workerCount => ["config", "workerConfig", "numInstances"]
  | preemptibleWorkerCount => ["config", "secondaryWorkerConfig", "numInstances"]

end PatchField

namespace Report

mutual

/-- The leaves of a JSON value below some keys, with the keys that lead to them. The labels are one
leaf, and so is an object without entries. -/
def leavesBelow (keys : List String) : Document → List (List String × Document)
  | .map entries =>
    if entries.isEmpty || keys == ["labels"] then [(keys, .map entries)]
    else entryLeaves keys entries
  | leaf => [(keys, leaf)]

def entryLeaves (keys : List String) : List (Document × Document) → List (List String × Document)
  | [] => []
  | (key, value) :: rest =>
    leavesBelow (keys ++ [Json.keyName key]) value ++ entryLeaves keys rest

end

/-- The leaves of the cluster as a JSON value. -/
def leaves (report : Report) : List (List String × Document) :=
  leavesBelow [] (Json.ofDocument (codec.write report))

theorem leavesBelow_object (keys : List String) (entries : List (String × Document)) :
    leavesBelow keys (.object entries) =
      if entries.isEmpty || keys == ["labels"] then [(keys, .object entries)]
      else entries.flatMap fun entry => leavesBelow (keys ++ [entry.1]) entry.2 := by
  rw [Document.object, leavesBelow, List.isEmpty_map]
  congr 1
  induction entries with
  | nil => rfl
  | cons entry rest ih =>
      rw [List.map_cons, entryLeaves, ih, List.flatMap_cons]
      rfl

theorem leavesBelow_labels (map : StringMap) :
    leavesBelow ["labels"] (Codec.stringMap.write map) =
      [(["labels"], Codec.stringMap.write map)] := by
  simp [Codec.stringMap, leavesBelow_object]

theorem ofDocument_countOnly (count : UInt32) :
    Json.ofDocument (Group.codec.write (Spec.countOnly count)) =
      .object [("numInstances", .nat count.toNat)] := rfl

/-- The config that a patch carries holds nothing but the numbers of instances. -/
theorem write_countsConfig {workers preemptible : Option UInt32} {config : Config}
    (counts : Spec.countsConfig workers preemptible = some config) :
    Config.codec.write config = .object (
      (workers.map fun count =>
        ("workerConfig", Group.codec.write (Spec.countOnly count))).toList ++
      (preemptible.map fun count =>
        ("secondaryWorkerConfig", Group.codec.write (Spec.countOnly count))).toList) := by
  cases workers <;> cases preemptible <;> cases counts <;> rfl

theorem leavesBelow_countsConfig {workers preemptible : Option UInt32} {config : Config}
    (counts : Spec.countsConfig workers preemptible = some config) :
    leavesBelow ["config"] (Json.ofDocument (Config.codec.write config)) =
      (preemptible.map fun count =>
        (PatchField.preemptibleWorkerCount.keys, Document.nat count.toNat)).toList ++
      (workers.map fun count =>
        (PatchField.workerCount.keys, Document.nat count.toNat)).toList := by
  have order : "secondaryWorkerConfig" < "workerConfig" := by decide
  rw [write_countsConfig counts]
  cases workers <;> cases preemptible <;> cases counts <;>
    simp [Json.ofDocument_entry, Json.ofDocument_decreasing _ _ order, ofDocument_countOnly,
      leavesBelow_object, leavesBelow, PatchField.keys]

theorem write_changes (labels : StringMap) (config : Option Config) :
    codec.write { labels := labels, config := config } =
      .object ((config.map fun config => ("config", Config.codec.write config)).toList ++
        if labels.isEmpty then [] else [("labels", Codec.stringMap.write labels)]) := by
  cases config <;> cases empty : labels.isEmpty <;>
    simp [codec, Codec.record, Field.unlessEmpty, Field.optional, Spec.mapField, empty]

/-- The entries of an object come in key order, so the leaves are those of the preemptible workers,
of the workers and of the labels. -/
theorem leaves_changes {labels : Option StringMap} {workers preemptible : Option UInt32}
    (own : ∀ map ∈ labels, map.isEmpty = false)
    (changes : labels.isSome ∨ workers.isSome ∨ preemptible.isSome) :
    leaves { labels := labels.getD .empty, config := Spec.countsConfig workers preemptible } =
      (preemptible.map fun count =>
        (PatchField.preemptibleWorkerCount.keys, Document.nat count.toNat)).toList ++
      (workers.map fun count => (PatchField.workerCount.keys, Document.nat count.toNat)).toList ++
      (labels.map fun map => (PatchField.labels.keys, Codec.stringMap.write map)).toList := by
  have order : "config" < "labels" := by decide
  have labelsEmpty : (labels.getD .empty).isEmpty = labels.isNone := by
    cases labels with
    | none => rfl
    | some map => exact own map rfl
  rw [leaves, write_changes, labelsEmpty]
  cases counts : Spec.countsConfig workers preemptible with
  | none =>
      cases workers <;> cases preemptible <;> cases counts
      cases labels with
      | none => simp at changes
      | some map =>
          simp [Json.ofDocument_entry, leavesBelow_object, Json.ofDocument_stringMap,
            leavesBelow_labels, PatchField.keys]
  | some config =>
      have below := leavesBelow_countsConfig counts
      cases labels with
      | none => simp [Json.ofDocument_entry, leavesBelow_object, below]
      | some map =>
          simp [Json.ofDocument_increasing _ _ order, leavesBelow_object, below,
            Json.ofDocument_stringMap, leavesBelow_labels, PatchField.keys]

end Report

namespace Spec

/-- What the spec says of a field, as a JSON value. Labels of the provider say nothing. -/
def fieldValue? (spec : Spec) : PatchField → Option Document
  | .labels =>
    if spec.userLabels.isEmpty then none else some (Codec.stringMap.write spec.userLabels)
  | .workerCount => spec.workerCount?.map fun count => .nat count.toNat
  | .preemptibleWorkerCount => spec.preemptibleWorkerCount?.map fun count => .nat count.toNat

/-- Two specs that differ in nothing that a patch looks at. -/
structure SameFields (spec twin : Spec) : Prop where
  userLabels : twin.userLabels = spec.userLabels
  workerCount : twin.workerCount? = spec.workerCount?
  preemptibleWorkerCount : twin.preemptibleWorkerCount? = spec.preemptibleWorkerCount?

end Spec

/-- The patch carries what it names, as the desired spec has it, and nothing else. -/
structure Patch.Carries (patch : Patch) (desired : Spec) : Prop where
  notEmpty : patch.fields ≠ []
  /-- In a fixed order, each field at most once. -/
  ordered : patch.fields.Sublist PatchField.all
  distinct : patch.fields.Nodup
  leaves : (patch.cluster.leaves.map fun leaf => (leaf.1, some leaf.2)).Perm
    (patch.fields.map fun field => (field.keys, desired.fieldValue? field))
  noEmptyObject : ∀ leaf ∈ patch.cluster.leaves, leaf.2 ≠ .object []

namespace Spec

variable {prior desired : Spec}

theorem changed?_eq_some {α : Type} [DecidableEq α] {prior desired : Option α} {value : α}
    (changes : changed? prior desired = some value) : desired = some value := by
  unfold changed? at changes
  split at changes
  · cases changes
  · exact changes

theorem changedLabels?_eq_some {labels : StringMap}
    (changes : changedLabels? prior desired = some labels) :
    desired.userLabels = labels ∧ labels.isEmpty = false := by
  unfold changedLabels? at changes
  split at changes
  · cases changes
  · next changed =>
    cases changes
    rw [Bool.not_eq_true, Bool.or_eq_false_iff] at changed
    exact ⟨rfl, changed.1⟩

theorem eq_of_patch? {patch : Patch} (due : prior.patch? desired = some patch) :
    let labels := changedLabels? prior desired
    let workers := changed? prior.workerCount? desired.workerCount?
    let preemptible := changed? prior.preemptibleWorkerCount? desired.preemptibleWorkerCount?
    patch.fields = (labels.map fun _ => PatchField.labels).toList ++
      (workers.map fun _ => PatchField.workerCount).toList ++
      (preemptible.map fun _ => PatchField.preemptibleWorkerCount).toList ∧
    patch.fields ≠ [] ∧
    patch.cluster =
      { labels := labels.getD .empty, config := countsConfig workers preemptible } := by
  unfold patch? at due
  simp only at due
  split at due
  · cases due
  · next named =>
    cases due
    exact ⟨rfl, by simpa using named, rfl⟩

/-- One field of a patch, with the value that the desired spec has for it. -/
theorem map_field_of_change {α : Type} {change : Option α} {field : PatchField}
    {write : α → Document}
    (desiredValue : ∀ value, change = some value →
      desired.fieldValue? field = some (write value)) :
    ((change.map fun _ => field).toList.map fun field =>
        (field.keys, desired.fieldValue? field)).reverse =
      (change.map fun value => (field.keys, write value)).toList.map fun leaf =>
        (leaf.1, some leaf.2) := by
  cases change with
  | none => rfl
  | some value => simp [desiredValue value rfl]

theorem leaves_of_patch? {patch : Patch} (due : prior.patch? desired = some patch) :
    patch.cluster.leaves.map (fun leaf => (leaf.1, some leaf.2)) =
      (patch.fields.map fun field => (field.keys, desired.fieldValue? field)).reverse := by
  obtain ⟨fields, named, cluster⟩ := eq_of_patch? due
  have changes : (changedLabels? prior desired).isSome ∨
      (changed? prior.workerCount? desired.workerCount?).isSome ∨
      (changed? prior.preemptibleWorkerCount? desired.preemptibleWorkerCount?).isSome := by
    by_contra unchanged
    simp only [not_or, Option.not_isSome_iff_eq_none] at unchanged
    obtain ⟨labels, workers, preemptible⟩ := unchanged
    exact named (by simp [fields, labels, workers, preemptible])
  have own : ∀ map ∈ changedLabels? prior desired, map.isEmpty = false := fun map change =>
    (changedLabels?_eq_some change).2
  rw [cluster, Report.leaves_changes own changes, fields]
  simp only [List.map_append, List.reverse_append, List.append_assoc]
  rw [map_field_of_change fun map change => ?_, map_field_of_change fun count change => ?_,
    map_field_of_change fun count change => ?_]
  · obtain ⟨same, notEmpty⟩ := changedLabels?_eq_some change
    simp [fieldValue?, same, notEmpty]
  · simp [fieldValue?, changed?_eq_some change]
  · simp [fieldValue?, changed?_eq_some change]

/-- Where a spec says something of a field, it is a number or it has entries. -/
theorem fieldValue?_ne_empty (field : PatchField) :
    desired.fieldValue? field ≠ some (.object []) := by
  cases field with
  | labels =>
      cases empty : desired.userLabels.isEmpty with
      | true => simp [fieldValue?, empty]
      | false =>
          have entries : desired.userLabels.entries ≠ [] := List.isEmpty_eq_false_iff.mp empty
          simp [fieldValue?, empty, Codec.stringMap, Document.object, entries]
  | workerCount | preemptibleWorkerCount => simp [fieldValue?, Document.object]

theorem carries_of_patch? {patch : Patch} (due : prior.patch? desired = some patch) :
    patch.Carries desired := by
  have leaves := leaves_of_patch? due
  obtain ⟨fields, named, -⟩ := eq_of_patch? due
  have ordered : patch.fields.Sublist PatchField.all := by
    have all := fields_patch? prior desired
    rw [due] at all
    simp only [Option.map_some, Option.getD_some] at all
    exact all ▸ List.filter_sublist
  refine ⟨named, ordered, ordered.nodup (by decide), ?_, ?_⟩
  · rw [leaves]
    exact List.reverse_perm _
  · intro leaf member
    have carried : (leaf.1, some leaf.2) ∈
        (patch.fields.map fun field => (field.keys, desired.fieldValue? field)).reverse := by
      rw [← leaves]
      exact List.mem_map_of_mem member
    obtain ⟨field, -, same⟩ := List.mem_map.mp (List.mem_reverse.mp carried)
    intro empty
    exact fieldValue?_ne_empty field (by rw [← empty, (Prod.mk.inj same).2])

/-- A patch carries exactly what it names, for which only the labels of the user and the numbers of
workers count. Nothing is patched to make a spec of itself. -/
theorem patch?_carries (prior desired : Spec) :
    (∀ patch, prior.patch? desired = some patch → patch.Carries desired) ∧
    (∀ priorTwin desiredTwin, prior.SameFields priorTwin → desired.SameFields desiredTwin →
      priorTwin.patch? desiredTwin = prior.patch? desired) ∧
    desired.patch? desired = none := by
  refine ⟨fun patch due => carries_of_patch? due, ?_, ?_⟩
  · intro priorTwin desiredTwin samePrior sameDesired
    have labels : changedLabels? priorTwin desiredTwin = changedLabels? prior desired := by
      rw [changedLabels?, samePrior.userLabels, sameDesired.userLabels, changedLabels?]
    rw [patch?, labels, samePrior.workerCount, samePrior.preemptibleWorkerCount,
      sameDesired.workerCount, sameDesired.preemptibleWorkerCount, patch?]
  · exact patch?_eq_none_iff.mpr ⟨by simp [changedLabels?], by simp [changed?], by simp [changed?]⟩

/-- A cluster with workers, and a label of the provider. -/
def crewed : Spec where
  name := "etl"
  labels := .ofList [("env", "prod"), ("goog-dataproc-location", "europe-west1")]
  config := some { worker := some { numInstances := some 2 } }

/-- The same crew elsewhere. -/
def crewedElsewhere : Spec where
  name := "batch"
  labels := .ofList [("env", "prod"), ("goog-dataproc-location", "us-east1")]
  config := some {
    stagingBucket := some "data"
    worker := some { numInstances := some 2, machineType := some "n1-standard-4" } }

/-- The cluster without workers, and with another label. -/
def uncrewed : Spec where
  name := "etl"
  labels := .ofList [("env", "test"), ("goog-dataproc-location", "us-east1")]
  config := some { worker := some { numInstances := some 0 } }

def uncrewing : Patch where
  fields := [.labels, .workerCount]
  cluster := {
    labels := .ofList [("env", "test")]
    config := some { worker := some { numInstances := some 0 } } }

theorem patch?_carries_uncrewing :
    crewed.patch? uncrewed = some uncrewing ∧ uncrewing.Carries uncrewed ∧
    crewed.SameFields crewedElsewhere ∧ uncrewed.SameFields uncrewed ∧
    crewedElsewhere.patch? uncrewed = some uncrewing := by
  have due : crewed.patch? uncrewed = some uncrewing := by decide +kernel
  have samePrior : crewed.SameFields crewedElsewhere :=
    ⟨by decide +kernel, by decide +kernel, by decide +kernel⟩
  have sameDesired : uncrewed.SameFields uncrewed := ⟨rfl, rfl, rfl⟩
  obtain ⟨carries, twins, -⟩ := patch?_carries crewed uncrewed
  exact ⟨due, carries uncrewing due, samePrior, sameDesired,
    (twins crewedElsewhere uncrewed samePrior sameDesired).trans due⟩

end Spec

end ManagedCluster
