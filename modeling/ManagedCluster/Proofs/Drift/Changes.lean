import ManagedCluster.Proofs.Drift.Settable

/-! # Changes to what is asked for

Values are set in a spec for any attributes at once, and the blocks around them are made where they
are missing. Of a spec that asks for nothing new, the two diffs then see exactly what was set to
something else: each change once, and in the diff that it belongs to.
-/

namespace ManagedCluster

namespace Spec

/-- Values for some of the attributes. -/
structure Changes where
  value : (a : Settable) → Option a.Value
  isSet : ∀ a v, value a = some v → a.IsSet v

/-- The block after an edit. A missing one is made if the edit puts something into it. -/
def editBlock {α : Type} [DecidableEq α] (empty : α) (edit : α → α) : Option α → Option α
  | some block => some (edit block)
  | none => if edit empty = empty then none else some (edit empty)

theorem bind_editBlock {α β : Type} [DecidableEq α] {empty : α} {edit : α → α}
    {read : α → Option β} {change : Option β}
    (edits : ∀ block, read (edit block) = change.or (read block)) (nothing : read empty = none)
    (block : Option α) :
    (editBlock empty edit block).bind read = change.or (block.bind read) := by
  cases block with
  | some block => exact edits block
  | none =>
      have made := edits empty
      rw [nothing, Option.or_none] at made
      by_cases same : edit empty = empty
      · rw [editBlock, if_pos same, ← made, same, nothing]
        rfl
      · rw [editBlock, if_neg same, Option.bind_some, made, Option.bind_none, Option.or_none]

theorem getD_map_editBlock {α β : Type} [DecidableEq α] {empty : α} {edit : α → α}
    {read : α → β} {change : Option β}
    (edits : ∀ block, read (edit block) = change.getD (read block)) (block : Option α) :
    ((editBlock empty edit block).map read).getD (read empty) =
      change.getD ((block.map read).getD (read empty)) := by
  cases block with
  | some block => exact edits block
  | none =>
      by_cases same : edit empty = empty
      · have kept := edits empty
        rw [same] at kept
        rw [editBlock, if_pos same]
        exact kept
      · rw [editBlock, if_neg same]
        exact edits empty

def editDisk (localSsds bootDisk : Option UInt32) (disk : Disk) : Disk where
  numLocalSsds := localSsds.or disk.numLocalSsds
  bootDiskSizeGb := bootDisk.or disk.bootDiskSizeGb

def editGroup (count : Option UInt32) (machineType : Option String)
    (localSsds bootDisk : Option UInt32) (group : Group) : Group :=
  { group with
    numInstances := count.or group.numInstances
    machineType := machineType.or group.machineType
    disk := editBlock {} (editDisk localSsds bootDisk) group.disk }

section Disks

variable (count : Option UInt32) (machineType : Option String) (ssds size : Option UInt32)
  (group : Group)

theorem localSsds_editGroup :
    (editGroup count machineType ssds size group).disk.bind (·.numLocalSsds) =
      ssds.or (group.disk.bind (·.numLocalSsds)) := by
  apply bind_editBlock
  · exact fun _ => rfl
  · rfl

theorem bootDisk_editGroup :
    (editGroup count machineType ssds size group).disk.bind (·.bootDiskSizeGb) =
      size.or (group.disk.bind (·.bootDiskSizeGb)) := by
  apply bind_editBlock
  · exact fun _ => rfl
  · rfl

end Disks

namespace Changes

variable (changes : Changes)

def editGce (gce : Gce) : Gce where
  zone := (changes.value (.fixed .zone)).or gce.zone
  network := (changes.value (.fixed .network)).or gce.network
  subnetwork := (changes.value (.fixed .subnetwork)).or gce.subnetwork
  tags := (changes.value (.fixed .tags)).getD gce.tags
  serviceAccount := (changes.value (.fixed .serviceAccount)).or gce.serviceAccount
  serviceAccountScopes :=
    (changes.value (.fixed .serviceAccountScopes)).getD gce.serviceAccountScopes

def editMaster : Group → Group :=
  editGroup (changes.value (.fixed .masterCount)) (changes.value (.fixed .masterMachineType))
    (changes.value (.fixed .masterLocalSsds)) (changes.value (.fixed .masterBootDisk))

def editWorker : Group → Group :=
  editGroup (changes.value (.field .workerCount)) (changes.value (.fixed .workerMachineType))
    (changes.value (.fixed .workerLocalSsds)) (changes.value (.fixed .workerBootDisk))

def editPreemptibleDisk (disk : PreemptibleDisk) : PreemptibleDisk where
  bootDiskSizeGb := (changes.value (.fixed .preemptibleBootDisk)).or disk.bootDiskSizeGb

def editPreemptibleWorker (group : PreemptibleGroup) : PreemptibleGroup :=
  { group with
    numInstances := (changes.value (.field .preemptibleWorkerCount)).or group.numInstances
    disk := editBlock {} changes.editPreemptibleDisk group.disk }

def editSoftware (software : Software) : Software :=
  { software with
    imageVersion := (changes.value (.fixed .imageVersion)).or software.imageVersion
    overrideProperties :=
      (changes.value (.fixed .overrideProperties)).getD software.overrideProperties }

def editConfig (config : Config) : Config :=
  { config with
    deleteAutogenBucket := (changes.value .deleteAutogenBucket).getD config.deleteAutogenBucket
    stagingBucket := (changes.value (.fixed .stagingBucket)).or config.stagingBucket
    gce := editBlock {} changes.editGce config.gce
    master := editBlock {} changes.editMaster config.master
    worker := editBlock {} changes.editWorker config.worker
    preemptibleWorker := editBlock {} changes.editPreemptibleWorker config.preemptibleWorker
    software := editBlock {} changes.editSoftware config.software
    initializationActions :=
      (changes.value (.fixed .initializationActions)).getD config.initializationActions }

/-- The spec with the values set, and with the blocks that they are in. -/
def apply (spec : Spec) : Spec where
  name := (changes.value (.fixed .name)).getD spec.name
  project := (changes.value (.fixed .project)).or spec.project
  region := (changes.value (.fixed .region)).getD spec.region
  labels := (changes.value (.field .labels)).getD spec.labels
  config := editBlock {} changes.editConfig spec.config

end Changes

theorem nonEmpty_getD {α : Type} {change : Option (List α)} {items : List α}
    (set : ∀ value, change = some value → value ≠ []) :
    nonEmpty (change.getD items) = change.or (nonEmpty items) := by
  cases change with
  | none => rfl
  | some value => exact if_neg (by simpa using set value rfl)

theorem nonEmptyMap_getD {change : Option StringMap} {map : StringMap}
    (set : ∀ value, change = some value → value ≠ .empty) :
    nonEmptyMap (change.getD map) = change.or (nonEmptyMap map) := by
  cases change with
  | none => rfl
  | some value => exact if_neg fun empty => set value rfl (StringMap.isEmpty_iff.mp empty)

section Asked

variable (changes : Changes) (spec : Spec)

theorem bootDisk_editPreemptibleWorker (group : PreemptibleGroup) :
    (changes.editPreemptibleWorker group).disk.bind (·.bootDiskSizeGb) =
      (changes.value (.fixed .preemptibleBootDisk)).or (group.disk.bind (·.bootDiskSizeGb)) := by
  apply bind_editBlock
  · exact fun _ => rfl
  · rfl

theorem bind_apply {β : Type} {read : Config → Option β} {change : Option β}
    (edits : ∀ config, read (changes.editConfig config) = change.or (read config))
    (nothing : read {} = none) :
    (changes.apply spec).config.bind read = change.or (spec.config.bind read) :=
  bind_editBlock edits nothing spec.config

/-- An attribute of a block in the config is set in the block that it is in. -/
theorem bind_bind_apply {α β : Type} [DecidableEq α] {part : Config → Option α} {empty : α}
    {edit : α → α} {read : α → Option β} {change : Option β}
    (inPart : ∀ config, part (changes.editConfig config) = editBlock empty edit (part config))
    (noPart : part {} = none) (edits : ∀ block, read (edit block) = change.or (read block))
    (nothing : read empty = none) :
    ((changes.apply spec).config.bind part).bind read =
      change.or ((spec.config.bind part).bind read) := by
  rw [Option.bind_assoc, Option.bind_assoc]
  apply bind_apply
  · intro config
    rw [inPart]
    exact bind_editBlock edits nothing (part config)
  · rw [noPart, Option.bind_none]

theorem disk_apply {α β γ : Type} [DecidableEq α] {part : Config → Option α}
    {disk : α → Option β} {empty : α} {edit : α → α} {read : β → Option γ} {change : Option γ}
    (inPart : ∀ config, part (changes.editConfig config) = editBlock empty edit (part config))
    (noPart : part {} = none)
    (edits : ∀ block, (disk (edit block)).bind read = change.or ((disk block).bind read))
    (nothing : (disk empty).bind read = none) :
    (((changes.apply spec).config.bind part).bind disk).bind read =
      change.or (((spec.config.bind part).bind disk).bind read) := by
  rw [Option.bind_assoc _ disk read, Option.bind_assoc _ disk read]
  exact bind_bind_apply changes spec inPart noPart edits nothing

theorem asked_labels_apply :
    (changes.apply spec).asked (.field .labels) =
      (changes.value (.field .labels)).or (spec.asked (.field .labels)) := by
  cases found : changes.value (.field .labels) with
  | none =>
      simp only [asked, userLabels, Changes.apply, found, Option.getD_none, Option.none_or]
      rfl
  | some labels =>
      have own : (labels.filterKeys (!isProviderLabel ·)).isEmpty ≠ true :=
        mt StringMap.isEmpty_iff.mp (changes.isSet _ labels found)
      simp only [asked, userLabels, Changes.apply, found, Option.getD_some, if_neg own,
        Option.some_or]

/-- What is asked for is what was set, and what was asked for before where nothing was set. -/
theorem asked_apply (a : Settable) :
    (changes.apply spec).asked a = (changes.value a).or (spec.asked a) := by
  -- each attribute is read where its value was put, through the blocks around it
  cases a with
  | fixed a =>
      cases a with
      | name | region => exact Option.or_some.symm
      | project => rfl
      | stagingBucket =>
          apply bind_apply
          · exact fun _ => rfl
          · rfl
      | initializationActions =>
          apply bind_apply
          · exact fun _ => nonEmpty_getD (changes.isSet (.fixed .initializationActions))
          · rfl
      | zone | network | subnetwork | serviceAccount | masterCount | masterMachineType
      | workerMachineType | imageVersion =>
          exact bind_bind_apply changes spec (fun _ => rfl) rfl (fun _ => rfl) rfl
      | tags =>
          exact bind_bind_apply changes spec (fun _ => rfl) rfl
            (fun _ => nonEmpty_getD (changes.isSet (.fixed .tags))) rfl
      | serviceAccountScopes =>
          exact bind_bind_apply changes spec (fun _ => rfl) rfl
            (fun _ => nonEmpty_getD (changes.isSet (.fixed .serviceAccountScopes))) rfl
      | overrideProperties =>
          exact bind_bind_apply changes spec (fun _ => rfl) rfl
            (fun _ => nonEmptyMap_getD (changes.isSet (.fixed .overrideProperties))) rfl
      | masterLocalSsds | workerLocalSsds =>
          simp only [asked, localSsds_eq_bind]
          exact disk_apply changes spec (fun _ => rfl) rfl (localSsds_editGroup _ _ _ _) rfl
      | masterBootDisk | workerBootDisk =>
          simp only [asked, bootDisk_eq_bind]
          exact disk_apply changes spec (fun _ => rfl) rfl (bootDisk_editGroup _ _ _ _) rfl
      | preemptibleBootDisk =>
          exact disk_apply changes spec (fun _ => rfl) rfl
            (bootDisk_editPreemptibleWorker changes) rfl
  | field f =>
      cases f with
      | labels => exact asked_labels_apply changes spec
      | workerCount | preemptibleWorkerCount =>
          exact bind_bind_apply changes spec (fun _ => rfl) rfl (fun _ => rfl) rfl
  | deleteAutogenBucket =>
      refine (congrArg some ?_).trans Option.or_some.symm
      apply getD_map_editBlock
      exact fun _ => rfl

end Asked

section Detected

variable {prior desired : Spec} (changes : Changes)

/-- A diff that sees whatever is asked for and does not agree sees what is set to something else,
and nothing else if it saw nothing before. -/
theorem detected_apply {a : Settable} {detected : Spec → Bool}
    (sees : ∀ spec, detected spec = false ↔
      ∀ value, spec.asked a = some value → prior.Agrees a value)
    (differ : ∀ value, changes.value a = some value → ¬ prior.Agrees a value)
    (before : detected desired = false) :
    detected (changes.apply desired) = (changes.value a).isSome := by
  cases change : changes.value a with
  | none =>
      apply (sees _).mpr
      intro value asked
      rw [asked_apply, change, Option.none_or] at asked
      exact (sees desired).mp before value asked
  | some value =>
      rw [Option.isSome_some, ← Bool.not_eq_false]
      intro unseen
      apply differ value change
      apply (sees _).mp unseen
      rw [asked_apply, change, Option.some_or]

/-- Where values that do not agree with a prior spec are set in a spec that asks for nothing new,
the attributes that need a new cluster are listed, each once and in order, and the patch has the
fields that can change on a running one. -/
theorem replacements_and_fields_apply (kept : prior.replacements desired = [])
    (nothing : prior.patch? desired = none)
    (differ : ∀ a value, changes.value a = some value → ¬ prior.Agrees a value) :
    prior.replacements (changes.apply desired) =
        Attribute.all.filter (fun a => (changes.value (.fixed a)).isSome) ∧
    ((prior.replacements (changes.apply desired)).map Attribute.path).Nodup ∧
    ((prior.patch? (changes.apply desired)).map (·.fields)).getD [] =
        PatchField.all.filter (fun f => (changes.value (.field f)).isSome) := by
  have drifted : ∀ a, prior.hasDrifted (changes.apply desired) a =
      (changes.value (.fixed a)).isSome := by
    intro a
    exact detected_apply changes (fun spec => hasDrifted_eq_false_iff a) (differ (.fixed a))
      (replacements_eq_nil_iff.mp kept a)
  have patched : ∀ f, prior.isPatched (changes.apply desired) f =
      (changes.value (.field f)).isSome := by
    intro f
    exact detected_apply changes (fun spec => isPatched_eq_false_iff f) (differ (.field f))
      (isPatched_of_patch?_eq_none nothing f)
  refine ⟨?_, ?_, ?_⟩
  · exact List.filter_congr fun a _ => drifted a
  · exact List.Nodup.sublist (List.filter_sublist.map Attribute.path) Attribute.nodup_map_path
  · rw [fields_patch?]
    exact List.filter_congr fun f _ => patched f

end Detected

def placed : Spec where
  name := "etl"
  project := some "analytics"
  region := "europe-west1"
  config := some {
    gce := some { zone := some "europe-west1-b" }
    worker := some { numInstances := some 2 } }

/-- Another zone, more workers, and some of what the spec did not ask for. -/
def moved : Changes where
  value
    | .fixed .zone => some "zones/europe-west1-c"
    | .fixed .tags => some ["batch"]
    | .fixed .imageVersion => some "1.4"
    | .field .labels => some (.ofList [("team", "data")])
    | .field .workerCount => some 10
    | _ => none
  isSet := by
    intro a v set
    cases a with
    | fixed a => cases a <;> cases set <;> simp [Settable.IsSet]
    | field f => cases f <;> cases set <;> simp [Settable.IsSet]; decide +kernel
    | deleteAutogenBucket => cases set

theorem moved_differs (a : Settable) (value : a.Value) (change : moved.value a = some value) :
    ¬ placed.Agrees a value := by
  cases a with
  | fixed a =>
      cases a <;> cases change
      · rintro ⟨found, ⟨⟩, same⟩
        revert same
        unfold SameSegment
        decide +kernel
      · intro agrees
        cases agrees
      · rintro ⟨found, ⟨⟩, _⟩
  | field f =>
      cases f <;> cases change
      · unfold Agrees
        decide +kernel
      · unfold Agrees
        decide +kernel
  | deleteAutogenBucket => cases change

theorem replacements_and_fields_apply_moved :
    placed.replacements placed = [] ∧ placed.patch? placed = none ∧
    (∀ a value, moved.value a = some value → ¬ placed.Agrees a value) ∧
    placed.replacements (moved.apply placed) = [.zone, .tags, .imageVersion] ∧
    ((placed.patch? (moved.apply placed)).map (·.fields)).getD [] = [.labels, .workerCount] := by
  have kept : placed.replacements placed = [] := by decide +kernel
  have nothing : placed.patch? placed = none := by decide +kernel
  obtain ⟨drift, -, mask⟩ := replacements_and_fields_apply moved kept nothing moved_differs
  exact ⟨kept, nothing, moved_differs, drift, mask⟩

end Spec

end ManagedCluster
