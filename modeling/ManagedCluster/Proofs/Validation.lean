import ManagedCluster.Proofs.Reflection.Basic
import ManagedCluster.Proofs.Validation.Name

/-! # What the rules for specs find

Each rule that a spec breaks is said here without regard to the others. The checks find exactly
these, in one order, and a spec that breaks none is sent if its project is known.
-/

namespace ManagedCluster

namespace Spec

/-- The size of a boot disk is set, under this path. -/
inductive HasBootDisk (spec : Spec) : String → UInt32 → Prop
  | master {group : Group} {disk : Disk} {size : UInt32} (inSpec : spec.master? = some group)
      (inGroup : group.disk = some disk) (isSet : disk.bootDiskSizeGb = some size) :
      HasBootDisk spec "cluster_config.master_config.disk_config.boot_disk_size_gb" size
  | worker {group : Group} {disk : Disk} {size : UInt32} (inSpec : spec.worker? = some group)
      (inGroup : group.disk = some disk) (isSet : disk.bootDiskSizeGb = some size) :
      HasBootDisk spec "cluster_config.worker_config.disk_config.boot_disk_size_gb" size
  | preemptible {group : PreemptibleGroup} {disk : PreemptibleDisk} {size : UInt32}
      (inSpec : spec.preemptibleWorker? = some group) (inGroup : group.disk = some disk)
      (isSet : disk.bootDiskSizeGb = some size) :
      HasBootDisk spec "cluster_config.preemptible_worker_config.disk_config.boot_disk_size_gb" size

/-- The spec breaks a rule. -/
inductive Breaks (spec : Spec) : Violation → Prop
  | tooLong (long : 55 < spec.name.utf8ByteSize) : Breaks spec (.tooLong spec.name.utf8ByteSize)
  | badName (mismatch : spec.name.toList ∉ Pattern.clusterName.language) : Breaks spec .badName
  | conflict {gce : Gce} {network subnetwork : String} (inSpec : spec.gce? = some gce)
      (isNetwork : gce.network = some network) (isSubnetwork : gce.subnetwork = some subnetwork) :
      Breaks spec (.conflict .network .subnetwork)
  | missingZone (isGlobal : spec.region = "global")
      (noZone : ∀ gce zone, spec.gce? = some gce → gce.zone = some zone → zone = "") :
      Breaks spec (.missingZone "global")
  | tooSmall {path : String} {size : UInt32} (isSet : spec.HasBootDisk path size)
      (small : size < 10) : Breaks spec (.tooSmall path size)

end Spec

/-- The place of a rule among the rules. -/
def Violation.place : Violation → Nat
  | tooLong _ => 0
  | badName => 1
  | conflict _ _ => 2
  | missingZone _ => 3
  | tooSmall path _ =>
    4 + [Spec.Attribute.masterBootDisk, .workerBootDisk, .preemptibleBootDisk].findIdx
      (·.path == path)

namespace Spec

/-- The violations are those of the broken rules, each once, in the order of the rules. -/
structure Lists (spec : Spec) (found : List Violation) : Prop where
  exact : ∀ violation, violation ∈ found ↔ spec.Breaks violation
  ordered : found.Pairwise fun earlier later => earlier.place < later.place

variable {spec : Spec} {found : List Violation}

theorem hasConflict_iff :
    spec.hasConflict = true ↔ ∃ gce network subnetwork, spec.gce? = some gce ∧
      gce.network = some network ∧ gce.subnetwork = some subnetwork := by
  simp only [hasConflict, Option.any_eq_true, Bool.and_eq_true, Option.isSome_iff_exists]
  grind

theorem hasZone_eq_false_iff :
    spec.hasZone = false ↔
      ∀ gce zone, spec.gce? = some gce → gce.zone = some zone → zone = "" := by
  simp only [hasZone, ← Bool.not_eq_true, Option.any_eq_true, Option.bind_eq_some_iff]
  simp only [Bool.not_eq_true, Bool.not_eq_false', not_exists, not_and, forall_exists_index,
    and_imp, String.isEmpty_iff]
  grind

theorem mem_bootDisks_iff {disk : Attribute} {size : Option UInt32} :
    (disk, size) ∈ spec.bootDisks ↔
      (disk = .masterBootDisk ∧ size = (spec.master?.bind (·.disk)).bind (·.bootDiskSizeGb)) ∨
      (disk = .workerBootDisk ∧ size = (spec.worker?.bind (·.disk)).bind (·.bootDiskSizeGb)) ∨
      (disk = .preemptibleBootDisk ∧
        size = (spec.preemptibleWorker?.bind (·.disk)).bind (·.bootDiskSizeGb)) := by
  simp [bootDisks]

theorem hasBootDisk_iff {path : String} {size : UInt32} :
    spec.HasBootDisk path size ↔
      ∃ disk, (disk, some size) ∈ spec.bootDisks ∧ disk.path = path := by
  simp only [mem_bootDisks_iff, eq_comm (a := some size), Option.bind_eq_some_iff]
  constructor
  · rintro (⟨inSpec, inGroup, isSet⟩ | ⟨inSpec, inGroup, isSet⟩ | ⟨inSpec, inGroup, isSet⟩)
    · exact ⟨.masterBootDisk, .inl ⟨rfl, _, ⟨_, inSpec, inGroup⟩, isSet⟩, by decide⟩
    · exact ⟨.workerBootDisk, .inr (.inl ⟨rfl, _, ⟨_, inSpec, inGroup⟩, isSet⟩), by decide⟩
    · exact ⟨.preemptibleBootDisk, .inr (.inr ⟨rfl, _, ⟨_, inSpec, inGroup⟩, isSet⟩), by decide⟩
  · rintro ⟨_, ⟨rfl, disk, ⟨group, inSpec, inGroup⟩, isSet⟩ |
      ⟨rfl, disk, ⟨group, inSpec, inGroup⟩, isSet⟩ |
      ⟨rfl, disk, ⟨group, inSpec, inGroup⟩, isSet⟩, rfl⟩
    · exact .master inSpec inGroup isSet
    · exact .worker inSpec inGroup isSet
    · exact .preemptible inSpec inGroup isSet

theorem bind_bootDiskViolation?_eq_some_iff {path : String} {size : Option UInt32}
    {violation : Violation} :
    size.bind (bootDiskViolation? path) = some violation ↔
      ∃ gigabytes, size = some gigabytes ∧ gigabytes < minBootDiskGigabytes ∧
        violation = .tooSmall path gigabytes := by
  simp only [Option.bind_eq_some_iff, bootDiskViolation?, Option.ite_none_right_eq_some,
    Option.some.injEq, eq_comm (a := violation)]

theorem mem_violations_iff {violation : Violation} :
    violation ∈ spec.violations ↔ spec.Breaks violation := by
  have each : violation ∈ spec.violations ↔
      (maxNameBytes < spec.name.utf8ByteSize ∧ violation = .tooLong spec.name.utf8ByteSize) ∨
      (hasNameForm spec.name.toList = false ∧ violation = .badName) ∨
      (spec.hasConflict = true ∧ violation = .conflict .network .subnetwork) ∨
      ((spec.region = globalRegion ∧ spec.hasZone = false) ∧
        violation = .missingZone spec.region) ∨
      ∃ disk size, (disk, size) ∈ spec.bootDisks ∧
        size.bind (bootDiskViolation? disk.path) = some violation := by
    simp [violations, nameViolations]
  rw [each]
  simp only [bind_bootDiskViolation?_eq_some_iff]
  constructor
  · rintro (⟨long, rfl⟩ | ⟨mismatch, rfl⟩ | ⟨both, rfl⟩ | ⟨⟨isGlobal, noZone⟩, rfl⟩ |
      ⟨disk, _, listed, size, rfl, small, rfl⟩)
    · exact .tooLong long
    · exact .badName (by simp [Pattern.mem_clusterName_iff, mismatch])
    · obtain ⟨gce, network, subnetwork, inSpec, isNetwork, isSubnetwork⟩ := hasConflict_iff.mp both
      exact .conflict inSpec isNetwork isSubnetwork
    · rw [isGlobal]
      exact .missingZone isGlobal (hasZone_eq_false_iff.mp noZone)
    · exact .tooSmall (hasBootDisk_iff.mpr ⟨disk, listed, rfl⟩) small
  · rintro (long | mismatch | ⟨inSpec, isNetwork, isSubnetwork⟩ | ⟨isGlobal, noZone⟩ |
      ⟨isSet, small⟩)
    · exact .inl ⟨long, rfl⟩
    · exact .inr (.inl ⟨by simpa [Pattern.mem_clusterName_iff] using mismatch, rfl⟩)
    · exact .inr (.inr (.inl ⟨hasConflict_iff.mpr ⟨_, _, _, inSpec, isNetwork, isSubnetwork⟩, rfl⟩))
    · exact .inr (.inr (.inr (.inl
        ⟨⟨isGlobal, hasZone_eq_false_iff.mpr noZone⟩, by rw [isGlobal]⟩)))
    · obtain ⟨disk, listed, rfl⟩ := hasBootDisk_iff.mp isSet
      exact .inr (.inr (.inr (.inr ⟨disk, _, listed, _, rfl, small, rfl⟩)))

theorem map_filterMap_sublist {α β γ : Type} {f : α → Option β} {g : β → γ} {h : α → γ}
    (same : ∀ x y, f x = some y → g y = h x) (xs : List α) :
    ((xs.filterMap f).map g).Sublist (xs.map h) := by
  induction xs with
  | nil => exact .slnil
  | cons x xs ih =>
      cases found : f x with
      | none =>
          rw [List.filterMap_cons_none found]
          exact ih.cons _
      | some y =>
          rw [List.filterMap_cons_some found, List.map_cons, same x y found]
          exact ih.cons_cons _

theorem place_ite_sublist {broken : Prop} {decision : Decidable broken} {violation : Violation} :
    ((if broken then [violation] else []).map Violation.place).Sublist [violation.place] := by
  split
  · exact .refl _
  · exact List.nil_sublist _

/-- The rules are gone through once. -/
theorem places_violations (spec : Spec) :
    (spec.violations.map Violation.place).Sublist ([0] ++ [1] ++ [2] ++ [3] ++ [4, 5, 6]) := by
  simp only [violations, nameViolations, List.map_append]
  refine .append (.append (.append (.append ?_ ?_) ?_) ?_) ?_
  · exact place_ite_sublist
  · rw [← ite_not]
    exact place_ite_sublist
  · exact place_ite_sublist
  · exact place_ite_sublist
  · refine map_filterMap_sublist (h := fun disk => Violation.place (.tooSmall disk.1.path 0))
      (fun disk violation broken => ?_) spec.bootDisks
    obtain ⟨size, -, -, rfl⟩ := bind_bootDiskViolation?_eq_some_iff.mp broken
    rfl

theorem violations_ordered (spec : Spec) :
    spec.violations.Pairwise fun earlier later => earlier.place < later.place := by
  have increasing : ([0] ++ [1] ++ [2] ++ [3] ++ [4, 5, 6]).Pairwise (· < ·) := by decide
  exact List.pairwise_map.mp (increasing.sublist spec.places_violations)

theorem Lists.unique {other : List Violation} (lists : spec.Lists found)
    (also : spec.Lists other) : found = other := by
  have distinct {violations : List Violation}
      (ordered : violations.Pairwise fun earlier later => earlier.place < later.place) :
      violations.Nodup :=
    ordered.imp fun before => by
      rintro rfl
      exact Nat.lt_irrefl _ before
  have perm : found.Perm other :=
    (List.perm_ext_iff_of_nodup (distinct lists.ordered) (distinct also.ordered)).mpr
      fun violation => (lists.exact violation).trans (also.exact violation).symm
  exact perm.eq_of_pairwise (fun _ _ _ _ before after => absurd before (Nat.lt_asymm after))
    lists.ordered also.ordered

theorem violations_eq_iff : spec.violations = found ↔ spec.Lists found := by
  have lists : spec.Lists spec.violations := ⟨fun _ => mem_violations_iff, spec.violations_ordered⟩
  exact ⟨fun same => same ▸ lists, lists.unique⟩

section Payload

variable {defaultProject : Option String} {cluster : String}

theorem payload_of_violations (broken : spec.violations ≠ []) :
    spec.payload defaultProject = .error (.invalid spec.name spec.violations) := by
  rw [payload, if_neg (by simpa using broken)]

theorem payload_of_noViolations (sound : spec.violations = []) :
    spec.payload defaultProject = (spec.projectOr defaultProject).map fun project => {
      clusterName := spec.name
      projectId := project
      config := spec.config.map Config.payload
      labels := spec.labels } := by
  rw [payload, if_pos (by simpa using sound)]
  cases spec.projectOr defaultProject <;> rfl

theorem projectOr_eq_error_iff {error : PayloadError} :
    spec.projectOr defaultProject = .error error ↔
      error = .missingProject spec.name ∧
        ¬ ∃ project, spec.project.or defaultProject = some project ∧ project ≠ "" := by
  simp only [← projectOr_eq_ok_iff]
  unfold projectOr
  split <;> simp [eq_comm]

theorem payload_eq_invalid_iff :
    spec.payload defaultProject = .error (.invalid cluster found) ↔
      cluster = spec.name ∧ found ≠ [] ∧ spec.Lists found := by
  rw [← violations_eq_iff]
  by_cases sound : spec.violations = []
  · rw [payload_of_noViolations sound, sound]
    cases resolved : spec.projectOr defaultProject with
    | ok project => simp [Except.map, eq_comm]
    | error error =>
        obtain ⟨rfl, -⟩ := projectOr_eq_error_iff.mp resolved
        simp [Except.map, eq_comm]
  · rw [payload_of_violations sound]
    grind

theorem payload_eq_missingProject_iff :
    spec.payload defaultProject = .error (.missingProject cluster) ↔
      cluster = spec.name ∧ spec.Lists [] ∧
        ¬ ∃ project, spec.project.or defaultProject = some project ∧ project ≠ "" := by
  rw [← violations_eq_iff]
  by_cases sound : spec.violations = []
  · rw [payload_of_noViolations sound]
    cases resolved : spec.projectOr defaultProject with
    | ok project =>
        have known := projectOr_eq_ok_iff.mp resolved
        simp [Except.map, known]
    | error error =>
        obtain ⟨rfl, missing⟩ := projectOr_eq_error_iff.mp resolved
        refine ⟨fun same => ⟨by simpa [Except.map, eq_comm] using same, sound, missing⟩, ?_⟩
        rintro ⟨rfl, -⟩
        rfl
  · simp [payload_of_violations sound, sound]

theorem exists_payload_eq_ok_iff :
    (∃ sent, spec.payload defaultProject = .ok sent) ↔
      spec.Lists [] ∧ ∃ project, spec.project.or defaultProject = some project ∧ project ≠ "" := by
  simp only [payload_eq_ok_iff, ← violations_eq_iff, projectOr_eq_ok_iff]
  grind

end Payload

/-- The checks find every broken rule and nothing else. What they find stops the payload whatever
the project is, and if they find nothing there is a payload exactly if the project is known. -/
theorem checks_find_violations (spec : Spec) (defaultProject : Option String) :
    (∀ name, nameViolations name = [] ↔ IsClusterName name) ∧
    String.ofList Pattern.clusterName.text = Violation.namePattern ∧
    (∀ found, spec.violations = found ↔ spec.Lists found) ∧
    (∀ cluster found, spec.payload defaultProject = .error (.invalid cluster found) ↔
      cluster = spec.name ∧ found ≠ [] ∧ spec.Lists found) ∧
    (∀ cluster, spec.payload defaultProject = .error (.missingProject cluster) ↔
      cluster = spec.name ∧ spec.Lists [] ∧
        ¬ ∃ project, spec.project.or defaultProject = some project ∧ project ≠ "") ∧
    ((∃ sent, spec.payload defaultProject = .ok sent) ↔
      spec.Lists [] ∧ ∃ project, spec.project.or defaultProject = some project ∧ project ≠ "") :=
  ⟨fun _ => nameViolations_eq_nil_iff, Pattern.text_clusterName, fun _ => violations_eq_iff,
    fun _ _ => payload_eq_invalid_iff, fun _ => payload_eq_missingProject_iff,
    exists_payload_eq_ok_iff⟩

example : (named "etl-").violations = [.badName, .missingZone "global"] := by decide +kernel

end Spec

end ManagedCluster
