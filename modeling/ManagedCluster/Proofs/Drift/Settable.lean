import ManagedCluster.Proofs.Drift

/-! # What a spec asks for

Each attribute that can be set in a spec has values of its own kind, and its own way to agree with a
prior spec. The comparisons of both diffs come down to one statement: whatever is asked for agrees.
-/

namespace ManagedCluster

/-- All fields that can change on a running cluster, in the order of a patch. -/
def PatchField.all : List PatchField := [labels, workerCount, preemptibleWorkerCount]

theorem PatchField.mem_all (f : PatchField) : f ∈ all := by
  cases f <;> decide

namespace Spec

theorem Attribute.nodup_map_path : (all.map path).Nodup := by decide +kernel

@[reducible] def Attribute.Value : Attribute → Type
  | name | project | region | stagingBucket | zone | network | subnetwork | serviceAccount
  | masterMachineType | workerMachineType | imageVersion => String
  | tags | serviceAccountScopes => List String
  | masterCount | masterLocalSsds | masterBootDisk | workerLocalSsds | workerBootDisk
  | preemptibleBootDisk => UInt32
  | overrideProperties => StringMap
  | initializationActions => List Action

/-- An attribute that is not only known from the provider. -/
inductive Settable where
  | fixed (a : Attribute)
  | field (f : PatchField)
  | deleteAutogenBucket
  deriving Repr, DecidableEq

namespace Settable

@[reducible] def Value : Settable → Type
  | fixed a => a.Value
  | field .labels => StringMap
  | field .workerCount | field .preemptibleWorkerCount => UInt32
  | deleteAutogenBucket => Bool

/-- A list or a map is only set if it has items, and labels are if not all are the provider's. -/
def IsSet : (a : Settable) → a.Value → Prop
  | fixed .tags, tags => tags ≠ []
  | fixed .serviceAccountScopes, scopes => scopes ≠ []
  | fixed .overrideProperties, properties => properties ≠ .empty
  | fixed .initializationActions, actions => actions ≠ []
  | field .labels, labels => labels.filterKeys (!isProviderLabel ·) ≠ .empty
  | _, _ => True

end Settable

/-- A map that is set: one with entries. -/
def nonEmptyMap (map : StringMap) : Option StringMap := if map.isEmpty then none else some map

/-- What the spec asks for, if the attribute is set in it. -/
def asked (spec : Spec) : (a : Settable) → Option a.Value
  | .fixed .name => some spec.name
  | .fixed .project => spec.project
  | .fixed .region => some spec.region
  | .fixed .stagingBucket => spec.config.bind (·.stagingBucket)
  | .fixed .zone => spec.gce?.bind (·.zone)
  | .fixed .network => spec.gce?.bind (·.network)
  | .fixed .subnetwork => spec.gce?.bind (·.subnetwork)
  | .fixed .tags => spec.gce?.bind fun gce => nonEmpty gce.tags
  | .fixed .serviceAccount => spec.gce?.bind (·.serviceAccount)
  | .fixed .serviceAccountScopes => spec.gce?.bind fun gce => nonEmpty gce.serviceAccountScopes
  | .fixed .masterCount => spec.master?.bind (·.numInstances)
  | .fixed .masterMachineType => spec.master?.bind (·.machineType)
  | .fixed .masterLocalSsds => localSsds spec.master?
  | .fixed .masterBootDisk => bootDisk spec.master?
  | .fixed .workerMachineType => spec.worker?.bind (·.machineType)
  | .fixed .workerLocalSsds => localSsds spec.worker?
  | .fixed .workerBootDisk => bootDisk spec.worker?
  | .fixed .preemptibleBootDisk =>
    (spec.preemptibleWorker?.bind (·.disk)).bind (·.bootDiskSizeGb)
  | .fixed .imageVersion => spec.software?.bind (·.imageVersion)
  | .fixed .overrideProperties =>
    spec.software?.bind fun software => nonEmptyMap software.overrideProperties
  | .fixed .initializationActions =>
    spec.config.bind fun config => nonEmpty config.initializationActions
  | .field .labels => if spec.userLabels.isEmpty then none else some spec.labels
  | .field .workerCount => spec.workerCount?
  | .field .preemptibleWorkerCount => spec.preemptibleWorkerCount?
  | .deleteAutogenBucket => some ((spec.config.map (·.deleteAutogenBucket)).getD false)

/-- The reported action runs the same script, for as long if that was asked for. -/
def Action.SameRun (wanted found : Action) : Prop :=
  wanted.script = found.script ∧
    ∀ seconds, wanted.timeoutSec = some seconds → found.timeoutSec = some seconds

/-- The prior spec has the value, up to what the attribute allows. -/
def Agrees (prior : Spec) : (a : Settable) → a.Value → Prop
  | .fixed .zone, zone => ∃ found ∈ prior.gce?.bind (·.zone), SameSegment zone found
  | .fixed .network, network => ∃ found ∈ prior.gce?.bind (·.network), SameSegment network found
  | .fixed .subnetwork, subnetwork =>
    ∃ found ∈ prior.gce?.bind (·.subnetwork), SameSegment subnetwork found
  | .fixed .masterMachineType, machineType =>
    ∃ found ∈ prior.master?.bind (·.machineType), SameSegment machineType found
  | .fixed .workerMachineType, machineType =>
    ∃ found ∈ prior.worker?.bind (·.machineType), SameSegment machineType found
  | .fixed .serviceAccountScopes, scopes => Scope.equivalent scopes prior.scopes = true
  | .fixed .imageVersion, version =>
    ∃ found ∈ prior.software?.bind (·.imageVersion), MoreSpecific version found
  | .fixed .initializationActions, actions => List.Forall₂ Action.SameRun actions prior.actions
  | .field .labels, labels => labels.filterKeys (!isProviderLabel ·) = prior.userLabels
  | a, value => prior.asked a = some value

theorem bind_nonEmpty_eq_some_iff {α β : Type} {block : Option α} {items : α → List β}
    {value : List β} :
    (block.bind fun block => nonEmpty (items block)) = some value ↔
      value ≠ [] ∧ block.map items = some value := by
  simp only [Option.bind_eq_some_iff, Option.map_eq_some_iff, nonEmpty_eq_some_iff]
  grind

theorem bind_nonEmptyMap_eq_some_iff {α : Type} {block : Option α} {entries : α → StringMap}
    {value : StringMap} :
    (block.bind fun block => nonEmptyMap (entries block)) = some value ↔
      value ≠ .empty ∧ block.map entries = some value := by
  simp only [Option.bind_eq_some_iff, Option.map_eq_some_iff, nonEmptyMap, StringMap.isEmpty_iff]
  grind

/-- A list is compared only if it has items. -/
theorem notEmpty_and_not_eq_false_iff {α β : Type} {block : Option α} {items : α → List β}
    (agrees : List β → Bool) :
    (!((block.map items).getD []).isEmpty && !agrees ((block.map items).getD [])) = false ↔
      ∀ value, (block.bind fun block => nonEmpty (items block)) = some value →
        agrees value = true := by
  simp only [bind_nonEmpty_eq_some_iff]
  cases block with
  | none => simp
  | some block =>
      simp only [Option.map_some, Option.getD_some, Option.some.injEq, Bool.and_eq_false_iff,
        Bool.not_eq_false', List.isEmpty_iff]
      grind

theorem Action.isMet_iff {wanted found : Action} :
    wanted.isMet found = true ↔ wanted.SameRun found := by
  obtain ⟨script, timeout⟩ := wanted
  cases timeout <;> simp [isMet, SameRun]

variable {prior desired : Spec}

/-- No drift is seen where everything that is asked for agrees, and only there. -/
theorem hasDrifted_eq_false_iff (a : Attribute) :
    prior.hasDrifted desired a = false ↔
      ∀ value, desired.asked (.fixed a) = some value → prior.Agrees (.fixed a) value := by
  cases a with
  | name | project | region | stagingBucket | serviceAccount | masterCount | masterLocalSsds
  | masterBootDisk | workerLocalSsds | workerBootDisk | preemptibleBootDisk =>
      exact differs_eq_false_iff.trans Kept.eq_iff
  | zone | network | subnetwork | masterMachineType | workerMachineType =>
      exact differsUri_eq_false_iff
  | tags =>
      simp only [hasDrifted, differs_eq_false_iff, Kept.eq_iff, Agrees, asked,
        bind_nonEmpty_eq_some_iff]
      constructor
      · intro kept value set
        exact ⟨set.1, kept value set⟩
      · intro kept value set
        exact (kept value set).2
  | serviceAccountScopes =>
      exact notEmpty_and_not_eq_false_iff fun scopes => Scope.equivalent scopes prior.scopes
  | imageVersion =>
      rw [hasDrifted, notAny_eq_false_iff]
      simp only [versionMatches_iff]
      rfl
  | overrideProperties =>
      have entries_iff : ∀ map : StringMap, (!map.isEmpty) = true ↔ map ≠ .empty := by
        intro map
        rw [Bool.not_eq_true', ← Bool.not_eq_true, not_iff_not, StringMap.isEmpty_iff]
      simp only [hasDrifted, differs_eq_false_iff, Kept.eq_iff, Agrees, asked,
        bind_nonEmptyMap_eq_some_iff, Option.filter_eq_some_iff, entries_iff]
      constructor
      · intro kept value set
        exact ⟨set.1, kept value set.symm⟩
      · intro kept value set
        exact (kept value set.symm).2
  | initializationActions =>
      apply (notEmpty_and_not_eq_false_iff fun wanted => actionsMatch wanted prior.actions).trans
      simp only [actionsMatch_iff, Action.isMet_iff]
      rfl

/-- The patch has the field. -/
def isPatched (prior desired : Spec) : PatchField → Bool
  | .labels => (changedLabels? prior desired).isSome
  | .workerCount => (changed? prior.workerCount? desired.workerCount?).isSome
  | .preemptibleWorkerCount =>
    (changed? prior.preemptibleWorkerCount? desired.preemptibleWorkerCount?).isSome

theorem fields_patch? (prior desired : Spec) :
    ((prior.patch? desired).map (·.fields)).getD [] =
      PatchField.all.filter (prior.isPatched desired) := by
  unfold patch? PatchField.all
  cases labels : changedLabels? prior desired <;>
    cases workers : changed? prior.workerCount? desired.workerCount? <;>
    cases preemptible : changed? prior.preemptibleWorkerCount? desired.preemptibleWorkerCount? <;>
    simp [isPatched, labels, workers, preemptible]

/-- A field is not patched where everything that is asked for agrees, and only there. -/
theorem isPatched_eq_false_iff (f : PatchField) :
    prior.isPatched desired f = false ↔
      ∀ value, desired.asked (.field f) = some value → prior.Agrees (.field f) value := by
  cases f with
  | labels =>
      simp only [isPatched, changedLabels?, asked, Agrees]
      by_cases own : desired.userLabels.isEmpty
      · simp [own]
      · by_cases same : desired.userLabels = prior.userLabels
        · simp only [same, decide_true, Bool.or_true, if_true, Option.isSome_none, true_iff]
          intro value set
          split at set <;> cases set
          exact same
        · simp only [own, same, decide_false, Bool.or_self, Bool.false_eq_true, if_false,
            Option.isSome_some, false_iff, Bool.true_eq_false]
          intro agrees
          exact same (agrees desired.labels rfl)
  | workerCount | preemptibleWorkerCount =>
      rw [isPatched, Option.isSome_eq_false_iff, Option.isNone_iff_eq_none]
      exact changed?_eq_none_iff.trans Kept.eq_iff

theorem isPatched_of_patch?_eq_none (nothing : prior.patch? desired = none) (f : PatchField) :
    prior.isPatched desired f = false := by
  have none := fields_patch? prior desired
  rw [nothing] at none
  simpa using List.filter_eq_nil_iff.mp none.symm f f.mem_all

end Spec

end ManagedCluster
