import ManagedCluster.Proofs.Drift
import ManagedCluster.Proofs.Reflection.RoundTrip

/-! # What a provider may add

A provider fills in what a payload leaves open and writes addresses, scopes and versions in forms of
its own. A report that keeps the rest enriches the payload. However a payload is enriched, the live
state that is read from it has not drifted, and no patch is due.
-/

namespace ManagedCluster

namespace Report

structure Disk.Enriches (given sent : Disk) : Prop where
  bootDisk : Kept Eq sent.bootDiskSizeGb given.bootDiskSizeGb
  localSsds : Kept Eq sent.numLocalSsds given.numLocalSsds

structure Group.Enriches (given sent : Group) : Prop where
  count : Kept Eq sent.numInstances given.numInstances
  machineType : Kept SameSegment sent.machineTypeUri given.machineTypeUri
  disk : Kept (fun sent given => Disk.Enriches given sent) sent.disk given.disk

/-- Scopes may come in any order and any number, with or without the baseline. -/
structure Gce.Enriches (given sent : Gce) : Prop where
  zone : Kept SameSegment sent.zoneUri given.zoneUri
  network : Kept SameSegment sent.networkUri given.networkUri
  subnetwork : Kept SameSegment sent.subnetworkUri given.subnetworkUri
  tags : sent.tags ≠ [] → given.tags = sent.tags
  serviceAccount : Kept Eq sent.serviceAccount given.serviceAccount
  scopes : sent.serviceAccountScopes ≠ [] → ∀ scope,
    scope ∈ given.serviceAccountScopes ++ Scope.baseline ↔
      scope ∈ sent.serviceAccountScopes ++ Scope.baseline

/-- Nothing is said of the properties: those that were asked for are carried over. -/
structure Software.Enriches (given sent : Software) : Prop where
  imageVersion : Kept MoreSpecific sent.imageVersion given.imageVersion

structure Action.Enriches (given sent : Action) : Prop where
  script : given.executableFile = sent.executableFile
  timeout : Kept Eq sent.executionTimeout given.executionTimeout

/-- Nothing is said of the bucket: the one that was asked for is carried over. -/
structure Config.Enriches (given sent : Config) : Prop where
  gce : Kept (fun sent given => Gce.Enriches given sent) sent.gce given.gce
  master : Kept (fun sent given => Group.Enriches given sent) sent.master given.master
  worker : Kept (fun sent given => Group.Enriches given sent) sent.worker given.worker
  secondaryWorker : Kept (fun sent given => Group.Enriches given sent) sent.secondaryWorker
    given.secondaryWorker
  software : Kept (fun sent given => Software.Enriches given sent) sent.software given.software
  actions : sent.initializationActions ≠ [] →
    List.Forall₂ (fun sent given => Action.Enriches given sent) sent.initializationActions
      given.initializationActions

/-- The report has all that was sent, up to what a provider may write differently or add. -/
structure Enriches (given sent : Report) : Prop where
  clusterName : given.clusterName = sent.clusterName
  projectId : given.projectId = sent.projectId
  labels : given.labels.filterKeys (!isProviderLabel ·) =
    sent.labels.filterKeys (!isProviderLabel ·)
  config : Kept (fun sent given => Config.Enriches given sent) sent.config given.config

/-- The timeouts of all actions can be read. -/
def Readable (given : Report) : Prop :=
  ∀ action ∈ given.actions, ∀ timeout, action.executionTimeout = some timeout →
    ∃ seconds, Duration.decodeSeconds timeout = .ok seconds

theorem Readable.exists_actions {given : Report} (readable : given.Readable) :
    ∃ actions, given.actions.mapM Action.reflect = .ok actions := by
  refine exists_mapM_eq_ok_iff.mpr fun action member => ?_
  cases timeout : action.executionTimeout with
  | none => exact ⟨_, Action.reflect_eq_ok_iff.mpr (.inl ⟨timeout, rfl⟩)⟩
  | some text =>
      obtain ⟨seconds, decoded⟩ := readable action member text timeout
      exact ⟨_, Action.reflect_eq_ok_iff.mpr (.inr ⟨text, seconds, timeout, decoded, rfl⟩)⟩

end Report

/-- Scopes that enrich the addresses that were sent give the access that was asked for. -/
theorem Scope.equivalent_of_enriches {desired given : List String}
    (same : ∀ scope, scope ∈ given ++ baseline ↔ scope ∈ canonicalList desired ++ baseline) :
    Scope.equivalent desired (given.mergeSort fun a b => a ≤ b) = true := by
  have canonicalGiven : ∀ scope ∈ given, canonical scope = scope := by
    intro scope member
    rcases List.mem_append.mp ((same scope).mp (List.mem_append_left _ member)) with sent | base
    · obtain ⟨asked, -, rfl⟩ := mem_canonicalList.mp sent
      exact canonical_idem asked
    · exact canonical_of_mem_baseline base
  have unchanged : given.map canonical = given :=
    (List.map_congr_left canonicalGiven).trans (List.map_id _)
  refine equivalent_iff.mpr fun scope => ?_
  calc scope ∈ effective desired
      ↔ scope ∈ canonicalList desired ++ baseline := by
        simp only [effective, List.mem_append, mem_canonicalList, List.mem_map]
    _ ↔ scope ∈ given ++ baseline := (same scope).symm
    _ ↔ scope ∈ given.map canonical ++ baseline := by rw [unchanged]
    _ ↔ scope ∈ effective (given.mergeSort fun a b => a ≤ b) := by
        simp only [effective, List.mem_append, List.mem_map, List.mem_mergeSort]

namespace Spec

/-- A timeout that was sent is read as it was, and one that was not sent is not compared. -/
theorem Action.isMet_of_enriches {desired read : Action} {given : Report.Action}
    (enriches : given.Enriches desired.payload) (ok : given.reflect = .ok read) :
    desired.isMet read = true := by
  obtain ⟨script, timeout⟩ := desired
  obtain ⟨sameScript, sameTimeout⟩ := enriches
  simp only [payload] at sameScript sameTimeout
  cases timeout with
  | none =>
      rcases Report.Action.reflect_eq_ok_iff.mp ok with ⟨-, rfl⟩ | ⟨_, _, -, -, rfl⟩ <;>
        simp [isMet, sameScript]
  | some seconds =>
      have inReport := Kept.some_eq_iff.mp sameTimeout
      rcases Report.Action.reflect_eq_ok_iff.mp ok with ⟨missing, -⟩ | ⟨_, _, found, decoded, rfl⟩
      · simp [missing] at inReport
      · obtain rfl : Duration.encodeSeconds seconds.toNat = _ := by simpa [found] using inReport
        rw [Duration.decodeSeconds_encodeSeconds seconds.toNat_lt] at decoded
        split at decoded
        · obtain rfl : seconds.toNat = _ := by simpa using decoded
          simp [isMet, sameScript]
        · cases decoded

theorem actionsMatch_of_enriches {desired read : List Action} {given : List Report.Action}
    (enriches : List.Forall₂ (fun sent given => Report.Action.Enriches given sent)
      (desired.map Action.payload) given)
    (ok : given.mapM Report.Action.reflect = .ok read) : actionsMatch desired read = true := by
  rw [mapM_eq_ok_iff] at ok
  rw [actionsMatch_iff]
  induction desired generalizing given read with
  | nil =>
      cases enriches
      cases ok
      exact .nil
  | cons first others ih =>
      obtain - | ⟨one, rest⟩ := enriches
      obtain - | ⟨readOne, readRest⟩ := ok
      exact .cons (Action.isMet_of_enriches one readOne) (ih rest readRest)

/-- The live block is read from a report that enriches the desired one as it was sent. -/
def ReadFrom {α β γ : Type} (enriches : β → β → Prop) (send : α → β) (read : β → γ) (desired : α)
    (live : γ) : Prop :=
  ∃ reported, enriches reported (send desired) ∧ live = read reported

section Live

variable {spec : Spec} {sent given : Report} {defaultProject : Option String}
  {actions : List Action}

theorem kept_config (accepted : spec.payload defaultProject = .ok sent)
    (enriched : given.Enriches sent) :
    Kept (fun desired live => ∃ reported : Report.Config, reported.Enriches desired.payload ∧
        live = carryConfig desired (some (reported.reflectWith actions)))
      spec.config (spec.carry (given.reflectWith actions)).config := by
  obtain ⟨-, _, -, rfl⟩ := payload_eq_ok_iff.mp accepted
  intro desired isSet
  obtain ⟨reported, inReport, enriches⟩ := Kept.map_left_iff.mp enriched.config desired isSet
  exact ⟨_, by simp [carry, Report.reflectWith, isSet, inReport], reported, enriches, rfl⟩

/-- A block that is sent and read by itself comes from a report that enriches the one sent. -/
theorem kept_block {α β : Type} {part : Config → Option α} {piece : Report.Config → Option β}
    {send : α → β} {read : β → α} {enriches : β → β → Prop}
    (accepted : spec.payload defaultProject = .ok sent) (enriched : given.Enriches sent)
    (sends : ∀ config, piece (Config.payload config) = (part config).map send)
    (reads : ∀ config (reported : Report.Config),
      part (carryConfig config (some (reported.reflectWith actions))) = (piece reported).map read)
    (keeps : ∀ {given sent : Report.Config}, given.Enriches sent →
      Kept (fun sent given => enriches given sent) (piece sent) (piece given)) :
    Kept (ReadFrom enriches send read) (spec.config.bind part)
      ((spec.carry (given.reflectWith actions)).config.bind part) := by
  refine (kept_config accepted enriched).bind ?_
  rintro config _ ⟨reported, inReport, rfl⟩
  have inPiece := keeps inReport
  rw [sends, Kept.map_left_iff] at inPiece
  rw [reads]
  exact inPiece.map_right fun _ block inner => ⟨block, inner, rfl⟩

theorem kept_gce (accepted : spec.payload defaultProject = .ok sent)
    (enriched : given.Enriches sent) :
    Kept (ReadFrom Report.Gce.Enriches Gce.payload Report.Gce.reflect)
      spec.gce? (spec.carry (given.reflectWith actions)).gce? :=
  kept_block accepted enriched (fun _ => rfl) (fun _ _ => rfl) (·.gce)

theorem kept_master (accepted : spec.payload defaultProject = .ok sent)
    (enriched : given.Enriches sent) :
    Kept (ReadFrom Report.Group.Enriches Group.payload Report.Group.reflect)
      spec.master? (spec.carry (given.reflectWith actions)).master? :=
  kept_block accepted enriched (fun _ => rfl) (fun _ _ => rfl) (·.master)

theorem kept_worker (accepted : spec.payload defaultProject = .ok sent)
    (enriched : given.Enriches sent) :
    Kept (ReadFrom Report.Group.Enriches Group.payload Report.Group.reflect)
      spec.worker? (spec.carry (given.reflectWith actions)).worker? :=
  kept_block accepted enriched (fun _ => rfl) (fun _ _ => rfl) (·.worker)

theorem kept_preemptibleWorker (accepted : spec.payload defaultProject = .ok sent)
    (enriched : given.Enriches sent) :
    Kept (ReadFrom Report.Group.Enriches PreemptibleGroup.payload Report.Group.reflectPreemptible)
      spec.preemptibleWorker? (spec.carry (given.reflectWith actions)).preemptibleWorker? :=
  kept_block accepted enriched (fun _ => rfl) (fun _ _ => rfl) (·.secondaryWorker)

theorem kept_software (accepted : spec.payload defaultProject = .ok sent)
    (enriched : given.Enriches sent) :
    Kept (fun desired live => ∃ reported : Report.Software, reported.Enriches desired.payload ∧
        live = carrySoftware desired (some reported.reflect))
      spec.software? (spec.carry (given.reflectWith actions)).software? := by
  refine (kept_config accepted enriched).bind ?_
  rintro ⟨_, _, _, _, _, _, _, software, _⟩ _ ⟨reported, enriches, rfl⟩
  cases software with
  | none => exact fun _ isSet => nomatch isSet
  | some desired =>
      obtain ⟨block, inReport, inner⟩ := Kept.some_iff.mp enriches.software
      exact Kept.some_iff.mpr
        ⟨_, by simp [carryConfig, Report.Config.reflectWith, inReport], block, inner, rfl⟩

theorem userLabels_carry (accepted : spec.payload defaultProject = .ok sent)
    (enriched : given.Enriches sent) :
    (spec.carry (given.reflectWith actions)).userLabels = spec.userLabels := by
  obtain ⟨-, _, -, rfl⟩ := payload_eq_ok_iff.mp accepted
  exact enriched.labels

theorem kept_machineType {desired live : Option Group}
    (kept : Kept (ReadFrom Report.Group.Enriches Group.payload Report.Group.reflect) desired live) :
    Kept SameSegment (desired.bind (·.machineType)) (live.bind (·.machineType)) := by
  refine kept.bind ?_
  rintro wanted _ ⟨reported, enriches, rfl⟩
  exact (Kept.map_lastSegment_left_iff.mp enriches.machineType).map_lastSegment_right

theorem kept_disk {desired live : Option Group}
    (kept : Kept (ReadFrom Report.Group.Enriches Group.payload Report.Group.reflect) desired live) :
    Kept (ReadFrom Report.Disk.Enriches Disk.payload Report.Disk.reflect)
      (desired.bind (·.disk)) (live.bind (·.disk)) := by
  refine kept.bind ?_
  rintro wanted _ ⟨reported, enriches, rfl⟩
  exact (Kept.map_left_iff.mp enriches.disk).map_right fun _ block inner => ⟨block, inner, rfl⟩

theorem kept_localSsds {desired live : Option Group}
    (kept : Kept (ReadFrom Report.Group.Enriches Group.payload Report.Group.reflect) desired live) :
    Kept Eq (localSsds desired) (localSsds live) := by
  rw [localSsds_eq_bind, localSsds_eq_bind]
  refine (kept_disk kept).bind ?_
  rintro wanted _ ⟨reported, enriches, rfl⟩
  exact enriches.localSsds

theorem kept_bootDisk {desired live : Option Group}
    (kept : Kept (ReadFrom Report.Group.Enriches Group.payload Report.Group.reflect) desired live) :
    Kept Eq (bootDisk desired) (bootDisk live) := by
  rw [bootDisk_eq_bind, bootDisk_eq_bind]
  refine (kept_disk kept).bind ?_
  rintro wanted _ ⟨reported, enriches, rfl⟩
  exact enriches.bootDisk

theorem kept_preemptibleDisk (accepted : spec.payload defaultProject = .ok sent)
    (enriched : given.Enriches sent) :
    Kept (ReadFrom Report.Disk.Enriches PreemptibleDisk.payload Report.Disk.reflectPreemptible)
      (spec.preemptibleWorker?.bind (·.disk))
      ((spec.carry (given.reflectWith actions)).preemptibleWorker?.bind (·.disk)) := by
  refine (kept_preemptibleWorker accepted enriched).bind ?_
  rintro desired _ ⟨reported, enriches, rfl⟩
  exact (Kept.map_left_iff.mp enriches.disk).map_right fun _ block inner => ⟨block, inner, rfl⟩

theorem equivalent_scopes_carry (accepted : spec.payload defaultProject = .ok sent)
    (enriched : given.Enriches sent) (asked : spec.scopes ≠ []) :
    Scope.equivalent spec.scopes (spec.carry (given.reflectWith actions)).scopes = true := by
  cases block : spec.gce? with
  | none => simp [scopes, block] at asked
  | some desired =>
      have kept : Kept _ spec.gce? (spec.carry (given.reflectWith actions)).gce? :=
        kept_gce accepted enriched
      obtain ⟨_, inLive, reported, enriches, rfl⟩ := kept desired block
      simp only [scopes, block, inLive, Option.map_some, Option.getD_some] at asked ⊢
      have sentScopes : desired.payload.serviceAccountScopes ≠ [] := by
        intro empty
        apply asked
        have noneSent : (Scope.canonicalList desired.serviceAccountScopes).length = 0 :=
          congrArg List.length empty
        simpa [Scope.canonicalList] using noneSent
      exact Scope.equivalent_of_enriches (enriches.scopes sentScopes)

theorem actions_carry (accepted : spec.payload defaultProject = .ok sent)
    (enriched : given.Enriches sent) (asked : spec.actions ≠ []) :
    (spec.carry (given.reflectWith actions)).actions = actions ∧
      List.Forall₂ (fun sent given => Report.Action.Enriches given sent)
        (spec.actions.map Action.payload) given.actions := by
  obtain ⟨-, _, -, rfl⟩ := payload_eq_ok_iff.mp accepted
  obtain ⟨name, project, region, labels, _ | config⟩ := spec
  · exact absurd rfl asked
  · obtain ⟨reported, inReport, inner⟩ := Kept.some_iff.mp enriched.config
    refine ⟨?_, ?_⟩
    · simp [Spec.actions, carry, carryConfig, Report.reflectWith, Report.Config.reflectWith,
        inReport]
    · have sentActions := inner.actions (by simpa [Config.payload, Spec.actions] using asked)
      simpa [Report.actions, inReport, Spec.actions, Config.payload] using sentActions

/-- No attribute of the live state has drifted from the spec, whatever the provider added. -/
theorem hasDrifted_carry (accepted : spec.payload defaultProject = .ok sent)
    (enriched : given.Enriches sent)
    (read : given.actions.mapM Report.Action.reflect = .ok actions) (changed : Attribute) :
    (spec.carry (given.reflectWith actions)).hasDrifted spec changed = false := by
  -- each attribute has a comparison of its own, and a field of the relation that meets it
  cases changed with
  | name =>
      obtain ⟨-, _, -, rfl⟩ := payload_eq_ok_iff.mp accepted
      exact differs_eq_false_iff.mpr
        (Kept.some_eq_iff.mpr (congrArg some enriched.clusterName.symm))
  | project =>
      obtain ⟨-, project, resolved, rfl⟩ := payload_eq_ok_iff.mp accepted
      obtain ⟨chosen, nonempty⟩ := projectOr_eq_ok_iff.mp resolved
      have liveProject :
          (spec.carry (given.reflectWith actions)).project = spec.project.or defaultProject := by
        simp [carry, Report.reflectWith, enriched.projectId, nonempty, chosen]
      refine differs_eq_false_iff.mpr fun project isSet => ⟨project, ?_, rfl⟩
      rw [liveProject, isSet, Option.some_or]
  | region => exact differs_eq_false_iff.mpr (Kept.some_eq_iff.mpr rfl)
  | stagingBucket =>
      refine differs_eq_false_iff.mpr ((kept_config accepted enriched).bind ?_)
      rintro desired _ ⟨reported, -, rfl⟩
      exact Kept.refl _
  | zone =>
      refine differsUri_eq_false_iff.mpr ((kept_gce accepted enriched).bind ?_)
      rintro desired _ ⟨reported, enriches, rfl⟩
      exact enriches.zone.map_lastSegment_right
  | network =>
      refine differsUri_eq_false_iff.mpr ((kept_gce accepted enriched).bind ?_)
      rintro desired _ ⟨reported, enriches, rfl⟩
      exact (Kept.map_lastSegment_left_iff.mp enriches.network).map_lastSegment_right
  | subnetwork =>
      refine differsUri_eq_false_iff.mpr ((kept_gce accepted enriched).bind ?_)
      rintro desired _ ⟨reported, enriches, rfl⟩
      exact (Kept.map_lastSegment_left_iff.mp enriches.subnetwork).map_lastSegment_right
  | tags =>
      simp only [hasDrifted, Option.map_eq_bind]
      refine differs_eq_false_iff.mpr ((kept_gce accepted enriched).bind ?_)
      rintro desired _ ⟨reported, enriches, rfl⟩ tags isSet
      obtain ⟨nonempty, rfl⟩ := nonEmpty_eq_some_iff.mp isSet
      exact ⟨_, rfl, (enriches.tags nonempty).symm⟩
  | serviceAccount =>
      refine differs_eq_false_iff.mpr ((kept_gce accepted enriched).bind ?_)
      rintro desired _ ⟨reported, enriches, rfl⟩
      exact enriches.serviceAccount
  | serviceAccountScopes =>
      by_cases asked : spec.scopes = []
      · simp [hasDrifted, asked]
      · simp [hasDrifted, equivalent_scopes_carry accepted enriched asked]
  | masterCount =>
      refine differs_eq_false_iff.mpr ((kept_master accepted enriched).bind ?_)
      rintro desired _ ⟨reported, enriches, rfl⟩
      exact enriches.count
  | masterMachineType =>
      exact differsUri_eq_false_iff.mpr (kept_machineType (kept_master accepted enriched))
  | masterLocalSsds =>
      exact differs_eq_false_iff.mpr (kept_localSsds (kept_master accepted enriched))
  | masterBootDisk =>
      exact differs_eq_false_iff.mpr (kept_bootDisk (kept_master accepted enriched))
  | workerMachineType =>
      exact differsUri_eq_false_iff.mpr (kept_machineType (kept_worker accepted enriched))
  | workerLocalSsds =>
      exact differs_eq_false_iff.mpr (kept_localSsds (kept_worker accepted enriched))
  | workerBootDisk =>
      exact differs_eq_false_iff.mpr (kept_bootDisk (kept_worker accepted enriched))
  | preemptibleBootDisk =>
      refine differs_eq_false_iff.mpr ((kept_preemptibleDisk accepted enriched).bind ?_)
      rintro desired _ ⟨reported, enriches, rfl⟩
      exact enriches.bootDisk
  | imageVersion =>
      refine notAny_eq_false_iff.mpr ((kept_software accepted enriched).bind ?_)
      rintro desired _ ⟨reported, enriches, rfl⟩ version isSet
      obtain ⟨given, inReport, specific⟩ := enriches.imageVersion version isSet
      exact ⟨given, inReport, versionMatches_iff.mpr specific⟩
  | overrideProperties =>
      simp only [hasDrifted, Option.map_eq_bind]
      refine differs_eq_false_iff.mpr (((kept_software accepted enriched).bind ?_).filter _)
      rintro desired _ ⟨reported, -, rfl⟩
      exact Kept.refl _
  | initializationActions =>
      by_cases asked : spec.actions = []
      · simp [hasDrifted, asked]
      · obtain ⟨sameActions, enriches⟩ :
            (spec.carry (given.reflectWith actions)).actions = actions ∧ _ :=
          actions_carry accepted enriched asked
        simp [hasDrifted, sameActions, actionsMatch_of_enriches enriches read]

/-- What a provider adds to a payload is read without a need to replace or to patch the cluster. -/
theorem replacements_and_patch_of_enriches (accepted : spec.payload defaultProject = .ok sent)
    (enriched : given.Enriches sent) (readable : given.Readable) :
    ∃ live, given.reflectOnto spec = .ok live ∧ live.replacements spec = [] ∧
      live.patch? spec = none := by
  obtain ⟨actions, read⟩ := readable.exists_actions
  refine ⟨spec.carry (given.reflectWith actions), ?_, ?_, ?_⟩
  · exact Report.reflectOnto_eq_ok_iff.mpr ⟨actions, read, rfl⟩
  · exact replacements_eq_nil_iff.mpr (hasDrifted_carry accepted enriched read)
  · refine patch?_eq_none_iff.mpr ⟨?_, ?_, ?_⟩
    · simp [changedLabels?, userLabels_carry accepted enriched]
    · refine changed?_eq_none_iff.mpr ((kept_worker accepted enriched).bind ?_)
      rintro desired _ ⟨reported, enriches, rfl⟩
      exact enriches.count
    · refine changed?_eq_none_iff.mpr ((kept_preemptibleWorker accepted enriched).bind ?_)
      rintro desired _ ⟨reported, enriches, rfl⟩
      exact enriches.count

end Live

/-- The sample as a provider may report it. -/
def sampleReport : Report where
  clusterName := "etl"
  projectId := "analytics"
  labels := .ofList [("goog-dataproc-location", "europe-west1")]
  clusterUuid := some "3d0ab1"
  config := some {
    configBucket := some "etl-staging"
    gce := some {
      zoneUri := some "https://www.googleapis.com/compute/v1/projects/p/zones/europe-west1-b"
      networkUri := some "global/networks/default"
      serviceAccountScopes := [
        "https://www.googleapis.com/auth/pubsub", "https://www.googleapis.com/auth/logging.write",
        "https://www.googleapis.com/auth/bigquery", "https://www.googleapis.com/auth/pubsub"] }
    master := some { numInstances := some 1, instanceNames := ["etl-m"] }
    software := some { imageVersion := some "1.3.7-deb9" }
    initializationActions := [
      { executableFile := "gs://b/init.sh", executionTimeout := some "600s" }] }

theorem sampleReport_enriches : sampleReport.Enriches samplePayload where
  clusterName := rfl
  projectId := rfl
  labels := by decide +kernel
  config := Kept.some_iff.mpr ⟨_, rfl, {
    gce := Kept.some_iff.mpr ⟨_, rfl, {
      zone := Kept.some_iff.mpr ⟨_, rfl, by unfold SameSegment; decide +kernel⟩
      network := Kept.none
      subnetwork := Kept.none
      tags := absurd rfl
      serviceAccount := Kept.none
      scopes := fun _ scope => by
        simp only [Scope.baseline, Scope.addressBase, List.map_cons, List.map_nil, List.cons_append,
          List.nil_append, List.mem_cons, List.not_mem_nil, String.reduceAppend]
        grind }⟩
    master := Kept.none
    worker := Kept.none
    secondaryWorker := Kept.none
    software := Kept.some_iff.mpr ⟨_, rfl, ⟨Kept.some_iff.mpr
      ⟨_, rfl, .inr ⟨"7-deb9", .inl (by decide)⟩⟩⟩⟩
    actions := fun _ => .cons ⟨rfl, Kept.refl _⟩ .nil }⟩

theorem sampleReport_readable : sampleReport.Readable := by
  intro action member timeout isSet
  obtain rfl : action = { executableFile := "gs://b/init.sh", executionTimeout := some "600s" } :=
    List.mem_singleton.mp member
  obtain rfl : "600s" = timeout := Option.some.inj isSet
  exact ⟨600, by decide +kernel⟩

theorem replacements_and_patch_of_enriches_sample :
    sample.payload (some "analytics") = .ok samplePayload ∧ sampleReport.Enriches samplePayload ∧
      sampleReport.Readable ∧
      ∃ live, sampleReport.reflectOnto sample = .ok live ∧ live.replacements sample = [] ∧
        live.patch? sample = none :=
  ⟨payload_sample, sampleReport_enriches, sampleReport_readable,
    replacements_and_patch_of_enriches payload_sample sampleReport_enriches
      sampleReport_readable⟩

end Spec

end ManagedCluster
