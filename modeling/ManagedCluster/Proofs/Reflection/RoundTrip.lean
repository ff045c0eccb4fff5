import ManagedCluster.Drift
import ManagedCluster.Proofs.Duration.WireSeconds
import ManagedCluster.Proofs.NormalForm
import ManagedCluster.Proofs.Reflection.Basic

/-! # Payloads that come back unchanged

A provider that reports exactly the payload it was given leaves a spec as it is, up to a settled
form: names for addresses, scopes in order, and the attributes that only the provider knows filled
from those that were asked for. Only a timeout whose milliseconds do not fit into 64 bits is lost.
-/

namespace ManagedCluster

namespace Spec

def Gce.settled (gce : Gce) : Gce :=
  { gce with
    zone := gce.zone.map Uri.lastSegment
    network := gce.network.map Uri.lastSegment
    subnetwork := gce.subnetwork.map Uri.lastSegment
    serviceAccountScopes := Scope.canonicalList gce.serviceAccountScopes }

def Group.settled (group : Group) : Group :=
  { group with machineType := group.machineType.map Uri.lastSegment, instanceNames := [] }

def PreemptibleGroup.settled (group : PreemptibleGroup) : PreemptibleGroup :=
  { group with instanceNames := [] }

def Software.settled (software : Software) : Software :=
  { software with properties := software.overrideProperties }

def Config.settled (config : Config) : Config :=
  { config with
    bucket := config.stagingBucket
    gce := config.gce.map Gce.settled
    master := config.master.map Group.settled
    worker := config.worker.map Group.settled
    preemptibleWorker := config.preemptibleWorker.map PreemptibleGroup.settled
    software := config.software.map Software.settled }

/-- The live state of a cluster that is exactly what was asked for in the project. -/
def settled (project : String) (spec : Spec) : Spec :=
  { spec with project := some project, config := spec.config.map Config.settled }

/-- The most seconds that can be read back from the wire. -/
def maxWireSeconds : Nat := (UInt64.size - 1) / 1000

/-- The timeout of the action can be read back, if it has one. -/
def Action.IsReadable (action : Action) : Prop :=
  ∀ seconds, action.timeoutSec = some seconds → seconds.toNat ≤ maxWireSeconds

theorem fits_iff_le_maxWireSeconds (seconds : Nat) :
    seconds * 1000 < UInt64.size ↔ seconds ≤ maxWireSeconds := by
  simp only [maxWireSeconds, UInt64.size]
  omega

theorem Gce.reflect_payload (gce : Gce) : gce.payload.reflect = gce.settled := by
  simp only [Gce.payload, Report.Gce.reflect, Gce.settled, Option.map_map,
    Uri.lastSegment_comp_lastSegment, Scope.mergeSort_canonicalList]

theorem Group.reflect_payload (group : Group) : group.payload.reflect = group.settled := by
  obtain ⟨_, _, disk, _⟩ := group
  cases disk <;>
    simp [Group.payload, Report.Group.reflect, Group.settled, Disk.payload, Report.Disk.reflect]

theorem PreemptibleGroup.reflect_payload (group : PreemptibleGroup) :
    group.payload.reflectPreemptible = group.settled := by
  obtain ⟨_, disk, _⟩ := group
  cases disk <;>
    simp [PreemptibleGroup.payload, Report.Group.reflectPreemptible, PreemptibleGroup.settled,
      PreemptibleDisk.payload, Report.Disk.reflectPreemptible]

theorem Action.reflect_payload (action : Action) (readable : action.IsReadable) :
    action.payload.reflect = .ok action := by
  obtain ⟨script, timeout⟩ := action
  cases timeout with
  | none => rfl
  | some seconds =>
      have fits : seconds.toNat * 1000 < UInt64.size :=
        (fits_iff_le_maxWireSeconds _).mpr (readable seconds rfl)
      simp only [Action.payload, Report.Action.reflect, Option.map_some,
        Duration.decodeSeconds_encodeSeconds seconds.toNat_lt, if_pos fits, UInt64.ofNat_toNat]

theorem Action.reflect_payload_overflow {action : Action} {seconds : UInt64}
    (timeout : action.timeoutSec = some seconds) (long : maxWireSeconds < seconds.toNat) :
    action.payload.reflect =
      .error ⟨action.script, Duration.encodeSeconds seconds.toNat, .overflow⟩ := by
  have tooLarge : ¬ seconds.toNat * 1000 < UInt64.size := fun fits =>
    Nat.not_le_of_lt long ((fits_iff_le_maxWireSeconds _).mp fits)
  simp only [Action.payload, Report.Action.reflect, timeout, Option.map_some,
    Duration.decodeSeconds_encodeSeconds seconds.toNat_lt, if_neg tooLarge]

theorem Action.reflect_payload_isOk_iff (action : Action) :
    (∃ read, action.payload.reflect = .ok read) ↔ action.IsReadable := by
  constructor
  · rintro ⟨read, ok⟩ seconds timeout
    by_contra long
    rw [Action.reflect_payload_overflow timeout (Nat.lt_of_not_le long)] at ok
    cases ok
  · exact fun readable => ⟨action, action.reflect_payload readable⟩

/-- The actions that are sent are read as they were, unless one of them cannot be read. -/
theorem mapM_reflect_payload {actions : List Action} (readable : ∀ a ∈ actions, a.IsReadable) :
    (actions.map Action.payload).mapM Report.Action.reflect = .ok actions := by
  induction actions with
  | nil => rfl
  | cons action rest ih =>
      rw [List.map_cons, List.mapM_cons, action.reflect_payload (readable _ List.mem_cons_self),
        ih fun a member => readable a (List.mem_cons_of_mem _ member)]
      rfl

theorem carryConfig_reflect_payload (config : Config) :
    carryConfig config (some (config.payload.reflectWith config.initializationActions)) =
      config.settled := by
  obtain ⟨_, _, _, gce, master, worker, preemptible, software, _⟩ := config
  cases software <;>
    simp [carryConfig, Config.payload, Report.Config.reflectWith, Config.settled, carrySoftware,
      Software.payload, Report.Software.reflect, Software.settled, Function.comp_def,
      Gce.reflect_payload, Group.reflect_payload, PreemptibleGroup.reflect_payload]

theorem settled_settled (project : String) (spec : Spec) :
    (spec.settled project).settled project = spec.settled project := by
  obtain ⟨_, _, _, _, config⟩ := spec
  rcases config with _ | ⟨_, _, _, gce, master, worker, preemptible, software, _⟩
  · rfl
  · cases gce <;> cases master <;> cases worker <;> cases preemptible <;> cases software <;>
      simp [settled, Config.settled, Gce.settled, Group.settled, PreemptibleGroup.settled,
        Software.settled]

theorem actions_settled (project : String) (spec : Spec) :
    (spec.settled project).actions = spec.actions := by
  obtain ⟨_, _, _, _, config⟩ := spec
  cases config <;> rfl

theorem payload_actions {spec : Spec} {defaultProject : Option String} {sent : Report}
    (accepted : spec.payload defaultProject = .ok sent) :
    sent.actions = spec.actions.map Action.payload := by
  obtain ⟨-, _, -, rfl⟩ := payload_eq_ok_iff.mp accepted
  obtain ⟨_, _, _, _, config⟩ := spec
  cases config <;> rfl

/-- Once the actions are read, the payload comes back as the settled spec. -/
theorem carry_reflectWith_payload {spec : Spec} {defaultProject : Option String} {sent : Report}
    {project : String} (accepted : spec.payload defaultProject = .ok sent)
    (resolved : spec.projectOr defaultProject = .ok project) :
    spec.carry (sent.reflectWith spec.actions) = spec.settled project := by
  obtain ⟨-, chosen, same, rfl⟩ := payload_eq_ok_iff.mp accepted
  obtain rfl : project = chosen := by simpa [resolved] using same
  have nonempty : project.isEmpty = false := by
    simpa using (projectOr_eq_ok_iff.mp resolved).2
  obtain ⟨name, given, region, labels, config⟩ := spec
  cases config with
  | none => simp [carry, Report.reflectWith, settled, nonempty]
  | some config =>
      simp [carry, Report.reflectWith, settled, nonempty, actions, carryConfig_reflect_payload]

theorem reflectOnto_of_readable {spec : Spec} {defaultProject : Option String} {sent : Report}
    {project : String} (accepted : spec.payload defaultProject = .ok sent)
    (resolved : spec.projectOr defaultProject = .ok project)
    (readable : ∀ action ∈ spec.actions, action.IsReadable) :
    sent.reflectOnto spec = .ok (spec.settled project) := by
  refine Report.reflectOnto_eq_ok_iff.mpr ⟨spec.actions, ?_, ?_⟩
  · rw [payload_actions accepted]
    exact mapM_reflect_payload readable
  · exact (carry_reflectWith_payload accepted resolved).symm

theorem reflectOnto_isOk_iff {spec : Spec} {defaultProject : Option String} {sent : Report}
    (accepted : spec.payload defaultProject = .ok sent) :
    (∃ live, sent.reflectOnto spec = .ok live) ↔ ∀ action ∈ spec.actions, action.IsReadable := by
  have each : (∃ read, sent.actions.mapM Report.Action.reflect = .ok read) ↔
      ∀ action ∈ spec.actions, action.IsReadable := by
    rw [exists_mapM_eq_ok_iff, payload_actions accepted]
    simp only [List.forall_mem_map, Action.reflect_payload_isOk_iff]
  rw [← each]
  constructor
  · rintro ⟨live, ok⟩
    obtain ⟨read, actions, -⟩ := Report.reflectOnto_eq_ok_iff.mp ok
    exact ⟨read, actions⟩
  · rintro ⟨read, actions⟩
    exact ⟨_, Report.reflectOnto_eq_ok_iff.mpr ⟨read, actions, rfl⟩⟩

/-- What was sent is read back as the settled spec, or the first timeout that is too long stops it.
A settled spec that is sent again comes back as it is. -/
theorem reflectOnto_payload {spec : Spec} {defaultProject : Option String} {sent : Report}
    (accepted : spec.payload defaultProject = .ok sent) :
    ((∃ live, sent.reflectOnto spec = .ok live) ↔ ∀ action ∈ spec.actions, action.IsReadable) ∧
    (∀ before action after seconds, spec.actions = before ++ action :: after →
      (∀ earlier ∈ before, earlier.IsReadable) → action.timeoutSec = some seconds →
      maxWireSeconds < seconds.toNat →
      sent.reflectOnto spec =
        .error ⟨action.script, Duration.encodeSeconds seconds.toNat, .overflow⟩) ∧
    (∀ live, sent.reflectOnto spec = .ok live →
      (∃ project, spec.projectOr defaultProject = .ok project ∧ live = spec.settled project) ∧
      ∀ otherDefault resent, live.payload otherDefault = .ok resent →
        resent.reflectOnto live = .ok live) := by
  obtain ⟨-, project, resolved, -⟩ := payload_eq_ok_iff.mp accepted
  refine ⟨reflectOnto_isOk_iff accepted, ?_, ?_⟩
  · intro before action after seconds split earlier timeout long
    rw [Report.reflectOnto_eq_error_iff, payload_actions accepted, split, List.map_append,
      List.map_cons]
    refine mapM_eq_error ?_ (Action.reflect_payload_overflow timeout long)
    intro sent member
    obtain ⟨one, inside, rfl⟩ := List.mem_map.mp member
    exact one.reflect_payload_isOk_iff.mpr (earlier one inside)
  · intro live ok
    have readable := (reflectOnto_isOk_iff accepted).mp ⟨live, ok⟩
    have settledSpec : live = spec.settled project := by
      simpa [reflectOnto_of_readable accepted resolved readable, eq_comm] using ok
    refine ⟨⟨project, resolved, settledSpec⟩, fun otherDefault resent again => ?_⟩
    subst settledSpec
    have sameProject : (spec.settled project).projectOr otherDefault = .ok project :=
      projectOr_eq_ok_iff.mpr ⟨rfl, (projectOr_eq_ok_iff.mp resolved).2⟩
    have stillReadable : ∀ action ∈ (spec.settled project).actions, action.IsReadable := by
      rwa [actions_settled]
    rw [reflectOnto_of_readable again sameProject stillReadable, settled_settled]

/-- A spec that uses an address, an alias and a timeout. -/
def sample : Spec where
  name := "etl"
  region := "europe-west1"
  config := some {
    stagingBucket := some "etl-staging"
    gce := some {
      zone := some "projects/p/zones/europe-west1-b"
      serviceAccountScopes := ["pubsub", "bigquery"] }
    software := some { imageVersion := some "1.3" }
    initializationActions := [{ script := "gs://b/init.sh", timeoutSec := some 600 }] }

/-- The payload of the sample. -/
def samplePayload : Report where
  clusterName := "etl"
  projectId := "analytics"
  config := some {
    configBucket := some "etl-staging"
    gce := some {
      zoneUri := some "projects/p/zones/europe-west1-b"
      serviceAccountScopes := [
        "https://www.googleapis.com/auth/bigquery", "https://www.googleapis.com/auth/pubsub"] }
    software := some { imageVersion := some "1.3" }
    initializationActions := [
      { executableFile := "gs://b/init.sh", executionTimeout := some "600s" }] }

theorem canonicalList_sample : Scope.canonicalList ["pubsub", "bigquery"] = [
    "https://www.googleapis.com/auth/bigquery", "https://www.googleapis.com/auth/pubsub"] := by
  have addresses : ["pubsub", "bigquery"].map Scope.canonical = [
      "https://www.googleapis.com/auth/pubsub", "https://www.googleapis.com/auth/bigquery"] := by
    decide +kernel
  have later : ¬ "https://www.googleapis.com/auth/pubsub" ≤
      "https://www.googleapis.com/auth/bigquery" := by
    decide +kernel
  rw [Scope.canonicalList, addresses]
  simp [List.mergeSort, List.MergeSort.Internal.splitInTwo, later]

theorem payload_sample : sample.payload (some "analytics") = .ok samplePayload := by
  have wire : Duration.encodeSeconds 600 = "600s" := by decide +kernel
  refine payload_eq_ok_iff.mpr ⟨by decide +kernel, "analytics", by decide +kernel, ?_⟩
  simp [sample, samplePayload, Config.payload, Gce.payload, Software.payload, Action.payload,
    canonicalList_sample, wire]

theorem reflectOnto_payload_sample :
    sample.payload (some "analytics") = .ok samplePayload ∧
      samplePayload.reflectOnto sample = .ok (sample.settled "analytics") := by
  have readable : ∀ action ∈ sample.actions, action.IsReadable := by
    simp only [sample, actions, Option.map_some, Option.getD_some, List.forall_mem_singleton]
    rintro seconds ⟨⟩
    decide
  obtain ⟨succeeds, -, settledSpec⟩ := reflectOnto_payload payload_sample
  obtain ⟨live, ok⟩ := succeeds.mpr readable
  obtain ⟨⟨project, resolved, same⟩, -⟩ := settledSpec live ok
  have inDefault : sample.projectOr (some "analytics") = .ok "analytics" := by decide +kernel
  obtain rfl : "analytics" = project := Except.ok.inj (inDefault.symm.trans resolved)
  exact ⟨payload_sample, ok.trans (congrArg Except.ok same)⟩

end Spec

end ManagedCluster
