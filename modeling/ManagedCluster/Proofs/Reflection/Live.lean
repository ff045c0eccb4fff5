import ManagedCluster.Drift
import ManagedCluster.Patch
import ManagedCluster.Proofs.Reflection.Basic

/-! # Parts of a live state

Each part of a live state comes from the report alone or from the prior spec alone, whichever blocks
the two of them have. An absent block is read like one without attributes.
-/

namespace ManagedCluster

namespace Report

def gce? (report : Report) : Option Gce := report.config.bind (·.gce)

def master? (report : Report) : Option Group := report.config.bind (·.master)

def worker? (report : Report) : Option Group := report.config.bind (·.worker)

def secondaryWorker? (report : Report) : Option Group := report.config.bind (·.secondaryWorker)

def software? (report : Report) : Option Software := report.config.bind (·.software)

def workerCount? (report : Report) : Option UInt32 := report.worker?.bind (·.numInstances)

def secondaryWorkerCount? (report : Report) : Option UInt32 :=
  report.secondaryWorker?.bind (·.numInstances)

/-- The labels that are not the provider's. -/
def userLabels (report : Report) : StringMap := report.labels.filterKeys (!isProviderLabel ·)

end Report

namespace Spec

variable (prior : Spec) (report : Report) (actions : List Action)

/-- A block that is reported by itself is carried over as it is reported. -/
theorem bind_carry {α β : Type} {part : Config → Option α} {piece : Report.Config → Option β}
    {read : β → α} (missing : part {} = none)
    (carries : ∀ config live, part (carryConfig config live) = part (live.getD {}))
    (reads : ∀ reported actions,
      part (Report.Config.reflectWith reported actions) = (piece reported).map read) :
    (prior.carry (report.reflectWith actions)).config.bind part =
      (report.config.bind piece).map read := by
  cases given : prior.config <;> cases found : report.config <;>
    simp [carry, Report.reflectWith, given, found, missing, carries, reads]

@[simp] theorem gce?_carry :
    (prior.carry (report.reflectWith actions)).gce? = report.gce?.map Report.Gce.reflect :=
  bind_carry prior report actions rfl (fun _ _ => rfl) fun _ _ => rfl

@[simp] theorem master?_carry :
    (prior.carry (report.reflectWith actions)).master? = report.master?.map Report.Group.reflect :=
  bind_carry prior report actions rfl (fun _ _ => rfl) fun _ _ => rfl

@[simp] theorem worker?_carry :
    (prior.carry (report.reflectWith actions)).worker? = report.worker?.map Report.Group.reflect :=
  bind_carry prior report actions rfl (fun _ _ => rfl) fun _ _ => rfl

@[simp] theorem preemptibleWorker?_carry :
    (prior.carry (report.reflectWith actions)).preemptibleWorker? =
      report.secondaryWorker?.map Report.Group.reflectPreemptible :=
  bind_carry prior report actions rfl (fun _ _ => rfl) fun _ _ => rfl

@[simp] theorem stagingBucket_carry :
    (prior.carry (report.reflectWith actions)).config.bind (·.stagingBucket) =
      prior.config.bind (·.stagingBucket) := by
  cases given : prior.config <;> cases found : report.config <;>
    simp [carry, Report.reflectWith, given, found, carryConfig, Report.Config.reflectWith]

@[simp] theorem imageVersion_carry :
    (prior.carry (report.reflectWith actions)).software?.bind (·.imageVersion) =
      report.software?.bind (·.imageVersion) := by
  unfold Spec.software? Report.software?
  rcases prior with ⟨_, _, _, _, _ | ⟨_, _, _, _, _, _, _, _ | _, _⟩⟩ <;>
    rcases report with ⟨_, _, _ | ⟨_, _, _, _, _, _ | _, _⟩, _, _⟩ <;> rfl

theorem overrideProperties_carry {software : Software} (asked : prior.software? = some software) :
    (prior.carry (report.reflectWith actions)).software?.map (·.overrideProperties) =
      some software.overrideProperties := by
  obtain ⟨config, given, inConfig⟩ := Option.bind_eq_some_iff.mp asked
  simp [carry, Spec.software?, given, carryConfig, carrySoftware, inConfig]

@[simp] theorem userLabels_carry_reflectWith :
    (prior.carry (report.reflectWith actions)).userLabels = report.userLabels := rfl

@[simp] theorem workerCount?_carry :
    (prior.carry (report.reflectWith actions)).workerCount? = report.workerCount? := by
  unfold Spec.workerCount? Report.workerCount?
  rw [worker?_carry]
  cases report.worker? <;> rfl

@[simp] theorem preemptibleWorkerCount?_carry :
    (prior.carry (report.reflectWith actions)).preemptibleWorkerCount? =
      report.secondaryWorkerCount? := by
  unfold Spec.preemptibleWorkerCount? Report.secondaryWorkerCount?
  rw [preemptibleWorker?_carry]
  cases report.secondaryWorker? <;> rfl

variable {report actions}

theorem actions_of_read (read : report.actions.mapM Report.Action.reflect = .ok actions) :
    (prior.carry (report.reflectWith actions)).actions = actions := by
  unfold Spec.actions carry Report.reflectWith
  cases found : report.config with
  | none =>
      simp only [Report.actions, found] at read
      cases read
      cases prior.config <;> rfl
  | some config => cases prior.config <;> rfl

end Spec

end ManagedCluster
