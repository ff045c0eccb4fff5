import ManagedCluster.Proofs.Drift.Settable
import ManagedCluster.Proofs.Reflection.Live

/-! # What a live state takes from a spec

Some attributes are sent to the provider and never reported. The live state has them from the spec
that the cluster was read for, whatever the report says, so they drift in it exactly as they do in
that spec. All other attributes are the same whichever spec the cluster was read for.
-/

namespace ManagedCluster

namespace Spec

/-- The attributes that no report has, with those of absent blocks at their defaults. -/
structure WriteOnly where
  region : String
  deleteAutogenBucket : Bool
  stagingBucket : Option String
  overrideProperties : StringMap
  deriving DecidableEq

def writeOnly (spec : Spec) : WriteOnly where
  region := spec.region
  deleteAutogenBucket := (spec.config.map (·.deleteAutogenBucket)).getD false
  stagingBucket := spec.config.bind (·.stagingBucket)
  overrideProperties := (spec.software?.map (·.overrideProperties)).getD .empty

/-- The report has a value for the attribute, or could have one. An empty project is none. -/
def Attribute.isReported (report : Report) : Attribute → Bool
  | region | stagingBucket | overrideProperties => false
  | project => !report.projectId.isEmpty
  | _ => true

variable {given other desired : Spec} {report : Report} {actions : List Action}

@[simp] theorem writeOnly_carry :
    (given.carry (report.reflectWith actions)).writeOnly = given.writeOnly := by
  unfold writeOnly software?
  rcases given with ⟨_, _, _, _, _ | ⟨_, _, _, _, _, _, _, _ | _, _⟩⟩ <;>
    rcases report with ⟨_, _, _ | ⟨_, _, _, _, _, _ | _, _⟩, _, _⟩ <;> rfl

theorem overrideProperties_hasDrifted_iff {prior : Spec} :
    prior.hasDrifted desired .overrideProperties = true ↔
      desired.writeOnly.overrideProperties ≠ .empty ∧
        desired.writeOnly.overrideProperties ≠ prior.writeOnly.overrideProperties := by
  rw [← not_iff_not, Bool.not_eq_true, hasDrifted_eq_false_iff]
  simp only [asked, Agrees, bind_nonEmptyMap_eq_some_iff, writeOnly]
  cases desired.software? with
  | none => simp
  | some wanted => cases prior.software? <;> grind

/-- What is not reported drifts as it does in the spec that it comes from. -/
theorem hasDrifted_carry_of_unreported {a : Attribute} (unreported : a.isReported report = false) :
    (given.carry (report.reflectWith actions)).hasDrifted desired a =
      given.hasDrifted desired a := by
  cases a with
  | region => rfl
  | stagingBucket => simp only [hasDrifted, stagingBucket_carry]
  | overrideProperties =>
      rw [Bool.eq_iff_iff, overrideProperties_hasDrifted_iff, overrideProperties_hasDrifted_iff,
        writeOnly_carry]
  | project =>
      have missing : report.projectId.isEmpty = true := by
        simpa [Attribute.isReported] using unreported
      simp [hasDrifted, carry, Report.reflectWith, missing]
  | _ => cases unreported

/-- What is reported drifts whichever spec the rest comes from. -/
theorem hasDrifted_carry_of_reported {a : Attribute} (reported : a.isReported report = true)
    (read : report.actions.mapM Report.Action.reflect = .ok actions) :
    (given.carry (report.reflectWith actions)).hasDrifted desired a =
      (other.carry (report.reflectWith actions)).hasDrifted desired a := by
  cases a with
  | region | stagingBucket | overrideProperties => cases reported
  | name => rfl
  | project =>
      have present : report.projectId.isEmpty = false := by
        simpa [Attribute.isReported] using reported
      simp [hasDrifted, carry, Report.reflectWith, present]
  | initializationActions => simp only [hasDrifted, actions_of_read _ read]
  | _ =>
      simp only [hasDrifted, scopes, gce?_carry, master?_carry, worker?_carry,
        preemptibleWorker?_carry, imageVersion_carry]

theorem agrees_self (spec : Spec) {a : Settable} {value : a.Value}
    (set : spec.asked a = some value) : spec.Agrees a value := by
  cases a with
  | fixed a =>
      cases a with
      | zone | network | subnetwork | masterMachineType | workerMachineType =>
          exact ⟨value, set, rfl⟩
      | imageVersion => exact ⟨value, set, .inl rfl⟩
      | serviceAccountScopes =>
          obtain ⟨-, same⟩ := bind_nonEmpty_eq_some_iff.mp set
          simp [Agrees, scopes, same, Scope.equivalent_iff]
      | initializationActions =>
          obtain ⟨-, same⟩ := bind_nonEmpty_eq_some_iff.mp set
          have runs : List.Forall₂ Action.SameRun value value :=
            List.forall₂_same.mpr fun action _ => ⟨rfl, fun _ timeout => timeout⟩
          simpa [Agrees, Spec.actions, same] using runs
      | _ => exact set
  | field f =>
      cases f with
      | labels =>
          simp only [asked] at set
          split at set
          · cases set
          · cases set
            rfl
      | _ => exact set
  | deleteAutogenBucket => exact set

theorem hasDrifted_self (spec : Spec) (a : Attribute) : spec.hasDrifted spec a = false :=
  (hasDrifted_eq_false_iff a).mpr fun _ set => spec.agrees_self set

/-- After a second reading for the desired spec, only what is reported can drift from it. -/
theorem replacements_carry_self (read : report.actions.mapM Report.Action.reflect = .ok actions) :
    (desired.carry (report.reflectWith actions)).replacements desired =
      ((given.carry (report.reflectWith actions)).replacements desired).filter
        (·.isReported report) := by
  unfold replacements
  rw [List.filter_filter]
  apply List.filter_congr
  intro a _
  cases reported : a.isReported report with
  | true => rw [Bool.true_and, hasDrifted_carry_of_reported reported read]
  | false => rw [Bool.false_and, hasDrifted_carry_of_unreported reported, hasDrifted_self]

/-- Nothing is lost in the second reading if what drifted between the two specs is reported. -/
theorem filter_replacements_carry_eq_self_iff :
    ((given.carry (report.reflectWith actions)).replacements desired).filter
        (·.isReported report) = (given.carry (report.reflectWith actions)).replacements desired ↔
      ∀ a ∈ given.replacements desired, a.isReported report = true := by
  rw [List.filter_eq_self]
  simp only [replacements, List.mem_filter, Attribute.mem_all, true_and]
  apply forall_congr'
  intro a
  cases reported : a.isReported report with
  | true => simp
  | false => rw [hasDrifted_carry_of_unreported reported]

end Spec

end ManagedCluster
