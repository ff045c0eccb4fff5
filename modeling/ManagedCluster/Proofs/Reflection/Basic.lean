import ManagedCluster.Payload
import ManagedCluster.Proofs.Result
import ManagedCluster.Reflection

/-! # When payloads and live states exist

A payload exists for a spec without violations whose project is known, and a report has a live state
when the timeouts of all its actions can be read. What the payload and the live state then are is
said once, here.
-/

namespace ManagedCluster

namespace Spec

theorem projectOr_eq_ok_iff {spec : Spec} {defaultProject : Option String} {project : String} :
    spec.projectOr defaultProject = .ok project ↔
      spec.project.or defaultProject = some project ∧ project ≠ "" := by
  unfold projectOr
  cases chosen : spec.project.or defaultProject with
  | none => simp
  | some given =>
      cases empty : given.isEmpty with
      | true =>
          obtain rfl := String.isEmpty_iff.mp empty
          simp [Option.filter]
      | false =>
          have nonempty : given ≠ "" := fun same => by simp [same] at empty
          simp only [Option.filter, empty, Bool.not_false, if_true, Except.ok.injEq,
            Option.some.injEq]
          exact ⟨fun same => ⟨same, same ▸ nonempty⟩, And.left⟩

theorem payload_eq_ok_iff {spec : Spec} {defaultProject : Option String} {sent : Report} :
    spec.payload defaultProject = .ok sent ↔
      spec.violations = [] ∧ ∃ project, spec.projectOr defaultProject = .ok project ∧
        sent = {
          clusterName := spec.name
          projectId := project
          config := spec.config.map Config.payload
          labels := spec.labels } := by
  unfold payload
  cases violations : spec.violations with
  | cons first others => simp
  | nil =>
      cases resolved : spec.projectOr defaultProject with
      | error e => simp [bind, Except.bind]
      | ok project => simp [bind, Except.bind, pure, Except.pure, eq_comm]

end Spec

namespace Report

/-- The actions of a report. -/
def actions (report : Report) : List Action :=
  (report.config.map (·.initializationActions)).getD []

/-- The live state of a report whose actions are already read. -/
def reflectWith (report : Report) (actions : List Spec.Action) : Spec where
  name := report.clusterName
  project := if report.projectId.isEmpty then none else some report.projectId
  labels := report.labels
  config := report.config.map (·.reflectWith actions)

theorem Action.reflect_eq_ok_iff {action : Action} {read : Spec.Action} :
    action.reflect = .ok read ↔
      (action.executionTimeout = none ∧ read = { script := action.executableFile }) ∨
      ∃ timeout seconds, action.executionTimeout = some timeout ∧
        Duration.decodeSeconds timeout = .ok seconds ∧
        read = { script := action.executableFile, timeoutSec := some (UInt64.ofNat seconds) } := by
  unfold Action.reflect
  cases action.executionTimeout with
  | none => simp [eq_comm]
  | some timeout =>
      cases decoded : Duration.decodeSeconds timeout with
      | error failure => simp [decoded]
      | ok seconds => simp [decoded, eq_comm]

theorem reflect_eq (report : Report) :
    report.reflect = (report.actions.mapM Action.reflect).map report.reflectWith := by
  unfold reflect actions reflectWith
  cases report.config with
  | none => rfl
  | some config =>
      simp only [Config.reflect, Option.map_some, Option.getD_some]
      cases config.initializationActions.mapM Action.reflect <;> rfl

theorem reflectOnto_eq_ok_iff {report : Report} {prior live : Spec} :
    report.reflectOnto prior = .ok live ↔
      ∃ actions, report.actions.mapM Action.reflect = .ok actions ∧
        live = prior.carry (report.reflectWith actions) := by
  rw [reflectOnto, reflect_eq]
  cases report.actions.mapM Action.reflect <;> simp [Except.map, eq_comm]

theorem reflectOnto_eq_error_iff {report : Report} {prior : Spec} {error : ReflectError} :
    report.reflectOnto prior = .error error ↔
      report.actions.mapM Action.reflect = .error error := by
  rw [reflectOnto, reflect_eq]
  cases report.actions.mapM Action.reflect <;> simp [Except.map]

end Report

end ManagedCluster
