import ManagedCluster.Proofs.Reflection.WriteOnly

/-! # Live states and the spec they are read for

A report that cannot be read fails in the same way for every spec. Otherwise the live state is what
the report says by itself, with the attributes that are never reported taken from the spec, in
blocks that are made for them where the report has none. Nothing else of the spec is left in it, so
reading the same report again for the live state changes nothing.
-/

namespace ManagedCluster

namespace Report

/-- The timeout of the action can be read, if it has one. -/
def Action.IsReadable (action : Action) : Prop :=
  ∀ timeout, action.executionTimeout = some timeout →
    ∃ seconds, Duration.decodeSeconds timeout = .ok seconds

/-- The error names the first action whose timeout cannot be read. -/
inductive FirstUnreadable (report : Report) : ReflectError → Prop
  | mk {before after : List Action} {action : Action} {timeout : String}
      {error : DurationParseError} (split : report.actions = before ++ action :: after)
      (earlier : ∀ action ∈ before, action.IsReadable)
      (isSet : action.executionTimeout = some timeout)
      (unreadable : Duration.decodeSeconds timeout = .error error) :
      FirstUnreadable report ⟨action.executableFile, timeout, error⟩

theorem Action.exists_reflect_eq_ok_iff {action : Action} :
    (∃ read, action.reflect = .ok read) ↔ action.IsReadable := by
  simp only [Action.reflect_eq_ok_iff, IsReadable]
  cases action.executionTimeout with
  | none => simp
  | some timeout => simp

theorem Action.reflect_eq_error_iff {action : Action} {error : ReflectError} :
    action.reflect = .error error ↔
      ∃ timeout failure, action.executionTimeout = some timeout ∧
        Duration.decodeSeconds timeout = .error failure ∧
        error = ⟨action.executableFile, timeout, failure⟩ := by
  unfold Action.reflect
  cases action.executionTimeout with
  | none => simp
  | some timeout => cases decoded : Duration.decodeSeconds timeout <;> simp [decoded, eq_comm]

theorem reflectOnto_eq_error_iff_firstUnreadable {report : Report} {prior : Spec}
    {error : ReflectError} :
    report.reflectOnto prior = .error error ↔ report.FirstUnreadable error := by
  simp only [reflectOnto_eq_error_iff, mapM_eq_error_iff, Action.exists_reflect_eq_ok_iff,
    Action.reflect_eq_error_iff]
  constructor
  · rintro ⟨before, action, after, split, earlier, timeout, failure, isSet, unreadable, rfl⟩
    exact .mk split earlier isSet unreadable
  · rintro ⟨split, earlier, isSet, unreadable⟩
    exact ⟨_, _, _, split, earlier, _, _, isSet, unreadable, rfl⟩

theorem exists_reflectOnto_eq_error_iff {report : Report} {prior : Spec} :
    (∃ error, report.reflectOnto prior = .error error) ↔
      ∃ action ∈ report.actions, ¬ action.IsReadable := by
  have succeeds : (∃ live, report.reflectOnto prior = .ok live) ↔
      ∀ action ∈ report.actions, action.IsReadable := by
    simp only [reflectOnto_eq_ok_iff, ← Action.exists_reflect_eq_ok_iff, ← exists_mapM_eq_ok_iff]
    constructor
    · rintro ⟨_, actions, read, _⟩
      exact ⟨actions, read⟩
    · rintro ⟨actions, read⟩
      exact ⟨_, actions, read, rfl⟩
  cases read : report.reflectOnto prior with
  | ok live => simpa [read] using succeeds
  | error error => simpa [read] using succeeds

end Report

namespace Spec

/-- The specs agree in what no report has, in the project, and in the blocks that hold it. -/
structure SameUnreported (given other : Spec) : Prop where
  writeOnly : other.writeOnly = given.writeOnly
  project : other.project = given.project
  config : other.config.isSome = given.config.isSome
  software : other.software?.isSome = given.software?.isSome

/-- A block is the same up to a relation. Where there is none, a new one is made exactly if it is
needed, and it is so related to the empty block. -/
inductive SameBlock {α : Type} (related : α → α → Prop) (empty : α) (needed : Prop) :
    Option α → Option α → Prop
  | absent : ¬ needed → SameBlock related empty needed none none
  | kept {own live : α} : related own live → SameBlock related empty needed (some own) (some live)
  | created {live : α} : needed → related empty live → SameBlock related empty needed none (some live)

/-- The software differs in nothing but the properties that were asked for. -/
def SameSoftware (own live : Software) : Prop :=
  { live with overrideProperties := own.overrideProperties } = own

/-- The config differs in nothing that is reported. Software that the report lacks is there exactly
if the spec had some. -/
structure SameConfig (prior : Option Software) (own live : Config) : Prop where
  software : SameBlock SameSoftware {} prior.isSome own.software live.software
  others : { live with
    deleteAutogenBucket := own.deleteAutogenBucket
    stagingBucket := own.stagingBucket
    software := own.software } = own

/-- The live state differs in nothing that is reported from the report alone. A config that the
report lacks is there exactly if the spec had one. -/
structure SameReported (prior own live : Spec) : Prop where
  project : live.project = own.project.or prior.project
  config :
    SameBlock (SameConfig prior.software?) {} prior.config.isSome own.config live.config
  others : { live with region := own.region, project := own.project, config := own.config } = own

section Carry

variable {given other : Spec}

theorem carryConfig_self (config : Config) : carryConfig config (some config) = config := by
  obtain ⟨_, _, _, _, _, _, _, software, _⟩ := config
  cases software <;> rfl

theorem carryConfig_carryConfig (prior : Config) (live : Option Config) :
    carryConfig (carryConfig prior live) live = carryConfig prior live := by
  obtain ⟨_, _, _, _, _, _, _, software, _⟩ := prior
  cases software with
  | some software => rfl
  | none =>
      obtain _ | ⟨_, _, _, _, _, _, _, reported, _⟩ := live
      · rfl
      · cases reported <;> rfl

/-- What is carried over once is carried over for good. -/
theorem carry_carry (prior live : Spec) : (prior.carry live).carry live = prior.carry live := by
  obtain ⟨_, given, _, _, config⟩ := prior
  obtain ⟨_, reported, _, _, block⟩ := live
  cases reported <;> cases config <;> cases block <;>
    simp [carry, carryConfig_self, carryConfig_carryConfig]

theorem carryConfig_congr {given other : Config} (live : Option Config)
    (deleted : other.deleteAutogenBucket = given.deleteAutogenBucket)
    (bucket : other.stagingBucket = given.stagingBucket)
    (properties : other.software.map (·.overrideProperties) =
      given.software.map (·.overrideProperties)) :
    carryConfig other live = carryConfig given live := by
  simp only [carryConfig, deleted, bucket]
  cases ofGiven : given.software <;> cases ofOther : other.software <;>
    simp_all [carrySoftware]

theorem carry_congr (same : given.SameUnreported other) (live : Spec) :
    other.carry live = given.carry live := by
  obtain ⟨unreported, project, blocks, software⟩ := same
  simp only [writeOnly, WriteOnly.mk.injEq] at unreported
  obtain ⟨region, deleted, bucket, properties⟩ := unreported
  simp only [carry, region, project]
  cases ofGiven : given.config with
  | none =>
      cases ofOther : other.config with
      | none => rfl
      | some there => simp [ofGiven, ofOther] at blocks
  | some here =>
      cases ofOther : other.config with
      | none => simp [ofGiven, ofOther] at blocks
      | some there =>
          simp only [ofGiven, ofOther, software?, Option.map_some, Option.getD_some,
            Option.bind_some] at deleted bucket properties software
          have same : there.software.map (·.overrideProperties) =
              here.software.map (·.overrideProperties) := by
            cases inHere : here.software <;> cases inThere : there.software <;> simp_all
          simp only [carryConfig_congr live.config deleted bucket same]

theorem sameConfig_carryConfig (prior : Config) (own : Option Config) :
    SameConfig prior.software (own.getD {}) (carryConfig prior own) where
  software := by
    simp only [carryConfig]
    cases prior.software with
    | none =>
        cases (own.getD {}).software with
        | none => exact .absent Bool.false_ne_true
        | some software => exact .kept rfl
    | some carried =>
        cases (own.getD {}).software with
        | none => exact .created rfl rfl
        | some software => exact .kept rfl
  others := rfl

theorem sameConfig_self (config : Config) : SameConfig none config config where
  software := by
    cases config.software with
    | none => exact .absent Bool.false_ne_true
    | some software => exact .kept rfl
  others := rfl

theorem sameReported_carry (prior own : Spec) : prior.SameReported own (prior.carry own) where
  project := rfl
  config := by
    simp only [carry, software?]
    cases prior.config with
    | none =>
        cases own.config with
        | none => exact .absent Bool.false_ne_true
        | some config => exact .kept (sameConfig_self config)
    | some carried =>
        cases own.config with
        | none => exact .created rfl (sameConfig_carryConfig carried none)
        | some config => exact .kept (sameConfig_carryConfig carried (some config))
  others := rfl

end Carry

/-- A live state has its write-only attributes from the spec that it is read for, and the blocks that
it needs for them. All else is from the report, which alone decides whether it can be read. -/
theorem reflectOnto_takes_writeOnly (prior : Spec) (report : Report) :
    (∀ error, report.reflectOnto prior = .error error ↔ report.FirstUnreadable error) ∧
    ((∃ error, report.reflectOnto prior = .error error) ↔
      ∃ action ∈ report.actions, ¬ action.IsReadable) ∧
    ∀ live, report.reflectOnto prior = .ok live →
      (∀ other, prior.SameUnreported other → report.reflectOnto other = .ok live) ∧
      report.reflectOnto live = .ok live ∧
      live.writeOnly = prior.writeOnly ∧
      ∃ own, report.reflect = .ok own ∧ prior.SameReported own live := by
  refine ⟨fun _ => Report.reflectOnto_eq_error_iff_firstUnreadable,
    Report.exists_reflectOnto_eq_error_iff, ?_⟩
  intro live reflected
  obtain ⟨actions, read, rfl⟩ := Report.reflectOnto_eq_ok_iff.mp reflected
  refine ⟨?_, ?_, writeOnly_carry, report.reflectWith actions, ?_, sameReported_carry prior _⟩
  · intro other same
    exact Report.reflectOnto_eq_ok_iff.mpr ⟨actions, read, (carry_congr same _).symm⟩
  · exact Report.reflectOnto_eq_ok_iff.mpr ⟨actions, read, (carry_carry prior _).symm⟩
  · rw [Report.reflect_eq, read]
    rfl

/-- A spec with attributes of all kinds, and a zone and properties that are out of date. -/
def stale : Spec where
  name := "etl"
  region := "europe-west1"
  config := some {
    deleteAutogenBucket := true
    bucket := some "dataproc-1"
    gce := some { zone := some "europe-west1-b" }
    software := some {
      overrideProperties := .ofList [("spark:cores", "2")]
      properties := .ofList [("spark:cores", "1")] } }

/-- The spec without what is out of date. -/
def unplaced : Spec where
  name := "batch"
  region := "europe-west1"
  config := some {
    deleteAutogenBucket := true
    software := some { overrideProperties := .ofList [("spark:cores", "2")] } }

/-- A report without software. -/
def relocated : Report where
  clusterName := "etl"
  projectId := "analytics"
  config := some {
    configBucket := some "dataproc-2"
    initializationActions := [
      { executableFile := "gs://b/init.sh", executionTimeout := some "600s" }] }

def relocatedLive : Spec where
  name := "etl"
  project := some "analytics"
  region := "europe-west1"
  config := some {
    deleteAutogenBucket := true
    bucket := some "dataproc-2"
    software := some { overrideProperties := .ofList [("spark:cores", "2")] }
    initializationActions := [{ script := "gs://b/init.sh", timeoutSec := some 600 }] }

/-- Nothing that is out of date is left, and a second reading finds the same. -/
theorem reflectOnto_takes_writeOnly_relocated :
    relocated.reflectOnto stale = .ok relocatedLive ∧ stale.SameUnreported unplaced ∧
    relocated.reflectOnto unplaced = .ok relocatedLive ∧
    relocated.reflectOnto relocatedLive = .ok relocatedLive := by
  have reflected : relocated.reflectOnto stale = .ok relocatedLive := by decide +kernel
  have same : stale.SameUnreported unplaced := ⟨by decide +kernel, rfl, rfl, rfl⟩
  obtain ⟨-, -, succeeds⟩ := reflectOnto_takes_writeOnly stale relocated
  obtain ⟨unchanged, again, -⟩ := succeeds relocatedLive reflected
  exact ⟨reflected, same, unchanged unplaced same, again⟩

end Spec

end ManagedCluster
