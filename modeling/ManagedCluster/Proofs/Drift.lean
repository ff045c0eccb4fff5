import ManagedCluster.Drift
import ManagedCluster.Patch
import ManagedCluster.Proofs.Scope
import Mathlib.Data.List.Forall2

/-! # When nothing has drifted

The comparisons of a desired spec with a prior one, each as a statement about the values compared. A
desired value that is set has to be kept, up to what its attribute allows.
-/

namespace ManagedCluster

/-- A value that is set is still there, up to a relation. A value that is unset may become any. -/
def Kept {α β : Type} (related : α → β → Prop) (sent : Option α) (given : Option β) : Prop :=
  ∀ value, sent = some value → ∃ reported, given = some reported ∧ related value reported

namespace Kept

variable {α β γ δ : Type} {related : α → β → Prop} {sent : Option α} {given : Option β}

theorem some_iff {value : α} :
    Kept related (some value) given ↔
      ∃ reported, given = some reported ∧ related value reported := by
  simp [Kept]

theorem some_eq_iff {value : α} {given : Option α} :
    Kept Eq (some value) given ↔ some value = given := by
  rw [some_iff]
  constructor
  · rintro ⟨_, rfl, rfl⟩
    rfl
  · rintro rfl
    exact ⟨value, rfl, rfl⟩

theorem none : Kept related Option.none given := fun _ isSet => nomatch isSet

theorem refl (sent : Option α) : Kept Eq sent sent :=
  fun value isSet => ⟨value, isSet, rfl⟩

theorem eq_iff {given : Option α} :
    Kept Eq sent given ↔ ∀ value, sent = some value → given = some value := by
  constructor
  · intro kept value isSet
    obtain ⟨found, inGiven, rfl⟩ := kept value isSet
    exact inGiven
  · intro kept value isSet
    exact ⟨value, kept value isSet, rfl⟩

theorem map_left_iff {f : γ → α} {sent : Option γ} :
    Kept related (sent.map f) given ↔ Kept (fun value => related (f value)) sent given := by
  simp [Kept]

theorem map_right {f : β → γ} {after : α → γ → Prop} (kept : Kept related sent given)
    (step : ∀ value reported, related value reported → after value (f reported)) :
    Kept after sent (given.map f) := by
  intro value isSet
  obtain ⟨reported, rfl, agree⟩ := kept value isSet
  exact ⟨f reported, rfl, step value reported agree⟩

theorem bind {f : α → Option γ} {g : β → Option δ} {after : γ → δ → Prop}
    (kept : Kept related sent given)
    (step : ∀ value reported, related value reported → Kept after (f value) (g reported)) :
    Kept after (sent.bind f) (given.bind g) := by
  intro value isSet
  obtain ⟨block, inBlock, found⟩ := Option.bind_eq_some_iff.mp isSet
  obtain ⟨other, rfl, agree⟩ := kept block inBlock
  exact step block other agree value found

theorem filter (kept : Kept related sent given) (keep : α → Bool) :
    Kept related (sent.filter keep) given := fun value isSet =>
  kept value (Option.filter_eq_some_iff.mp isSet).1

end Kept

/-- Two addresses with the same last segment. -/
def SameSegment (sent given : String) : Prop := Uri.lastSegment given = Uri.lastSegment sent

theorem Kept.map_lastSegment_left_iff {sent given : Option String} :
    Kept SameSegment (sent.map Uri.lastSegment) given ↔ Kept SameSegment sent given := by
  rw [Kept.map_left_iff]
  unfold SameSegment
  simp only [Uri.lastSegment_idem]

theorem Kept.map_lastSegment_right {sent given : Option String}
    (kept : Kept SameSegment sent given) :
    Kept SameSegment sent (given.map Uri.lastSegment) :=
  kept.map_right fun _ reported same => (Uri.lastSegment_idem reported).trans same

/-- The version that was sent, or one that goes on after a dot or a dash. -/
def MoreSpecific (sent given : String) : Prop :=
  given = sent ∨ ∃ rest, given = sent ++ "." ++ rest ∨ given = sent ++ "-" ++ rest

namespace Spec

theorem differs_eq_false_iff {α : Type} [DecidableEq α] {desired prior : Option α} :
    differs desired prior = false ↔ Kept Eq desired prior := by
  cases desired with
  | none => simp [differs, Kept]
  | some value => simp [differs, Kept.some_eq_iff]

theorem differsUri_eq_false_iff {desired prior : Option String} :
    differsUri desired prior = false ↔ Kept SameSegment desired prior := by
  rw [differsUri, differs_eq_false_iff, Kept.map_left_iff]
  cases desired with
  | none => simp [Kept]
  | some value => simp [Kept.some_iff, SameSegment]

theorem changed?_eq_none_iff {α : Type} [DecidableEq α] {desired prior : Option α} :
    changed? prior desired = none ↔ Kept Eq desired prior := by
  cases desired with
  | none => simp [changed?, Kept]
  | some value => simp [changed?, Kept.some_eq_iff]

theorem replacements_eq_nil_iff {prior desired : Spec} :
    prior.replacements desired = [] ↔ ∀ changed, prior.hasDrifted desired changed = false := by
  simp [replacements, List.filter_eq_nil_iff, Attribute.mem_all]

theorem patch?_eq_none_iff {prior desired : Spec} :
    prior.patch? desired = none ↔
      changedLabels? prior desired = none ∧
      changed? prior.workerCount? desired.workerCount? = none ∧
      changed? prior.preemptibleWorkerCount? desired.preemptibleWorkerCount? = none := by
  unfold patch?
  cases changedLabels? prior desired <;>
    cases changed? prior.workerCount? desired.workerCount? <;>
    cases changed? prior.preemptibleWorkerCount? desired.preemptibleWorkerCount? <;> simp

theorem nonEmpty_eq_some_iff {α : Type} {items given : List α} :
    nonEmpty items = some given ↔ items ≠ [] ∧ items = given := by
  cases items <;> simp [nonEmpty]

theorem notAny_eq_false_iff {α β : Type} {desired : Option α} {prior : Option β}
    {agrees : α → β → Bool} :
    (desired.any fun value => !prior.any (agrees value)) = false ↔
      Kept (fun value other => agrees value other = true) desired prior := by
  cases desired with
  | none => simp [Kept]
  | some value => cases prior <;> simp [Kept.some_iff]

theorem versionMatches_iff {desired given : String} :
    versionMatches desired given = true ↔ MoreSpecific desired given := by
  constructor
  · intro accepted
    simp only [versionMatches, Bool.or_eq_true, decide_eq_true_eq, Bool.and_eq_true] at accepted
    rcases accepted with same | ⟨starts, goesOn⟩
    · exact .inl (String.toList_inj.mp same)
    · obtain ⟨rest, whole⟩ := List.isPrefixOf_iff_prefix.mp starts
      rw [← whole, List.drop_left] at goesOn
      cases rest with
      | nil => cases goesOn
      | cons c rest =>
          refine .inr ⟨String.ofList rest, ?_⟩
          rcases Bool.or_eq_true_iff.mp goesOn with dot | dash
          · obtain rfl := beq_iff_eq.mp dot
            exact .inl (String.toList_inj.mp (by simp [← whole]))
          · obtain rfl := beq_iff_eq.mp dash
            exact .inr (String.toList_inj.mp (by simp [← whole]))
  · intro specific
    rcases specific with rfl | ⟨rest, rfl | rfl⟩ <;> simp [versionMatches]

theorem actionsMatch_iff {desired reported : List Action} :
    actionsMatch desired reported = true ↔
      List.Forall₂ (fun wanted found => wanted.isMet found = true) desired reported := by
  induction desired generalizing reported with
  | nil => cases reported <;> simp [actionsMatch]
  | cons first others ih =>
      cases reported with
      | nil => simp [actionsMatch]
      | cons found rest => simp [actionsMatch, ih]

theorem localSsds_eq_bind (group : Option Group) :
    localSsds group = (group.bind (·.disk)).bind (·.numLocalSsds) := by
  unfold localSsds disk
  cases group.bind (·.disk) <;> rfl

theorem bootDisk_eq_bind (group : Option Group) :
    bootDisk group = (group.bind (·.disk)).bind (·.bootDiskSizeGb) := by
  unfold bootDisk disk
  cases group.bind (·.disk) <;> rfl

end Spec

end ManagedCluster
