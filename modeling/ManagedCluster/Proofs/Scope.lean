import Mathlib.Data.List.Dedup
import Mathlib.Data.Multiset.Basic
import Mathlib.Logic.Relation
import ManagedCluster.Proofs.NormalForm

/-! # The access that scopes grant

Two lists of scopes grant the same access if the one can be restated as the other: in another order,
with repetitions, with addresses for aliases, and with more or fewer of the baseline scopes. The
comparison of scopes finds exactly that. What is sent is a normal form of the addresses, in which
repetitions still count.
-/

namespace ManagedCluster

namespace Scope

/-- A baseline scope, given by its address or by an alias of it. -/
def IsBaseline (scope : String) : Prop :=
  scope ∈ baseline ∨ ∃ address ∈ baseline, (scope, address) ∈ aliases

/-- A step from one list of scopes to another that grants the same access. -/
inductive Restates : List String → List String → Prop
  | reordered {scopes others : List String} : scopes.Perm others → Restates scopes others
  | repeated {scopes : List String} {scope : String} :
      scope ∈ scopes → Restates scopes (scope :: scopes)
  | spelledOut (before after : List String) {name address : String} :
      (name, address) ∈ aliases → Restates (before ++ name :: after) (before ++ address :: after)
  | baselineAdded (before after : List String) {scope : String} :
      IsBaseline scope → Restates (before ++ after) (before ++ scope :: after)

/-- Steps in either direction lead from the one list to the other. -/
def SameAccess : List String → List String → Prop := Relation.EqvGen Restates

/-- The scopes are all among the given ones, in some spelling, or baseline scopes. -/
def Covers (given scopes : List String) : Prop :=
  ∀ scope ∈ scopes, canonical scope ∉ baseline →
    ∃ other ∈ given, canonical other = canonical scope

theorem equivalent_iff {left right : List String} :
    equivalent left right = true ↔
      ∀ scope, scope ∈ effective left ↔ scope ∈ effective right := by
  simp only [equivalent, Bool.and_eq_true, List.all_eq_true, List.contains_iff_mem]
  exact ⟨fun ⟨there, back⟩ scope => ⟨there scope, back scope⟩,
    fun same => ⟨fun scope => (same scope).mp, fun scope => (same scope).mpr⟩⟩

theorem mem_effective_iff {scope : String} {scopes : List String} :
    scope ∈ effective scopes ↔ (∃ given ∈ scopes, canonical given = scope) ∨ scope ∈ baseline := by
  simp only [effective, List.mem_append, List.mem_map]

/-- No alias is listed twice. -/
theorem lookup_aliases_name :
    aliases.all fun entry => aliases.lookup entry.1 == some entry.2 := by
  decide +kernel

theorem canonical_of_mem_aliases {name address : String} (listed : (name, address) ∈ aliases) :
    canonical name = address := by
  have found := eq_of_beq (List.all_eq_true.mp lookup_aliases_name _ listed)
  simp only [canonical, found, Option.getD_some]

theorem canonical_eq_self_or_mem_aliases (scope : String) :
    canonical scope = scope ∨ (scope, canonical scope) ∈ aliases := by
  cases found : aliases.lookup scope with
  | none => simp [canonical, found]
  | some address =>
      obtain ⟨before, after, split, -⟩ := List.lookup_eq_some_iff.mp found
      have listed : (scope, address) ∈ aliases := by simp [split]
      exact .inr (by simpa only [canonical, found, Option.getD_some] using listed)

theorem isBaseline_iff {scope : String} : IsBaseline scope ↔ canonical scope ∈ baseline := by
  constructor
  · rintro (member | ⟨address, member, listed⟩)
    · rwa [canonical_of_mem_baseline member]
    · rwa [canonical_of_mem_aliases listed]
  · intro member
    rcases canonical_eq_self_or_mem_aliases scope with same | listed
    · exact .inl (same ▸ member)
    · exact .inr ⟨canonical scope, member, listed⟩

section SameAccess

variable {scopes others left right : List String}

theorem Restates.effective_iff (step : Restates scopes others) (scope : String) :
    scope ∈ effective scopes ↔ scope ∈ effective others := by
  simp only [mem_effective_iff]
  cases step with
  | reordered perm => simp only [perm.mem_iff]
  | repeated member => grind
  | spelledOut _ _ listed =>
      obtain rfl := canonical_of_mem_aliases listed
      simp [or_and_right, exists_or]
  | baselineAdded _ _ base =>
      have member := isBaseline_iff.mp base
      grind

theorem SameAccess.effective_iff (same : SameAccess scopes others) (scope : String) :
    scope ∈ effective scopes ↔ scope ∈ effective others := by
  induction same with
  | rel scopes others step => exact step.effective_iff scope
  | refl scopes => rfl
  | symm scopes others _ ih => exact ih.symm
  | trans scopes between others _ _ first second => exact first.trans second

theorem Restates.cons (step : Restates scopes others) (first : String) :
    SameAccess (first :: scopes) (first :: others) := by
  cases step with
  | reordered perm => exact .rel _ _ (.reordered (perm.cons first))
  | repeated member =>
      exact .trans _ _ _ (.rel _ _ (.repeated (List.mem_cons_of_mem _ member)))
        (.rel _ _ (.reordered (.swap _ _ _)))
  | spelledOut before after listed =>
      exact .rel _ _ (.spelledOut (first :: before) after listed)
  | baselineAdded before after base =>
      exact .rel _ _ (.baselineAdded (first :: before) after base)

theorem SameAccess.cons (same : SameAccess scopes others) (first : String) :
    SameAccess (first :: scopes) (first :: others) := by
  induction same with
  | rel scopes others step => exact step.cons first
  | refl scopes => exact .refl _
  | symm scopes others _ ih => exact .symm _ _ ih
  | trans scopes between others _ _ there further => exact .trans _ _ _ there further

theorem sameAccess_dedup (scopes : List String) : SameAccess scopes scopes.dedup := by
  induction scopes with
  | nil => exact .refl _
  | cons scope rest ih =>
      by_cases member : scope ∈ rest
      · rw [List.dedup_cons_of_mem member]
        exact .trans _ _ _ (.symm _ _ (.rel _ _ (.repeated member))) ih
      · rw [List.dedup_cons_of_notMem member]
        exact ih.cons scope

theorem sameAccess_of_mem_iff (same : ∀ scope, scope ∈ scopes ↔ scope ∈ others) :
    SameAccess scopes others := by
  have perm : scopes.dedup.Perm others.dedup :=
    (List.perm_ext_iff_of_nodup scopes.nodup_dedup others.nodup_dedup).mpr fun scope => by
      simp only [List.mem_dedup, same scope]
  exact .trans _ _ _ (sameAccess_dedup scopes)
    (.trans _ _ _ (.rel _ _ (.reordered perm)) (.symm _ _ (sameAccess_dedup others)))

theorem sameAccess_map_canonical (scopes : List String) :
    SameAccess scopes (scopes.map canonical) := by
  induction scopes with
  | nil => exact .refl _
  | cons scope rest ih =>
      refine .trans _ _ _ (ih.cons scope) ?_
      rcases canonical_eq_self_or_mem_aliases scope with same | listed
      · rw [List.map_cons, same]
        exact .refl _
      · exact .rel _ _ (.spelledOut [] _ listed)

theorem sameAccess_append {base : List String} (isBase : ∀ scope ∈ base, IsBaseline scope) :
    SameAccess scopes (scopes ++ base) := by
  induction base with
  | nil =>
      rw [List.append_nil]
      exact .refl _
  | cons scope rest ih =>
      obtain ⟨first, others⟩ := List.forall_mem_cons.mp isBase
      exact .trans _ _ _ (ih others) (.rel _ _ (.baselineAdded _ _ first))

/-- The addresses together with the baseline are one way to restate a list of scopes. -/
theorem sameAccess_effective (scopes : List String) : SameAccess scopes (effective scopes) :=
  .trans _ _ _ (sameAccess_map_canonical scopes) (sameAccess_append fun _ member => .inl member)

theorem equivalent_iff_sameAccess : equivalent left right = true ↔ SameAccess left right := by
  constructor
  · intro same
    exact .trans _ _ _ (sameAccess_effective left)
      (.trans _ _ _ (sameAccess_of_mem_iff (equivalent_iff.mp same))
        (.symm _ _ (sameAccess_effective right)))
  · intro same
    exact equivalent_iff.mpr same.effective_iff

theorem equivalent_congr (sameLeft : SameAccess left scopes) (sameRight : SameAccess right others) :
    equivalent scopes others = equivalent left right := by
  rw [Bool.eq_iff_iff, equivalent_iff_sameAccess, equivalent_iff_sameAccess]
  exact ⟨fun same => .trans _ _ _ sameLeft (.trans _ _ _ same (.symm _ _ sameRight)),
    fun same => .trans _ _ _ (.symm _ _ sameLeft) (.trans _ _ _ same sameRight)⟩

theorem covers_iff : Covers left right ↔ ∀ scope ∈ effective right, scope ∈ effective left := by
  simp only [Covers, mem_effective_iff]
  constructor
  · rintro covers scope (⟨given, member, rfl⟩ | base)
    · by_cases base : canonical given ∈ baseline
      · exact .inr base
      · exact .inl (covers given member base)
    · exact .inr base
  · intro granted scope member more
    exact (granted _ (.inl ⟨scope, member, rfl⟩)).resolve_right more

theorem equivalent_iff_covers :
    equivalent left right = true ↔ Covers right left ∧ Covers left right := by
  simp only [equivalent_iff, covers_iff, iff_iff_implies_and_implies, forall_and]

end SameAccess

section NormalForm

variable {left right : List String}

theorem canonicalList_sorted (scopes : List String) :
    (canonicalList scopes).Pairwise (· ≤ ·) :=
  (sorted_mergeSort _).imp of_decide_eq_true

theorem canonicalList_perm (scopes : List String) :
    (canonicalList scopes).Perm (scopes.map canonical) :=
  List.mergeSort_perm _ _

theorem canonicalList_eq_iff :
    canonicalList left = canonicalList right ↔ (left.map canonical).Perm (right.map canonical) := by
  constructor
  · intro same
    exact (canonicalList_perm left).symm.trans (same ▸ canonicalList_perm right)
  · intro perm
    have same : (canonicalList left).Perm (canonicalList right) :=
      (canonicalList_perm left).trans (perm.trans (canonicalList_perm right).symm)
    exact same.eq_of_pairwise (fun _ _ _ _ => String.le_antisymm) (canonicalList_sorted left)
      (canonicalList_sorted right)

theorem sameAccess_canonicalList (scopes : List String) :
    SameAccess scopes (canonicalList scopes) :=
  .trans _ _ _ (sameAccess_map_canonical scopes)
    (.rel _ _ (.reordered (canonicalList_perm scopes).symm))

end NormalForm

/-- Scopes are compared by the access that they grant, whatever their spelling and number. They are
sent as the sorted list of their addresses, which is the same for two lists exactly if both have the
same addresses equally often. -/
theorem comparison_by_access (left right : List String) :
    (equivalent left right = true ↔ SameAccess left right) ∧
    (∀ scopes others, SameAccess left scopes → SameAccess right others →
      equivalent scopes others = equivalent left right) ∧
    (equivalent left right = true ↔ Covers right left ∧ Covers left right) ∧
    (∀ scope, canonical (canonical scope) = canonical scope) ∧
    (canonicalList left).Pairwise (· ≤ ·) ∧
    (canonicalList left).Perm (left.map canonical) ∧
    canonicalList (canonicalList left) = canonicalList left ∧
    (canonicalList left = canonicalList right ↔
      (left.map canonical : Multiset String) = (right.map canonical : Multiset String)) ∧
    ∀ base, (∀ scope ∈ base, IsBaseline scope) →
      equivalent left (canonicalList left ++ base) = true := by
  refine ⟨equivalent_iff_sameAccess, fun _ _ => equivalent_congr, equivalent_iff_covers,
    canonical_idem, canonicalList_sorted left, canonicalList_perm left, canonicalList_idem left, ?_,
    ?_⟩
  · rw [canonicalList_eq_iff, Multiset.coe_eq_coe]
  · intro base isBase
    exact equivalent_iff_sameAccess.mpr
      (.trans _ _ _ (sameAccess_canonicalList left) (sameAccess_append isBase))

theorem isBaseline_loggingWrite : IsBaseline "logging-write" :=
  .inr ⟨addressBase ++ "logging.write", by decide +kernel, by decide +kernel⟩

/-- An alias of a baseline scope does not count, and neither does a repetition. -/
theorem comparison_by_access_logging :
    SameAccess ["logging-write", "sql"] ["sql", "sql"] ∧
    equivalent ["sql", "sql"] ["sql-admin"] = equivalent ["logging-write", "sql"] ["sql-admin"] ∧
    IsBaseline "logging-write" ∧
    equivalent ["sql"] (canonicalList ["sql"] ++ ["logging-write"]) = true := by
  have withoutBaseline : SameAccess ["logging-write", "sql"] ["sql"] :=
    .symm _ _ (.rel _ _ (.baselineAdded [] _ isBaseline_loggingWrite))
  have same : SameAccess ["logging-write", "sql"] ["sql", "sql"] :=
    .trans _ _ _ withoutBaseline (.rel _ _ (.repeated List.mem_cons_self))
  obtain ⟨-, unchanged, -⟩ := comparison_by_access ["logging-write", "sql"] ["sql-admin"]
  obtain ⟨-, -, -, -, -, -, -, -, enriched⟩ := comparison_by_access ["sql"] []
  refine ⟨same, unchanged _ _ same (.refl _), isBaseline_loggingWrite, enriched _ ?_⟩
  exact List.forall_mem_singleton.mpr isBaseline_loggingWrite

end Scope

end ManagedCluster
