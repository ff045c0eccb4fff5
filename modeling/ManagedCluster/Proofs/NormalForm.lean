import Mathlib.Data.List.TakeWhile
import ManagedCluster.Scope
import ManagedCluster.Uri

/-! # Normal forms of names and scopes

The last segment of an address and the address of a scope are normal forms: taking them twice is the
same as taking them once. A list of scopes is in normal form when it holds addresses in order.
-/

namespace ManagedCluster

@[simp] theorem Uri.lastSegment_idem (uri : String) :
    lastSegment (lastSegment uri) = lastSegment uri := by
  simp only [lastSegment, String.toList_ofList, List.reverse_reverse, List.takeWhile_idem]

@[simp] theorem Uri.lastSegment_comp_lastSegment : lastSegment ∘ lastSegment = lastSegment :=
  funext lastSegment_idem

namespace Scope

/-- No alias stands for another alias. -/
theorem lookup_aliases_address :
    aliases.all fun entry => (aliases.lookup entry.2).isNone := by
  decide +kernel

@[simp] theorem canonical_idem (scope : String) :
    canonical (canonical scope) = canonical scope := by
  cases found : aliases.lookup scope with
  | none => simp only [canonical, found, Option.getD_none]
  | some address =>
      obtain ⟨before, after, split, -⟩ := List.lookup_eq_some_iff.mp found
      have member : (scope, address) ∈ aliases := by simp [split]
      have noAlias := List.all_eq_true.mp lookup_aliases_address _ member
      rw [Option.isNone_iff_eq_none] at noAlias
      simp only [canonical, found, Option.getD_some, noAlias, Option.getD_none]

/-- The baseline scopes are given by their addresses. -/
theorem canonical_of_mem_baseline {scope : String} (member : scope ∈ baseline) :
    canonical scope = scope := by
  have each : baseline.all fun scope => canonical scope == scope := by decide +kernel
  exact eq_of_beq (List.all_eq_true.mp each scope member)

theorem sorted_mergeSort (scopes : List String) :
    (scopes.mergeSort fun a b => a ≤ b).Pairwise fun a b => decide (a ≤ b) = true := by
  refine List.pairwise_mergeSort (fun a b c ab bc => ?_) (fun a b => ?_) scopes
  · exact decide_eq_true (String.le_trans (of_decide_eq_true ab) (of_decide_eq_true bc))
  · simpa using String.le_total a b

@[simp] theorem mergeSort_canonicalList (scopes : List String) :
    (canonicalList scopes).mergeSort (fun a b => a ≤ b) = canonicalList scopes :=
  List.mergeSort_of_pairwise (sorted_mergeSort _)

theorem mem_canonicalList {scope : String} {scopes : List String} :
    scope ∈ canonicalList scopes ↔ ∃ given ∈ scopes, canonical given = scope := by
  simp only [canonicalList, List.mem_mergeSort, List.mem_map]

@[simp] theorem canonicalList_idem (scopes : List String) :
    canonicalList (canonicalList scopes) = canonicalList scopes := by
  have same : (canonicalList scopes).map canonical = canonicalList scopes := by
    refine (List.map_congr_left fun scope member => ?_).trans (List.map_id _)
    obtain ⟨given, -, rfl⟩ := mem_canonicalList.mp member
    exact canonical_idem given
  rw [canonicalList, same, mergeSort_canonicalList]

end Scope

end ManagedCluster
