import Mathlib.Data.List.Forall2

/-! # Computations that can fail

A computation that fails stops, and a list of them stops at its first failure.
-/

namespace ManagedCluster

variable {α β ε : Type}

theorem ok_bind (a : α) (next : α → Except ε β) : (Except.ok a >>= next) = next a := rfl

theorem error_bind (e : ε) (next : α → Except ε β) : (Except.error e >>= next) = .error e := rfl

variable {f : α → Except ε β}

theorem mapM_eq_ok_iff {xs : List α} {ys : List β} :
    xs.mapM f = .ok ys ↔ List.Forall₂ (fun x y => f x = .ok y) xs ys := by
  induction xs generalizing ys with
  | nil => cases ys <;> simp [pure, Except.pure]
  | cons x xs ih =>
      rw [List.mapM_cons]
      cases first : f x with
      | error e => cases ys <;> simp [bind, Except.bind, first]
      | ok y =>
          cases others : xs.mapM f with
          | error e => cases ys <;> simp [bind, Except.bind, first, ← ih, others]
          | ok rest => cases ys <;> simp [bind, Except.bind, pure, Except.pure, first, ← ih, others]

theorem exists_mapM_eq_ok_iff {xs : List α} :
    (∃ ys, xs.mapM f = .ok ys) ↔ ∀ x ∈ xs, ∃ y, f x = .ok y := by
  simp only [mapM_eq_ok_iff]
  induction xs with
  | nil => simp
  | cons x xs ih =>
      simp only [List.forall₂_cons_left_iff, List.forall_mem_cons, ← ih]
      constructor
      · rintro ⟨_, y, ys, first, rest, -⟩
        exact ⟨⟨y, first⟩, ys, rest⟩
      · rintro ⟨⟨y, first⟩, ys, rest⟩
        exact ⟨_, y, ys, first, rest, rfl⟩

/-- The first failure decides. -/
theorem mapM_eq_error {before after : List α} {x : α} {e : ε}
    (earlier : ∀ y ∈ before, ∃ z, f y = .ok z) (failure : f x = .error e) :
    (before ++ x :: after).mapM f = .error e := by
  induction before with
  | nil => rw [List.nil_append, List.mapM_cons, failure, error_bind]
  | cons y before ih =>
      obtain ⟨z, first⟩ := earlier y List.mem_cons_self
      have rest := ih fun y member => earlier y (List.mem_cons_of_mem _ member)
      rw [List.cons_append, List.mapM_cons, first, ok_bind, rest, error_bind]

theorem mapM_eq_error_iff {xs : List α} {e : ε} :
    xs.mapM f = .error e ↔
      ∃ before x after, xs = before ++ x :: after ∧ (∀ y ∈ before, ∃ z, f y = .ok z) ∧
        f x = .error e := by
  constructor
  · intro failed
    induction xs with
    | nil => cases failed
    | cons x xs ih =>
        rw [List.mapM_cons] at failed
        cases first : f x with
        | error found =>
            rw [first, error_bind] at failed
            cases failed
            exact ⟨[], x, xs, rfl, List.forall_mem_nil _, first⟩
        | ok y =>
            rw [first, ok_bind] at failed
            cases others : xs.mapM f with
            | ok rest =>
                rw [others] at failed
                cases failed
            | error found =>
                rw [others, error_bind] at failed
                cases failed
                obtain ⟨before, failing, after, rfl, earlier, failure⟩ := ih others
                exact ⟨x :: before, failing, after, rfl,
                  List.forall_mem_cons.mpr ⟨⟨y, first⟩, earlier⟩, failure⟩
  · rintro ⟨before, x, after, rfl, earlier, failure⟩
    exact mapM_eq_error earlier failure

end ManagedCluster
